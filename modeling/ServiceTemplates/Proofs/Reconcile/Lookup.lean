import ServiceTemplates.Proofs.Reconcile.Flow
import ServiceTemplates.Proofs.Reconcile.Listing
import ServiceTemplates.Reconcile.Managed

/-!
# What look-ups depend on

A list depends on the objects that belong to it, a resolution on the templates that are listed
for it, and the chain from a secret to a templated binding on the objects along it. Main
statements: `Cluster.matching_congr`, `resolveInstance_congr` and `resolveBinding_congr`.
-/

namespace ServiceTemplates

/-! ## What is listed -/

namespace SortedMap

variable {κ V : Type} [Ord κ]

/-- The bindings whose values are to be kept. -/
def restrict (m : SortedMap κ V) (keep : V → Bool) : SortedMap κ V :=
  ⟨m.entries.filter fun e => keep e.2, List.Pairwise.filter _ m.sorted⟩

theorem values_restrict (m : SortedMap κ V) (keep : V → Bool) :
    (m.restrict keep).values = m.values.filter keep := by
  rw [values, values, restrict, List.filter_map]
  rfl

/-- A restricted map shows what it keeps. -/
theorem find?_restrict_eq_some_iff [Std.TransOrd κ] [Std.LawfulEqOrd κ] {m : SortedMap κ V}
    {keep : V → Bool} {k : κ} {v : V} :
    (m.restrict keep).find? k = some v ↔ m.find? k = some v ∧ keep v := by
  rw [← mem_entries_iff, ← mem_entries_iff, restrict, List.mem_filter]

/-- What is kept of two maps is the same if they agree on it. -/
theorem restrict_congr [Std.TransOrd κ] [Std.LawfulEqOrd κ] {a b : SortedMap κ V} {keep : V → Bool}
    (h : ∀ k v, keep v → (a.find? k = some v ↔ b.find? k = some v)) :
    a.restrict keep = b.restrict keep := by
  apply ext_find?
  intro k
  apply Option.ext
  intro v
  rw [find?_restrict_eq_some_iff, find?_restrict_eq_some_iff]
  constructor
  · rintro ⟨hfound, hkeep⟩
    exact ⟨(h k v hkeep).1 hfound, hkeep⟩
  · rintro ⟨hfound, hkeep⟩
    exact ⟨(h k v hkeep).2 hfound, hkeep⟩

end SortedMap

namespace Cluster

variable {c d : Cluster} {k : Kind} {ns : String} {serviceType : String}

/-- What is listed is the same if the clusters agree on it. -/
theorem matching_congr {ns? : Option String}
    (h : ∀ place (o : Object k), o.metadata.inScope ns? (.forServiceType serviceType) →
      (d.find? k place = some o ↔ c.find? k place = some o)) :
    d.matching k ns? serviceType = c.matching k ns? serviceType := by
  unfold matching Store.list Store.all
  rw [← SortedMap.values_restrict, ← SortedMap.values_restrict, SortedMap.restrict_congr h]

/-- What matches in the whole cluster is determined by what serves the service type. -/
theorem matching_congr_wide
    (h : ∀ place (o : Object k), o.metadata.Serves serviceType →
      (d.find? k place = some o ↔ c.find? k place = some o)) :
    d.matching k none serviceType = c.matching k none serviceType := by
  refine matching_congr fun place o hscope => h place o ?_
  simpa [Metadata.inScope, LabelFilter.accepts_forServiceType] using hscope

/-- What matches within a namespace is determined by what stands in it. -/
theorem matching_congr_within (hc : c.Sound) (hd : d.Sound)
    (h : ∀ name, d.find? k ⟨ns, name⟩ = c.find? k ⟨ns, name⟩) :
    d.matching k (some ns) serviceType = c.matching k (some ns) serviceType := by
  refine matching_congr fun place o hscope => ?_
  have hns : o.metadata.ns = some ns := by
    simp only [Metadata.inScope, Bool.and_eq_true, beq_iff_eq] at hscope
    exact hscope.1
  have hplace : ∀ {c : Cluster}, c.Sound → c.find? k place = some o → place.ns = ns := by
    intro c hc ho
    rw [← hc.place ho, Object.place, ObjectKey.ofMetadata, hns]
    rfl
  constructor
  · intro ho
    obtain rfl := hplace hd ho
    rw [← h]
    exact ho
  · intro ho
    obtain rfl := hplace hc ho
    rw [h]
    exact ho

end Cluster

/-! ## What is resolved -/

/-- A computation on what was read ends as it does on the result of the reading. -/
theorem Pass.run_computed_fst {σ α β γ : Type} (answer : Answerer σ) (p : Pass α)
    (f : α → Except Error β) (g : β → γ) (s : σ) :
    ((p >>= fun a => Pass.ofExcept (f a) >>= fun b => pure (g b)).run answer s).1 =
      (p.run answer s).1 >>= fun a => (f a).map g := by
  refine run_bind_fst answer rfl fun a s => ?_
  cases hf : f a <;> rfl

section Resolve

variable {c d : Cluster}

/-- An instance resolves to the same as long as the same templates match its service type. -/
theorem resolveInstance_congr {plans : PlanResolver} {inst : TemplatedInstance}
    {serviceType : String} (htype : TemplatedInstanceSpec.serviceType inst.spec = serviceType)
    (hbroker : d.matching .brokerInstanceTemplate none serviceType =
      c.matching .brokerInstanceTemplate none serviceType)
    (hcluster : d.matching .clusterInstanceTemplate none serviceType =
      c.matching .clusterInstanceTemplate none serviceType)
    (hnamespaced : d.matching .instanceTemplate inst.metadata.ns serviceType =
      c.matching .instanceTemplate inst.metadata.ns serviceType) :
    (((instanceFlow plans).resolve inst).run Cluster.serve d).1 =
      (((instanceFlow plans).resolve inst).run Cluster.serve c).1 := by
  subst htype
  have hresolve : ((resolveInstance plans inst).run Cluster.serve d).1 =
      ((resolveInstance plans inst).run Cluster.serve c).1 := by
    unfold Cluster.matching at hbroker hcluster hnamespaced
    rw [resolveInstance_eq]
    simp only [Pass.run_cachedList_bind, Candidates.run_resolve, hbroker, hcluster, hnamespaced]
  have happly := Pass.run_computed_fst Cluster.serve (resolveInstance plans inst)
    (TemplatedInstance.applyTemplate inst) (·.spec)
  exact (happly d).trans ((congrArg (· >>= _) hresolve).trans (happly c).symm)

/-- A binding does, as long as its instance has the same service type. -/
theorem resolveBinding_congr {binding : TemplatedBinding}
    (hinst : ((d.store .templatedInstance).get? binding.metadata.ns
        (TemplatedBindingSpec.instanceRef binding.spec).name).map
          (fun inst => TemplatedInstanceSpec.serviceType inst.spec) =
      ((c.store .templatedInstance).get? binding.metadata.ns
        (TemplatedBindingSpec.instanceRef binding.spec).name).map
          (fun inst => TemplatedInstanceSpec.serviceType inst.spec))
    (htemplates : ∀ inst, (c.store .templatedInstance).get? binding.metadata.ns
        (TemplatedBindingSpec.instanceRef binding.spec).name = some inst →
      let serviceType := TemplatedInstanceSpec.serviceType inst.spec
      d.matching .brokerBindingTemplate none serviceType =
          c.matching .brokerBindingTemplate none serviceType ∧
        d.matching .clusterBindingTemplate none serviceType =
          c.matching .clusterBindingTemplate none serviceType ∧
        d.matching .bindingTemplate binding.metadata.ns serviceType =
          c.matching .bindingTemplate binding.metadata.ns serviceType) :
    ((bindingFlow.resolve binding).run Cluster.serve d).1 =
      ((bindingFlow.resolve binding).run Cluster.serve c).1 := by
  have hresolve : ((resolveBinding binding).run Cluster.serve d).1 =
      ((resolveBinding binding).run Cluster.serve c).1 := by
    rw [run_resolveBinding, run_resolveBinding]
    generalize (c.store .templatedInstance).get? binding.metadata.ns
      (TemplatedBindingSpec.instanceRef binding.spec).name = found at hinst htemplates
    generalize (d.store .templatedInstance).get? binding.metadata.ns
      (TemplatedBindingSpec.instanceRef binding.spec).name = found' at hinst
    cases found with
    | none =>
      rw [Option.map_eq_none_iff.1 hinst]
    | some inst =>
      obtain ⟨inst', rfl, htype⟩ := Option.map_eq_some_iff.1 hinst
      obtain ⟨hbroker, hcluster, hnamespaced⟩ := htemplates inst rfl
      dsimp only
      rw [htype, hbroker, hcluster, hnamespaced]
  have happly := Pass.run_computed_fst Cluster.serve (resolveBinding binding)
    (TemplatedBinding.applyTemplate binding) (·.spec)
  exact (happly d).trans ((congrArg (· >>= _) hresolve).trans (happly c).symm)

end Resolve

/-! ## Where a chain ends -/

namespace Cluster

/-- The templated binding at the end of the chain that starts at a secret. -/
def managedBinding? (c : Cluster) (secret : Secret) : Option TemplatedBinding := do
  let name ← secret.metadata.controllerName? .serviceBinding
  let binding ← c.find? .serviceBinding ⟨secret.nsOrEmpty, name⟩
  let name ← binding.metadata.controllerName? .templatedBinding
  c.find? .templatedBinding ⟨secret.nsOrEmpty, name⟩

/-- The chain from a secret to its templated binding, as a look-up. -/
theorem run_managedBinding (c : Cluster) (secret : Secret) :
    ((managedBinding secret).run Cluster.serve c).1 = .ok (c.managedBinding? secret) := by
  unfold managedBinding managedBinding?
  dsimp only
  cases secret.metadata.controllerName? .serviceBinding with
  | none => rfl
  | some name =>
    show (Pass.run _ (Pass.cached _ _ _ >>= _) c).1 = _
    rw [Pass.run_cached_bind, Option.bind_eq_bind, Option.bind_some]
    show _ = Except.ok (((c.store .serviceBinding).get? secret.metadata.ns name).bind _)
    cases (c.store .serviceBinding).get? secret.metadata.ns name with
    | none => rfl
    | some binding =>
      rw [Option.bind_some]
      dsimp only
      cases binding.metadata.controllerName? .templatedBinding with
      | none => rfl
      | some name => rfl

/-- The chain is determined by the bindings in the namespace of the secret. -/
theorem managedBinding?_congr {c d : Cluster} {secret : Secret}
    (hbinding : ∀ name, d.find? .serviceBinding ⟨secret.nsOrEmpty, name⟩ =
      c.find? .serviceBinding ⟨secret.nsOrEmpty, name⟩)
    (htemplated : ∀ name, d.find? .templatedBinding ⟨secret.nsOrEmpty, name⟩ =
      c.find? .templatedBinding ⟨secret.nsOrEmpty, name⟩) :
    d.managedBinding? secret = c.managedBinding? secret := by
  unfold managedBinding?
  simp only [hbinding, htemplated]

end Cluster

end ServiceTemplates
