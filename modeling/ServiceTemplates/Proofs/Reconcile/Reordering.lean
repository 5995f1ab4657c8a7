import ServiceTemplates.Proofs.Reconcile.Resolution

/-!
# The order of lists

Listers may list what they know in any order. A resolution sorts by name what is listed for it, so
that the order makes no difference as long as the templates of one kind and one scope are told
apart by their names. Main statements: `sortByName_eq_of_perm` and `resolution_reordered`.
-/

namespace ServiceTemplates

/-! ## Sorting what is told apart by name -/

section ByName

variable {k : Kind} {found found' : List (Object k)}

/-- Objects that are told apart by their names are sorted alike from any order. -/
theorem sortByName_eq_of_perm (h : found.Perm found')
    (hnames : ∀ a ∈ found, ∀ b ∈ found, a.metadata.name = b.metadata.name → a = b) :
    sortByName found = sortByName found' := by
  have hperm : (sortByName found).Perm (sortByName found') :=
    (List.mergeSort_perm found _).trans (h.trans (List.mergeSort_perm found' _).symm)
  have hsorted := List.pairwise_mergeSort (@name_isLE_trans k) name_isLE_total
  apply List.Perm.eq_of_pairwise _ (hsorted found) (hsorted found') hperm
  intro a b ha hb hab hba
  -- Of two objects that may stand in either order the names are equal.
  have hname : a.metadata.name = b.metadata.name :=
    Std.LawfulEqOrd.eq_of_compare (Std.OrientedCmp.isLE_antisymm hab hba)
  exact hnames a (List.mem_mergeSort.1 ha) b (h.mem_iff.2 (List.mem_mergeSort.1 hb)) hname

theorem firstByName_congr (h : sortByName found = sortByName found') :
    firstByName found = firstByName found' := congrArg List.head? h

theorem chooseBroker_congr {found found' : List (Object .brokerInstanceTemplate)}
    (h : sortByName found = sortByName found') (spec : TemplatedInstanceSpec) (narrower : Bool) :
    chooseBroker spec narrower found = chooseBroker spec narrower found' := by
  unfold chooseBroker
  rw [h]

end ByName

/-! ## Listers of the same objects -/

namespace Listers

/-- Whether listers know the same objects as others, and list them in any order. -/
structure Reorders (listers state : Listers) : Prop where
  get? : ∀ k ns name, listers.get? k ns name = state.get? k ns name
  list : ∀ k ns filter, (listers.list k ns filter).Perm (state.list k ns filter)

/-- Whether the templates of one kind and one scope have different names. -/
def NamesTemplates (listers : Listers) : Prop :=
  ∀ k : Kind, k.IsTemplate → ∀ a ∈ listers.all k, ∀ b ∈ listers.all k,
    (k.isNamespaced → a.metadata.ns = b.metadata.ns) → a.metadata.name = b.metadata.name → a = b

variable {listers state : Listers}

/-- Within a list over one scope the names tell templates apart. -/
theorem NamesTemplates.eq_of_mem_list (h : state.NamesTemplates) (hstate : state.Selective)
    {k : Kind} (hk : k.IsTemplate) {ns : Option String} (hns : k.isNamespaced → ns.isSome)
    {filter : LabelFilter} {a b : Object k} (ha : a ∈ state.list k ns filter)
    (hb : b ∈ state.list k ns filter) (hname : a.metadata.name = b.metadata.name) : a = b := by
  rw [hstate, List.mem_filter] at ha hb
  apply h k hk a ha.1 b hb.1 _ hname
  intro hscope
  obtain ⟨ns, rfl⟩ := Option.isSome_iff_exists.1 (hns hscope)
  have hin : ∀ {o : Object k}, o.metadata.inScope (some ns) filter → o.metadata.ns = some ns := by
    intro o ho
    exact beq_iff_eq.1 (Bool.and_eq_true_iff.1 ho).1
  rw [hin ha.2, hin hb.2]

/-- What is listed over one scope is sorted as it is from any other order. -/
theorem Reorders.sortByName_list (h : listers.Reorders state) (hstate : state.Selective)
    (hnames : state.NamesTemplates) (k : Kind) (hk : k.IsTemplate) {ns : Option String}
    (hns : k.isNamespaced → ns.isSome) (filter : LabelFilter) :
    sortByName (listers.list k ns filter) = sortByName (state.list k ns filter) :=
  (sortByName_eq_of_perm (h.list k ns filter).symm fun _ ha _ hb =>
    hnames.eq_of_mem_list hstate hk hns ha hb).symm

end Listers

/-- In a sound cluster a name stands once in every namespace. -/
theorem Cluster.Sound.namesTemplates {c : Cluster} (hc : c.Sound)
    (hwide : ∀ k : Kind, k.IsTemplate → ¬ k.isNamespaced →
      ∀ o ∈ c.listers.all k, o.metadata.ns = none) : c.listers.NamesTemplates := by
  intro k hk a ha b hb hscope hname
  have hns : a.metadata.ns = b.metadata.ns := by
    by_cases hnamespaced : k.isNamespaced
    · exact hscope hnamespaced
    · rw [hwide k hk hnamespaced a ha, hwide k hk hnamespaced b hb]
  have hfind : ∀ {o : Object k}, o ∈ c.listers.all k → c.find? k o.place = some o := by
    intro o ho
    have hmatching : o ∈ c.matching k none "" := ho
    obtain ⟨key, hkey⟩ := Cluster.find?_of_mem_matching hmatching
    rw [hc.place hkey]
    exact hkey
  have hplace : a.place = b.place := by
    simp only [Object.place, ObjectKey.ofMetadata, hns, hname]
  have hfound := hfind ha
  rw [hplace, hfind hb] at hfound
  exact (Option.some.inj hfound).symm

/-! ## Resolving from lists in another order -/

theorem Candidates.readFrom_resolve_congr {a b : Candidates}
    (hbrokers : sortByName a.brokers = sortByName b.brokers)
    (hcluster : sortByName a.cluster = sortByName b.cluster)
    (hnamespaced : sortByName a.namespaced = sortByName b.namespaced)
    (plans : PlanResolver) (inst : TemplatedInstance) (left right : Listers) :
    (a.resolve plans inst).readFrom left = (b.resolve plans inst).readFrom right := by
  show (Pass.run _ (a.resolve plans inst) _).1 = (Pass.run _ (b.resolve plans inst) _).1
  rw [run_resolve, run_resolve, firstByName_congr hcluster, firstByName_congr hnamespaced,
    chooseBroker_congr hbrokers]

section Reordered

variable {listers state : Listers}

theorem readFrom_resolveInstance_reordered (hstate : state.Selective)
    (hnames : state.NamesTemplates) (h : listers.Reorders state) (plans : PlanResolver)
    {inst : TemplatedInstance} (hns : inst.metadata.ns.isSome) :
    (resolveInstance plans inst).readFrom listers = (resolveInstance plans inst).readFrom state := by
  have hsort := h.sortByName_list hstate hnames
  rw [resolveInstance_eq]
  exact Candidates.readFrom_resolve_congr (hsort .brokerInstanceTemplate rfl nofun _)
    (hsort .clusterInstanceTemplate rfl nofun _) (hsort .instanceTemplate rfl (fun _ => hns) _)
    plans inst listers state

theorem readFrom_resolveBinding_reordered (hstate : state.Selective)
    (hnames : state.NamesTemplates) (h : listers.Reorders state) {binding : TemplatedBinding}
    (hns : binding.metadata.ns.isSome) :
    (resolveBinding binding).readFrom listers = (resolveBinding binding).readFrom state := by
  show (Pass.run _ (resolveBinding binding) _).1 = (Pass.run _ (resolveBinding binding) _).1
  rw [run_resolveBinding_eq (listers.answerReads_beside _),
    run_resolveBinding_eq (state.answerReads_beside _), h.get?]
  cases state.get? .templatedInstance binding.metadata.ns
    (TemplatedBindingSpec.instanceRef binding.spec).name with
  | none => rfl
  | some inst =>
    have hsort := h.sortByName_list hstate hnames
    dsimp only
    rw [firstByName_congr (hsort .brokerBindingTemplate rfl nofun _),
      firstByName_congr (hsort .clusterBindingTemplate rfl nofun _),
      firstByName_congr (hsort .bindingTemplate rfl (fun _ => hns) _)]

end Reordered

/-- **The order of lists makes no difference.** Listers of the same objects resolve an instance or
a binding of a namespace to the same template or to the same error, in whatever order each of them
lists the objects, if the templates of one kind and one scope have different names. -/
theorem resolution_reordered {state : Listers} (hstate : state.Selective)
    (hnames : state.NamesTemplates) {left right : Listers} (hleft : left.Reorders state)
    (hright : right.Reorders state) (plans : PlanResolver) :
    (∀ (inst : TemplatedInstance) (ns : String), inst.metadata.ns = some ns →
      (resolveInstance plans inst).readFrom left = (resolveInstance plans inst).readFrom right) ∧
    ∀ (binding : TemplatedBinding) (ns : String), binding.metadata.ns = some ns →
      (resolveBinding binding).readFrom left = (resolveBinding binding).readFrom right := by
  constructor
  · intro inst ns hns
    have hsome : inst.metadata.ns.isSome := hns ▸ rfl
    rw [readFrom_resolveInstance_reordered hstate hnames hleft plans hsome,
      readFrom_resolveInstance_reordered hstate hnames hright plans hsome]
  · intro binding ns hns
    have hsome : binding.metadata.ns.isSome := hns ▸ rfl
    rw [readFrom_resolveBinding_reordered hstate hnames hleft hsome,
      readFrom_resolveBinding_reordered hstate hnames hright hsome]

/-- Of two templates the same one is taken when they are listed the other way round. -/
theorem resolution_reordered_reversed :
    let template (name : String) : Object .instanceTemplate :=
      { metadata := {
          name := some name
          ns := some "default"
          labels := some (.ofList [(serviceTypeLabel, "mysql")]) }
        spec := { plan := .ofClusterExternal "mysql" name } }
    let inst : TemplatedInstance :=
      { metadata := { name := some "db", ns := some "default" }
        spec := { serviceType := "mysql" } }
    let binding : TemplatedBinding :=
      { metadata := { name := some "app", ns := some "default" }
        spec := { instanceRef := { name := "db" } } }
    let c := (((Cluster.empty.insert (template "small")).2.insert (template "large")).2.insert
      inst).2
    let reversed : Listers :=
      { c.listers with list := fun k ns filter => (c.listers.list k ns filter).reverse }
    c.listers.Selective ∧ c.listers.NamesTemplates ∧
      c.listers.Reorders c.listers ∧ reversed.Reorders c.listers ∧
      (c.listers.list .instanceTemplate (some "default") (.forServiceType "mysql")).map
        (·.metadata.name) = [some "large", some "small"] ∧
      (reversed.list .instanceTemplate (some "default") (.forServiceType "mysql")).map
        (·.metadata.name) = [some "small", some "large"] ∧
      inst.metadata.ns = some "default" ∧
      (resolveInstance noPlans inst).readFrom c.listers =
        (resolveInstance noPlans inst).readFrom reversed ∧
      binding.metadata.ns = some "default" ∧
      (resolveBinding binding).readFrom c.listers = (resolveBinding binding).readFrom reversed := by
  intro template inst binding c reversed
  have hsound : c.Sound := ((Cluster.sound_empty.insert _).insert _).insert _
  have hnames : c.listers.NamesTemplates := hsound.namesTemplates fun k hk hwide o ho => by
    cases k <;> first | exact absurd rfl hwide | cases ho
  have hself : c.listers.Reorders c.listers := ⟨fun _ _ _ => rfl, fun _ _ _ => .refl _⟩
  have hreversed : reversed.Reorders c.listers :=
    ⟨fun _ _ _ => rfl, fun _ _ _ => List.reverse_perm _⟩
  obtain ⟨hinst, hbinding⟩ :=
    resolution_reordered c.listers_selective hnames hself hreversed noPlans
  exact ⟨c.listers_selective, hnames, hself, hreversed, by decide, by decide, rfl,
    hinst inst "default" rfl, rfl, hbinding binding "default" rfl⟩

end ServiceTemplates
