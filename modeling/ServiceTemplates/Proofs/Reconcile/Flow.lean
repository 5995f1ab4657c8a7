import ServiceTemplates.Proofs.Pass.Interaction
import ServiceTemplates.Proofs.Pass.Unreliable
import ServiceTemplates.Proofs.Reconcile.Resolve
import ServiceTemplates.Reconcile.Binding
import ServiceTemplates.Reconcile.Instance

/-!
# The shape of a reconciling pass

The passes for templated instances and for templated bindings take the same steps in the
same order and differ in what they resolve, build, compare and report. A `Flow` is what
they differ in, `Flow.pass` is what they have in common, so that what follows from the
order of the steps is proved once. Main statements: `synchronizeInstance_eq` and
`synchronizeBinding_eq`.
-/

namespace ServiceTemplates

/-- An observed state without the time at which it was recorded. -/
def Kind.undated : (k : Kind) → k.Status → k.Status
  | .templatedInstance, (status : TemplatedInstanceStatus) => { status with lastSyncTime := none }
  | .templatedBinding, (status : TemplatedBindingStatus) => { status with lastSyncTime := none }
  | _, status => status

/-! ## Keys and what is provisioned under them -/

private theorem ofList_ne_empty {cs : List Char} (h : cs.isEmpty = false) :
    String.ofList cs ≠ "" := by
  intro he
  have hnil : cs = [] := by simpa using congrArg String.toList he
  simp [hnil] at h

theorem wellFormedKey?_eq_some_iff {key ns name : String} :
    wellFormedKey? key = some (ns, name) ↔ splitKey key = .ok (ns, name) := by
  unfold wellFormedKey?
  cases splitKey key <;> simp [Except.toOption]

theorem wellFormedKey?_ne {key ns name : String} (h : wellFormedKey? key = some (ns, name)) :
    ns ≠ "" ∧ name ≠ "" := by
  unfold wellFormedKey? splitKey at h
  dsimp only at h
  split at h
  · split at h
    · cases h
    · next hno =>
      simp only [Bool.or_eq_true, not_or, Bool.not_eq_true] at hno
      obtain ⟨rfl, rfl⟩ := Prod.mk.inj (Option.some.inj h)
      exact ⟨ofList_ne_empty hno.1.1, ofList_ne_empty hno.1.2⟩
  · cases h

/-- Whether `o` is what a pass found when it looked up its key. -/
def ReadFor (key : String) (said : List Interaction) {k : Kind} (o : Object k) : Prop :=
  ∃ ns name, wellFormedKey? key = some (ns, name) ∧ Found said ns name o

theorem readFor_iff {key ns name : String} (hkey : wellFormedKey? key = some (ns, name))
    {said : List Interaction} {k : Kind} {o : Object k} :
    ReadFor key said o ↔ Found said ns name o := by
  constructor
  · rintro ⟨ns', name', hkey', hfound⟩
    obtain ⟨rfl, rfl⟩ := Prod.mk.inj (Option.some.inj (hkey.symm.trans hkey'))
    exact hfound
  · intro hfound
    exact ⟨ns, name, hkey, hfound⟩

theorem Object.name_of_place {k : Kind} {o : Object k} {ns name : String}
    (h : o.place = ⟨ns, name⟩) (hname : name ≠ "") : o.metadata.name = some name := by
  have hgetD : o.metadata.name.getD "" = name := congrArg ObjectKey.name h
  cases hn : o.metadata.name with
  | none =>
    rw [hn] at hgetD
    exact absurd hgetD.symm hname
  | some n =>
    rw [hn] at hgetD
    exact congrArg some hgetD

theorem Object.ns_of_place {k : Kind} {o : Object k} {ns name : String}
    (h : o.place = ⟨ns, name⟩) (hns : ns ≠ "") : o.metadata.ns = some ns := by
  have hgetD : o.metadata.ns.getD "" = ns := congrArg ObjectKey.ns h
  cases hn : o.metadata.ns with
  | none =>
    rw [hn] at hgetD
    exact absurd hgetD.symm hns
  | some n =>
    rw [hn] at hgetD
    exact congrArg some hgetD

/-- The metadata of what is provisioned for an object at first. -/
def Object.provisionedMetadata {k : Kind} (o : Object k) : Metadata where
  name := some o.displayName
  ns := o.metadata.ns
  labels := o.metadata.labels
  ownerReferences := some [o.controllerReference]

/-- What is provisioned for an object stands under the same key. -/
theorem Object.place_of_provisioned {t p : Kind} {o : Object t} {s : Object p} {ns name : String}
    (ho : o.place = ⟨ns, name⟩) (hname : name ≠ "") (hs : s.metadata = o.provisionedMetadata) :
    s.place = ⟨ns, name⟩ := by
  have hn := Object.name_of_place ho hname
  rw [← ho]
  simp [Object.place, ObjectKey.ofMetadata, hs, Object.provisionedMetadata, Object.displayName,
    Metadata.displayName, hn]

/-- What is provisioned for a named object is controlled by it. -/
theorem Object.controls_provisioned {k : Kind} {o : Object k} {m : Metadata} {name : String}
    (hn : o.metadata.name = some name) (hm : m.ownerReferences = some [o.controllerReference]) :
    m.isControlledBy o := by
  simp only [Metadata.isControlledBy, Metadata.controller?, hm]
  cases huid : o.metadata.uid <;>
    simp [Object.controllerReference, Object.displayName, Metadata.displayName, hn, huid,
      Metadata.agreesOnUid]

/-- What is peculiar to the passes for a templated kind `t` and what is provisioned for
it, of kind `p`. -/
structure Flow (t p : Kind) where
  /-- The kinds by which templates are resolved. -/
  Sources : Kind → Prop
  /-- The desired state with what templates add to it. -/
  resolve : Object t → Pass t.Spec
  /-- Whether two desired states have the same value. -/
  sameSpec : t.Spec → t.Spec → Bool
  /-- What is provisioned at first. -/
  build : Object t → Except Error (Object p)
  /-- Whether what is provisioned follows the request. -/
  inSync : t.Spec → p.Spec → Bool
  /-- What is provisioned, with what has changed in the request. -/
  refresh : t.Spec → p.Spec → p.Spec
  /-- What is to be reported at a given time. -/
  observe : t.Spec → Object p → String → t.Status
  templated_not_source : ¬ Sources t
  provisioned_not_source : ¬ Sources p
  templated_ne_provisioned : t ≠ p
  source_of_isTemplate : ∀ {k}, k.IsTemplate → Sources k
  resolve_readsOnly : ∀ o, (resolve o).ReadsOnly Sources
  sameSpec_self : ∀ spec, sameSpec spec spec
  build_metadata : ∀ {o provisioned}, build o = .ok provisioned →
    provisioned.metadata = o.provisionedMetadata
  /-- What was built or refreshed follows the request. -/
  inSync_build : ∀ {o provisioned}, build o = .ok provisioned → inSync o.spec provisioned.spec
  inSync_refresh : ∀ wanted found, inSync wanted (refresh wanted found)
  /-- Reports of different times differ in nothing but the time. -/
  undated_observe : ∀ wanted provisioned time time',
    t.undated (observe wanted provisioned time) = t.undated (observe wanted provisioned time')

namespace Flow

variable {t p : Kind} (F : Flow t p)

/-- Resolves templates and stores the result if it differs. -/
def storeApplied (o : Object t) : Pass (Object t) := do
  let spec ← F.resolve o
  if F.sameSpec spec o.spec then pure o else Pass.update { o with spec := spec }

def createFor (o : Object t) : Pass (Object t × Object p) := do
  let desired ← Pass.ofExcept (F.build o)
  let provisioned ← Pass.create desired
  Pass.count (.writes p .create)
  return (o, provisioned)

def pushChanges (o : Object t) (provisioned : Object p) : Pass (Object t × Object p) := do
  if F.inSync o.spec provisioned.spec then return (o, provisioned)
  else
    let updated ← Pass.update { provisioned with spec := F.refresh o.spec provisioned.spec }
    Pass.count (.writes p .update)
    return (o, updated)

/-- All that a pass does before it reports. -/
def prepare (o : Object t) : Option (Object p) → Pass (Object t × Object p)
  | none => F.storeApplied o >>= F.createFor
  | some provisioned =>
    if provisioned.metadata.isControlledBy o then F.pushChanges o provisioned
    else rejectUnmanaged o provisioned

/-- Whether a status is there and says what `observed` says, whenever it was recorded. -/
def reports (current : Option t.Status) (observed : t.Status) : Bool :=
  match current with
  | some current => decide (t.undated current = t.undated observed)
  | none => false

/-- Records what is to be reported, unless it stands there already. -/
def report (time : String) (ready : Object t × Object p) : Pass (Object t) :=
  let observed := F.observe ready.1.spec ready.2 time
  if reports ready.1.status observed then pure ready.1
  else recordStatus { ready.1 with status := some observed }

/-- All that a pass does after it has read the templated resource and what is provisioned
for it. -/
def proceed (time : String) (o : Object t) (provisioned : Option (Object p)) :
    Pass (Option (Object t)) :=
  F.prepare o provisioned >>= fun ready => some <$> F.report time ready

def visit (time ns name : String) : Option (Object t) → Pass (Option (Object t))
  | none => pure none
  | some o => Pass.cached p (some ns) name >>= F.proceed time o

def pass (time key : String) : Pass (Option (Object t)) :=
  match wellFormedKey? key with
  | none => pure none
  | some (ns, name) => Pass.cached t (some ns) name >>= F.visit time ns name

variable {F} in
theorem pass_of_malformed {key : String} (h : wellFormedKey? key = none) (time : String) :
    F.pass time key = pure none := by
  rw [Flow.pass, h]

variable {F} in
theorem pass_of_wellFormed {key ns name : String} (h : wellFormedKey? key = some (ns, name))
    (time : String) : F.pass time key = Pass.cached t (some ns) name >>= F.visit time ns name := by
  rw [Flow.pass, h]

variable {F} in
theorem run_pass {key ns name : String} {c : Cluster} {o : Object t}
    (hkey : wellFormedKey? key = some (ns, name)) (ho : c.find? t ⟨ns, name⟩ = some o)
    (time : String) :
    (F.pass time key).run Cluster.serve c =
      (F.proceed time o (c.find? p ⟨ns, name⟩)).run Cluster.serve c := by
  have hget : (c.store t).get? (some ns) name = some o := ho
  rw [pass_of_wellFormed hkey, Pass.run_cached_bind, hget]
  rfl

/-- A request that carries its template resolves to itself. -/
def ResolvesAgain : Prop :=
  ∀ {c : Cluster} {o : Object t} {spec : t.Spec}, c.PlainTemplates →
    ((F.resolve o).run Cluster.serve c).1 = .ok spec →
    ∀ {m : Metadata} (status : Option t.Status), m.ns = o.metadata.ns →
      ((F.resolve ⟨m, spec, status⟩).run Cluster.serve c).1 = .ok spec

/-! ## The four ways to go on -/

section Proceed

variable {F} {o : Object t} {s : Object p} (time : String)

theorem proceed_none : F.proceed time o none =
    F.storeApplied o >>= fun o => F.createFor o >>= fun ready => some <$> F.report time ready :=
  Pass.bind_assoc _ _ _

theorem proceed_of_foreign (h : ¬ s.metadata.isControlledBy o) :
    F.proceed time o (some s) = rejectUnmanaged o s := by
  have hprepare : F.prepare o (some s) = rejectUnmanaged o s := if_neg h
  rw [Flow.proceed, hprepare]
  rfl

theorem proceed_of_inSync (h : s.metadata.isControlledBy o) (hsync : F.inSync o.spec s.spec) :
    F.proceed time o (some s) = some <$> F.report time (o, s) := by
  have hprepare : F.prepare o (some s) = pure (o, s) := (if_pos h).trans (if_pos hsync)
  rw [Flow.proceed, hprepare]
  rfl

theorem proceed_of_drift (h : s.metadata.isControlledBy o) (hsync : ¬ F.inSync o.spec s.spec) :
    F.proceed time o (some s) =
      Pass.update { s with spec := F.refresh o.spec s.spec } >>= fun updated =>
        Pass.count (.writes p .update) >>= fun _ => some <$> F.report time (o, updated) := by
  have hprepare : F.prepare o (some s) =
      Pass.update { s with spec := F.refresh o.spec s.spec } >>= fun updated =>
        Pass.count (.writes p .update) >>= fun _ => pure (o, updated) :=
    (if_pos h).trans (if_neg hsync)
  rw [Flow.proceed, hprepare]
  simp only [Pass.bind_assoc, Pass.pure_bind]

theorem createFor_of_error {e : Error} (h : F.build o = .error e)
    (f : Object t × Object p → Pass (Option (Object t))) : F.createFor o >>= f = Pass.fail e := by
  rw [Flow.createFor, h]
  rfl

theorem createFor_of_ok {desired : Object p} (h : F.build o = .ok desired)
    (f : Object t × Object p → Pass (Option (Object t))) :
    F.createFor o >>= f =
      Pass.create desired >>= fun s => Pass.count (.writes p .create) >>= fun _ => f (o, s) := by
  rw [Flow.createFor, h]
  simp only [Pass.bind_assoc, Pass.pure_bind]
  rfl

end Proceed

end Flow

/-! ## Instances -/

theorem TemplatedInstance.provision_eq_ok {inst : TemplatedInstance} {provisioned : ServiceInstance}
    (h : TemplatedInstance.provision inst = .ok provisioned) :
    provisioned.metadata = inst.provisionedMetadata ∧
      provisioned.spec = {
        plan := TemplatedInstanceSpec.plan inst.spec
        parameters := TemplatedInstanceSpec.parameters inst.spec
        parameterSources := TemplatedInstanceSpec.parameterSources inst.spec
        externalId := TemplatedInstanceSpec.externalId inst.spec
        updateRequests := TemplatedInstanceSpec.updateRequests inst.spec } := by
  unfold TemplatedInstance.provision at h
  dsimp only at h
  split at h
  · cases h
  · obtain rfl := Except.ok.inj h
    exact ⟨rfl, rfl⟩

def instanceFlow (plans : PlanResolver) : Flow .templatedInstance .serviceInstance where
  Sources := Kind.IsTemplate
  resolve inst := do
    let template ← resolveInstance plans inst
    let applied ← Pass.ofExcept (TemplatedInstance.applyTemplate inst template)
    return applied.spec
  sameSpec := TemplatedInstanceSpec.sameValue
  build := TemplatedInstance.provision
  inSync (wanted : TemplatedInstanceSpec) (found : ServiceInstanceSpec) :=
    sameParameters wanted.parameters found.parameters
      && wanted.updateRequests == found.updateRequests
  refresh (wanted : TemplatedInstanceSpec) (found : ServiceInstanceSpec) :=
    { found with
      plan := wanted.plan
      parameters := wanted.parameters
      parameterSources := wanted.parameterSources
      updateRequests := wanted.updateRequests }
  observe _ := TemplatedInstance.observe
  templated_not_source := nofun
  provisioned_not_source := nofun
  templated_ne_provisioned := nofun
  source_of_isTemplate h := h
  resolve_readsOnly inst :=
    .bind (resolveInstance_readsOnly plans inst) fun _ => .bind (.ofExcept _) fun _ => .pure _
  sameSpec_self := TemplatedInstanceSpec.sameValue_self
  build_metadata h := (TemplatedInstance.provision_eq_ok h).1
  inSync_build h := by
    obtain ⟨-, hspec⟩ := TemplatedInstance.provision_eq_ok h
    simp [hspec, sameParameters]
  inSync_refresh wanted found := by simp [sameParameters]
  undated_observe _ _ _ _ := rfl

theorem instanceFlow_resolve_eq_ok_iff {plans : PlanResolver} {c : Cluster}
    {inst : TemplatedInstance} {spec : TemplatedInstanceSpec} :
    (((instanceFlow plans).resolve inst).run Cluster.serve c).1 = .ok spec ↔
      ∃ template, ((resolveInstance plans inst).run Cluster.serve c).1 = .ok template ∧
        ∃ applied, TemplatedInstance.applyTemplate inst template = .ok applied ∧
          applied.spec = spec :=
  (resolveInstance_readsOnly plans inst).run_computed_iff

theorem instanceFlow_resolvesAgain : (instanceFlow noPlans).ResolvesAgain := by
  intro c inst spec hc h m status hm
  obtain ⟨template, ht, applied, happlied, rfl⟩ := instanceFlow_resolve_eq_ok_iff.1 h
  refine instanceFlow_resolve_eq_ok_iff.2 ⟨template, resolveInstance_again ht happlied hm status, ?_⟩
  exact ⟨_, TemplatedInstance.applyTemplate_again (resolveInstance_plain hc ht) happlied _ _, rfl⟩

theorem TemplatedInstance.provisionFirst_eq (plans : PlanResolver) (inst : TemplatedInstance) :
    TemplatedInstance.provisionFirst plans inst =
      (instanceFlow plans).storeApplied inst >>= (instanceFlow plans).createFor := by
  simp only [TemplatedInstance.provisionFirst, Flow.storeApplied, instanceFlow, Pass.bind_assoc]
  -- The flow compares desired states, the pass whole instances; the rest of them is the same.
  refine congrArg (resolveInstance plans inst >>= ·) (funext fun template => ?_)
  cases h : TemplatedInstance.applyTemplate inst template with
  | error e => rfl
  | ok applied =>
    obtain ⟨parameters, -, rfl⟩ := TemplatedInstance.applyTemplate_eq_ok_iff.1 h
    by_cases hsame : TemplatedInstanceSpec.sameValue
        (inst.withTemplate template parameters).spec inst.spec
    · exact (if_pos hsame).trans (congrArg (· >>= _) (if_pos hsame)).symm
    · exact (if_neg hsame).trans (congrArg (· >>= _) (if_neg hsame)).symm

theorem TemplatedInstance.report_eq (plans : PlanResolver) (inst : TemplatedInstance)
    (provisioned : ServiceInstance) (time : String) :
    TemplatedInstance.report inst provisioned time =
      (instanceFlow plans).report time (inst, provisioned) := by
  have hreports : ∀ observed, TemplatedInstance.reports inst.status observed =
      Flow.reports (t := .templatedInstance) inst.status observed := by
    intro observed
    unfold TemplatedInstance.reports Flow.reports
    cases inst.status with
    | none => rfl
    | some current => exact decide_eq_decide.2 Iff.rfl
  unfold TemplatedInstance.report Flow.report
  simp only [hreports]
  rfl

theorem TemplatedInstance.pushChanges_eq (plans : PlanResolver) (inst : TemplatedInstance)
    (provisioned : ServiceInstance) (time : String) :
    (TemplatedInstance.pushChanges inst provisioned >>= fun provisioned =>
      some <$> TemplatedInstance.report inst provisioned time) =
      (instanceFlow plans).pushChanges inst provisioned >>= fun ready =>
        some <$> (instanceFlow plans).report time ready := by
  simp only [TemplatedInstance.report_eq plans]
  unfold TemplatedInstance.pushChanges Flow.pushChanges
  by_cases h : TemplatedInstance.isInSync inst provisioned
  · have hflow : (instanceFlow plans).inSync inst.spec provisioned.spec := h
    rw [if_pos h, if_pos hflow]
    rfl
  · have hflow : ¬ (instanceFlow plans).inSync inst.spec provisioned.spec := h
    rw [if_neg h, if_neg hflow]
    simp only [Pass.bind_assoc, Pass.pure_bind]
    rfl

theorem synchronizeInstance_eq (plans : PlanResolver) (time key : String) :
    synchronizeInstance plans time key = (instanceFlow plans).pass time key := by
  unfold synchronizeInstance Flow.pass Flow.visit
  cases wellFormedKey? key with
  | none => rfl
  | some place =>
    obtain ⟨ns, name⟩ := place
    refine congrArg (Pass.cached .templatedInstance (some ns) name >>= ·) (funext fun found => ?_)
    cases found with
    | none => rfl
    | some inst =>
      refine congrArg (Pass.cached .serviceInstance (some ns) name >>= ·) (funext fun found => ?_)
      cases found with
      | none =>
        simp only [TemplatedInstance.provisionFirst_eq, TemplatedInstance.report_eq plans]
        rfl
      | some provisioned =>
        by_cases h : provisioned.metadata.isControlledBy inst
        · simp only [Flow.proceed, Flow.prepare, if_pos h]
          exact TemplatedInstance.pushChanges_eq plans inst provisioned time
        · simp only [Flow.proceed, Flow.prepare, if_neg h]
          rfl

/-! ## Bindings -/

def bindingFlow : Flow .templatedBinding .serviceBinding where
  Sources := Kind.ServesBindings
  resolve binding := do
    let template ← resolveBinding binding
    let applied ← Pass.ofExcept (TemplatedBinding.applyTemplate binding template)
    return applied.spec
  sameSpec := TemplatedBindingSpec.sameValue
  build binding := .ok (TemplatedBinding.provision binding)
  inSync (wanted : TemplatedBindingSpec) (found : ServiceBindingSpec) :=
    sameParameters wanted.parameters found.parameters
  refresh (wanted : TemplatedBindingSpec) (found : ServiceBindingSpec) :=
    { found with
      parameters := wanted.parameters
      parameterSources := wanted.parameterSources }
  observe (wanted : TemplatedBindingSpec) provisioned time :=
    let reported : ServiceBindingStatus := provisioned.status.getD {}
    { conditions := reported.conditions
      secretName := some wanted.secretName
      synced := true
      lastSyncTime := some time }
  templated_not_source := by simp [Kind.ServesBindings, Kind.IsTemplate, Kind.tier?]
  provisioned_not_source := by simp [Kind.ServesBindings, Kind.IsTemplate, Kind.tier?]
  templated_ne_provisioned := nofun
  source_of_isTemplate h := Or.inl h
  resolve_readsOnly binding :=
    .bind (resolveBinding_readsOnly binding) fun _ => .bind (.ofExcept _) fun _ => .pure _
  sameSpec_self := TemplatedBindingSpec.sameValue_self
  build_metadata h := by rw [← Except.ok.inj h]; rfl
  inSync_build h := by rw [← Except.ok.inj h]; simp [sameParameters, TemplatedBinding.provision]
  inSync_refresh wanted found := by simp [sameParameters]
  undated_observe _ _ _ _ := rfl

theorem bindingFlow_resolve_eq_ok_iff {c : Cluster} {binding : TemplatedBinding}
    {spec : TemplatedBindingSpec} :
    ((bindingFlow.resolve binding).run Cluster.serve c).1 = .ok spec ↔
      ∃ template, ((resolveBinding binding).run Cluster.serve c).1 = .ok template ∧
        ∃ applied, TemplatedBinding.applyTemplate binding template = .ok applied ∧
          applied.spec = spec :=
  (resolveBinding_readsOnly binding).run_computed_iff

theorem bindingFlow_resolvesAgain : bindingFlow.ResolvesAgain := by
  intro c binding spec hc h m status hm
  obtain ⟨template, ht, applied, happlied, rfl⟩ := bindingFlow_resolve_eq_ok_iff.1 h
  refine bindingFlow_resolve_eq_ok_iff.2 ⟨template, resolveBinding_again ht happlied hm status, ?_⟩
  exact ⟨_, TemplatedBinding.applyTemplate_again (resolveBinding_plain hc ht) happlied _ _, rfl⟩

theorem TemplatedBinding.provisionFirst_eq (binding : TemplatedBinding) :
    TemplatedBinding.provisionFirst binding =
      bindingFlow.storeApplied binding >>= bindingFlow.createFor := by
  simp only [TemplatedBinding.provisionFirst, Flow.storeApplied, bindingFlow, Pass.bind_assoc]
  refine congrArg (resolveBinding binding >>= ·) (funext fun template => ?_)
  cases h : TemplatedBinding.applyTemplate binding template with
  | error e => rfl
  | ok applied =>
    obtain ⟨parameters, -, rfl⟩ := TemplatedBinding.applyTemplate_eq_ok_iff.1 h
    by_cases hsame : TemplatedBindingSpec.sameValue
        (binding.withTemplate template parameters).spec binding.spec
    · exact (if_pos hsame).trans (congrArg (· >>= _) (if_pos hsame)).symm
    · exact (if_neg hsame).trans (congrArg (· >>= _) (if_neg hsame)).symm

theorem TemplatedBinding.report_eq (binding : TemplatedBinding) (provisioned : ServiceBinding)
    (time : String) :
    TemplatedBinding.report binding provisioned time =
      bindingFlow.report time (binding, provisioned) := by
  have hreports : ∀ observed, TemplatedBinding.reports binding.status observed =
      Flow.reports (t := .templatedBinding) binding.status observed := by
    intro observed
    unfold TemplatedBinding.reports Flow.reports
    cases binding.status with
    | none => rfl
    | some current => exact decide_eq_decide.2 Iff.rfl
  unfold TemplatedBinding.report Flow.report
  simp only [hreports]
  rfl

theorem TemplatedBinding.pushChanges_eq (binding : TemplatedBinding) (provisioned : ServiceBinding)
    (time : String) :
    (TemplatedBinding.pushChanges binding provisioned >>= fun provisioned =>
      some <$> TemplatedBinding.report binding provisioned time) =
      bindingFlow.pushChanges binding provisioned >>= fun ready =>
        some <$> bindingFlow.report time ready := by
  simp only [TemplatedBinding.report_eq]
  unfold TemplatedBinding.pushChanges Flow.pushChanges
  by_cases h : TemplatedBinding.isInSync binding provisioned
  · have hflow : bindingFlow.inSync binding.spec provisioned.spec := h
    rw [if_pos h, if_pos hflow]
    rfl
  · have hflow : ¬ bindingFlow.inSync binding.spec provisioned.spec := h
    rw [if_neg h, if_neg hflow]
    simp only [Pass.bind_assoc, Pass.pure_bind]
    rfl

theorem synchronizeBinding_eq (time key : String) :
    synchronizeBinding time key = bindingFlow.pass time key := by
  unfold synchronizeBinding Flow.pass Flow.visit
  cases wellFormedKey? key with
  | none => rfl
  | some place =>
    obtain ⟨ns, name⟩ := place
    refine congrArg (Pass.cached .templatedBinding (some ns) name >>= ·) (funext fun found => ?_)
    cases found with
    | none => rfl
    | some binding =>
      refine congrArg (Pass.cached .serviceBinding (some ns) name >>= ·) (funext fun found => ?_)
      cases found with
      | none =>
        simp only [TemplatedBinding.provisionFirst_eq, TemplatedBinding.report_eq]
        rfl
      | some provisioned =>
        by_cases h : provisioned.metadata.isControlledBy binding
        · simp only [Flow.proceed, Flow.prepare, if_pos h]
          exact TemplatedBinding.pushChanges_eq binding provisioned time
        · simp only [Flow.proceed, Flow.prepare, if_neg h]
          rfl

end ServiceTemplates
