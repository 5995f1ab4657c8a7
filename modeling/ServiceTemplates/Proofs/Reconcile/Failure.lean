import ServiceTemplates.Proofs.Reconcile.FirstPass
import ServiceTemplates.Proofs.Store.Edit

/-!
# What a pass leaves that fails

A pass that fails has written nothing, with one exception: what a template adds to a request
is stored before anything is built for it, and stays there if that cannot be built. For an
instance this happens exactly when class or plan are still missing by then. Main statements:
`Flow.pass_failure` and `synchronizeInstance_failure`.
-/

namespace ServiceTemplates

/-- How runs end can be compared. -/
instance decidableEqExcept {ε α : Type} [DecidableEq ε] [DecidableEq α] : DecidableEq (Except ε α)
  | .ok a, .ok b => decidable_of_iff (a = b) (by simp)
  | .error d, .error e => decidable_of_iff (d = e) (by simp)
  | .ok _, .error _ => isFalse (by simp)
  | .error _, .ok _ => isFalse (by simp)

/-! ## Any flow -/

namespace Flow

variable {t p : Kind} {F : Flow t p} {place : ObjectKey} {key : String} {c c' : Cluster}
  {o : Object t} {e : Error}

/-- Whether what a request resolves to, if it resolves, is the request itself. -/
def AddsNothing (F : Flow t p) (place : ObjectKey) (c : Cluster) : Prop :=
  ∀ o spec, c.find? t place = some o → c.find? p place = none →
    ((F.resolve o).run Cluster.serve c).1 = .ok spec → F.sameSpec spec o.spec

/-- What is left of a pass that stored what it resolved and then failed to build from it. -/
structure Unbuilt (F : Flow t p) (place : ObjectKey) (c : Cluster) (o : Object t) (spec : t.Spec)
    (e : Error) (c' : Cluster) : Prop where
  templated : c.find? t place = some o
  vacant : c.find? p place = none
  resolved : ((F.resolve o).run Cluster.serve c).1 = .ok spec
  build : F.build (F.stored o spec) = .error e
  adds : ¬ F.sameSpec spec o.spec
  stored : c'.find? t place = some (F.stored o spec)
  beyond : ∀ k place', ¬ (k = t ∧ place' = place) → c'.find? k place' = c.find? k place'

theorem addsNothing_of_sameSpec (ho : c.find? t place = some o) {spec : t.Spec}
    (hspec : ((F.resolve o).run Cluster.serve c).1 = .ok spec) (hsame : F.sameSpec spec o.spec) :
    F.AddsNothing place c := by
  intro o' spec' ho' _ hspec'
  obtain rfl := Option.some.inj (ho.symm.trans ho')
  obtain rfl := Except.ok.inj (hspec.symm.trans hspec')
  exact hsame

/-- A pass that cannot build from what it resolved has stored that before, if it is new. -/
theorem run_unbuilt (hc : c.Sound) (ho : c.find? t place = some o) (hs : c.find? p place = none)
    {spec : t.Spec} (hspec : ((F.resolve o).run Cluster.serve c).1 = .ok spec)
    (hbuild : F.build (F.stored o spec) = .error e) (time : String) :
    ∃ c', (F.proceed time o none).run Cluster.serve c = (.error e, c') ∧
      ((c' = c ∧ F.AddsNothing place c) ∨ F.Unbuilt place c o spec e c') := by
  obtain ⟨c', hstore, -, ho', hs', hbeyond, hsame⟩ := run_storeApplied hc ho hs hspec
  refine ⟨c', ?_, ?_⟩
  · rw [proceed_none, Pass.run_bind, hstore]
    dsimp only
    rw [createFor_of_error hbuild]
    rfl
  · by_cases hadds : F.sameSpec spec o.spec
    · exact Or.inl ⟨hsame hadds, addsNothing_of_sameSpec ho hspec hadds⟩
    · refine Or.inr ⟨ho, hs, hspec, hbuild, hadds, ho', fun k place' hne => ?_⟩
      by_cases hp : k = p ∧ place' = place
      · obtain ⟨rfl, rfl⟩ := hp
        exact hs'.trans hs.symm
      · apply hbeyond
        rintro ⟨rfl | rfl, hplace⟩
        · exact hne ⟨rfl, hplace⟩
        · exact hp ⟨rfl, hplace⟩

/-- **A pass that fails leaves everything as it was, or what it stored and could not build
from.** It has stored what it resolved unless that is nothing new. -/
theorem pass_failure (hc : c.Sound) {time : String}
    (h : (F.pass time key).run Cluster.serve c = (.error e, c')) :
    (c' = c ∧ ∀ ns name, wellFormedKey? key = some (ns, name) → F.AddsNothing ⟨ns, name⟩ c) ∨
    ∃ ns name o spec, wellFormedKey? key = some (ns, name) ∧
      F.Unbuilt ⟨ns, name⟩ c o spec e c' := by
  by_cases hidle : Idle t key c
  · rw [hidle.run_pass] at h
    cases h
  · simp only [Idle, Classical.not_forall] at hidle
    obtain ⟨ns, name, hkey, hfound⟩ := hidle
    obtain ⟨o, ho⟩ := Option.ne_none_iff_exists'.1 hfound
    rw [Flow.run_pass hkey ho] at h
    have honly : F.AddsNothing ⟨ns, name⟩ c →
        ∀ ns name, wellFormedKey? key = some (ns, name) → F.AddsNothing ⟨ns, name⟩ c := by
      intro hadds ns' name' hkey'
      obtain ⟨rfl, rfl⟩ := Prod.mk.inj (Option.some.inj (hkey.symm.trans hkey'))
      exact hadds
    cases hs : c.find? p ⟨ns, name⟩ with
    | none =>
      rw [hs] at h
      cases hspec : ((F.resolve o).run Cluster.serve c).1 with
      | error e' =>
        rw [run_unresolved hspec] at h
        refine Or.inl ⟨(Prod.mk.inj h).2.symm, honly fun o' spec ho' _ hspec' => ?_⟩
        obtain rfl := Option.some.inj (ho.symm.trans ho')
        rw [hspec] at hspec'
        cases hspec'
      | ok spec =>
        cases hbuild : F.build (F.stored o spec) with
        | error e' =>
          obtain ⟨c₁, hrun, hleft⟩ := run_unbuilt hc ho hs hspec hbuild time
          rw [hrun] at h
          cases h
          exact hleft.imp (And.imp_right honly) fun hunbuilt => ⟨ns, name, o, spec, hkey, hunbuilt⟩
        | ok desired =>
          obtain ⟨uid, hhas⟩ :=
            run_provisioning_has (F := F) hc (wellFormedKey?_ne hkey).2 ho hs time
          have hresult := hhas.result
          rw [h, hspec, provisioning_of_built hbuild] at hresult
          cases hresult
    | some s =>
      rw [hs] at h
      by_cases hctl : s.metadata.isControlledBy o
      · have hresult := (run_existing_has (F := F) hc ho hs hctl time).result
        rw [h] at hresult
        cases hresult
      · rw [proceed_of_foreign time hctl] at h
        refine Or.inl ⟨(Prod.mk.inj h).2.symm, honly fun o' spec _ hvacant _ => ?_⟩
        rw [hs] at hvacant
        cases hvacant

end Flow

/-! ## Instances -/

theorem TemplatedInstance.provision_eq_error {inst : TemplatedInstance} {e : Error}
    (h : TemplatedInstance.provision inst = .error e) :
    PlanReference.LacksClassOrPlan inst.spec.plan ∧
      e = .planNotResolved inst.nsOrEmpty inst.displayName := by
  unfold TemplatedInstance.provision at h
  dsimp only at h
  split at h
  · next hrequires =>
    exact ⟨(TemplatedInstanceSpec.requiresTemplate_iff _).1 hrequires, (Except.error.inj h).symm⟩
  · cases h

/-- Whether the template that an instance resolves to adds nothing to the request, if it resolves
to one that can be applied. -/
def TemplateAddsNothing (plans : PlanResolver) (key : ObjectKey) (c : Cluster) : Prop :=
  ∀ (inst : TemplatedInstance) template merged,
    c.find? .templatedInstance key = some inst → c.find? .serviceInstance key = none →
    ((resolveInstance plans inst).runOn c).result = .ok template →
    mergeParameters (TemplatedInstanceSpec.parameters inst.spec) template.parameters = .ok merged →
      TemplatedInstanceSpec.sameValue (inst.withTemplate template merged).spec inst.spec

theorem templateAddsNothing_of_flow {plans : PlanResolver} {place : ObjectKey} {c : Cluster}
    (h : (instanceFlow plans).AddsNothing place c) : TemplateAddsNothing plans place c :=
  fun inst template merged hinst hvacant htemplate hmerged =>
    h inst _ hinst hvacant ((resolve_eq_ok_iff plans).2 ⟨template, merged, htemplate, hmerged, rfl⟩)

/-- What a pass leaves that has stored what a template adds to an instance and then found a
class or a plan still missing. -/
structure LeftIncomplete (plans : PlanResolver) (key : ObjectKey) (c : Cluster)
    (inst : TemplatedInstance) (template : InstanceDefaults) (merged : Option Document)
    (left : Cluster) : Prop where
  templated : c.find? .templatedInstance key = some inst
  vacant : c.find? .serviceInstance key = none
  resolved : ((resolveInstance plans inst).runOn c).result = .ok template
  parameters : mergeParameters (TemplatedInstanceSpec.parameters inst.spec) template.parameters =
    .ok merged
  lacks : (PlanReference.orElse (TemplatedInstanceSpec.plan inst.spec)
    template.plan).LacksClassOrPlan
  adds : ¬ TemplatedInstanceSpec.sameValue (inst.withTemplate template merged).spec inst.spec
  stored : left.find? .templatedInstance key =
    some (Store.successor inst (inst.withTemplate template merged))
  beyond : ∀ k place, ¬ (k = .templatedInstance ∧ place = key) → left.find? k place = c.find? k place

theorem leftIncomplete_of_unbuilt {plans : PlanResolver} {place : ObjectKey} {c left : Cluster}
    {inst : TemplatedInstance} {spec : TemplatedInstanceSpec} {e : Error}
    (h : (instanceFlow plans).Unbuilt place c inst spec e left) :
    ∃ template merged, LeftIncomplete plans place c inst template merged left := by
  obtain ⟨template, merged, htemplate, hmerged, rfl⟩ := (resolve_eq_ok_iff plans).1 h.resolved
  have hstored : (instanceFlow plans).stored inst (inst.withTemplate template merged).spec =
      Store.successor inst (inst.withTemplate template merged) := if_neg h.adds
  refine ⟨template, merged, h.templated, h.vacant, htemplate, hmerged, ?_, h.adds, ?_, h.beyond⟩
  · rw [← (stored_completes plans inst template merged).plan]
    exact (TemplatedInstance.provision_eq_error h.build).1
  · rw [← hstored]
    exact h.stored

/-- **What a pass for an instance leaves that fails.** Either it has written nothing, so that
after any changes of templates the next pass ends and leaves things as if it had not been there,
and then no template adds anything to the request. Or a template does, a class or a plan is still
missing once it is applied, and what it adds is all that is written. -/
theorem synchronizeInstance_failure {c : Cluster} (hc : c.Sound) {plans : PlanResolver}
    {time key : String} {e : Error}
    (hfailed : ((synchronizeInstance plans time key).runOn c).result = .error e) :
    let left := ((synchronizeInstance plans time key).runOn c).cluster
    (left = c ∧
      (∀ ns name, wellFormedKey? key = some (ns, name) → TemplateAddsNothing plans ⟨ns, name⟩ c) ∧
      ∀ edits : List Edit, (∀ edit ∈ edits, edit.kind.IsTemplate) → ∀ plans' time',
        (synchronizeInstance plans' time' key).runOn (edits.foldl Edit.apply left) =
          (synchronizeInstance plans' time' key).runOn (edits.foldl Edit.apply c)) ∨
    ∃ ns name inst template merged, wellFormedKey? key = some (ns, name) ∧
      e = .planNotResolved ns name ∧
      LeftIncomplete plans ⟨ns, name⟩ c inst template merged left := by
  intro left
  have hrun : ((instanceFlow plans).pass time key).run Cluster.serve c = (.error e, left) := by
    rw [← synchronizeInstance_eq, Pass.run_serve_eq, hfailed]
  rcases Flow.pass_failure hc hrun with ⟨hleft, hadds⟩ | ⟨ns, name, inst, spec, hkey, hunbuilt⟩
  · refine Or.inl ⟨hleft, fun ns name hkey => ?_, fun edits _ plans' time' => ?_⟩
    · exact templateAddsNothing_of_flow (hadds ns name hkey)
    · rw [hleft]
  · right
    obtain ⟨template, merged, hincomplete⟩ := leftIncomplete_of_unbuilt hunbuilt
    obtain ⟨-, he⟩ := TemplatedInstance.provision_eq_error hunbuilt.build
    have hmetadata := (instanceFlow plans).stored_sameButVersion inst spec
    obtain ⟨hns, hname⟩ := wellFormedKey?_ne hkey
    have hplace := hc.place hunbuilt.templated
    refine ⟨ns, name, inst, template, merged, hkey, ?_, hincomplete⟩
    rw [he, Object.nsOrEmpty, Object.displayName, Metadata.displayName, hmetadata.name_eq,
      Object.name_of_place hplace hname]
    have hsame := (congrArg Metadata.ns hmetadata).trans (Object.ns_of_place hplace hns)
    rw [hsame]
    rfl

/-- The only template in reach names a class and no plan. The request has the class then, also
when the next pass begins. -/
theorem synchronizeInstance_failure_class_only :
    let template : Object .clusterInstanceTemplate :=
      { metadata := { name := some "small" }
        spec := { plan := { clusterClassExternalName := some "mysql" } } }
    let inst : TemplatedInstance :=
      { metadata := {
          name := some "db", ns := some "default", uid := some "u-1", resourceVersion := some "1" }
        spec := { parameters := some (.ofJson (.ofFields [("backup", .bool true)])) } }
    let c := ((Cluster.empty.insert template).2.insert inst).2
    let failed := (synchronizeInstance noPlans "noon" "default/db").runOn c
    c.Sound ∧ failed.result = .error (.planNotResolved "default" "db") ∧
      ∃ template merged, LeftIncomplete noPlans ⟨"default", "db"⟩ c inst template merged
        failed.cluster := by
  intro template inst c failed
  have hsound : c.Sound := (Cluster.sound_empty.insert template).insert inst
  have hinst : c.find? .templatedInstance ⟨"default", "db"⟩ = some inst :=
    ((Cluster.empty.insert template).2.puts_insert inst).find?_of_place rfl
  have hfailed : failed.result = .error (.planNotResolved "default" "db") := by decide +kernel
  have hchanged : failed.cluster.find? .templatedInstance ⟨"default", "db"⟩ ≠
      c.find? .templatedInstance ⟨"default", "db"⟩ := by decide +kernel
  rcases synchronizeInstance_failure hsound hfailed with ⟨hleft, -⟩ | hincomplete
  · exact absurd (congrArg (·.find? .templatedInstance ⟨"default", "db"⟩) hleft) hchanged
  · obtain ⟨ns, name, found, template, merged, hkey, -, hincomplete⟩ := hincomplete
    obtain ⟨rfl, rfl⟩ := Prod.mk.inj (Option.some.inj hkey)
    obtain rfl := Option.some.inj (hinst.symm.trans hincomplete.templated)
    exact ⟨hsound, hfailed, template, merged, hincomplete⟩

/-- **An instance that cannot be provisioned may be written to.** Once a class is stored that the
only template named without a plan, completing the template does not help any more, whereas it
would have without the pass that failed. -/
theorem synchronizeInstance_failure_stays :
    let template : Object .clusterInstanceTemplate :=
      { metadata := { name := some "small" }
        spec := { plan := { clusterClassExternalName := some "mysql" } } }
    let completed : Object .clusterInstanceTemplate :=
      { metadata := { name := some "small" }
        spec := { plan := .ofClusterExternal "mysql" "small" } }
    let inst : TemplatedInstance :=
      { metadata := { name := some "db", ns := some "default" }, spec := {} }
    let c := ((Cluster.empty.insert template).2.insert inst).2
    let failed := (synchronizeInstance noPlans "noon" "default/db").runOn c
    let next (c : Cluster) :=
      (synchronizeInstance noPlans "one" "default/db").runOn ((Edit.replace completed).apply c)
    failed.result = .error (.planNotResolved "default" "db") ∧
      failed.cluster.find? .templatedInstance ⟨"default", "db"⟩ ≠
        c.find? .templatedInstance ⟨"default", "db"⟩ ∧
      (next c).result.isOk ∧
      (next failed.cluster).result = .error (.planNotResolved "default" "db") := by
  decide +kernel

end ServiceTemplates
