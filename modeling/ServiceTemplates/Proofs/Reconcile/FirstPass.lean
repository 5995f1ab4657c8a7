import ServiceTemplates.Proofs.Reconcile.Resolution
import ServiceTemplates.Proofs.Reconcile.Success

/-!
# Provisioning an instance at first

What the first pass for a templated instance needs to succeed, and what it leaves then: the
request with what its template adds, a service instance with exactly that, and the report on
it. Main statement: `synchronizeInstance_first`.
-/

namespace ServiceTemplates

/-! ## What a template adds to a request -/

namespace PlanReference

instance (identifier : Option String) : Decidable (Says identifier) :=
  decidable_of_iff _ (says_iff_isSet identifier).symm

/-- Whether some identifier of the class or of the plan says something. -/
def SaysAnything (r : PlanReference) : Prop := ∃ i ∈ r.classes ++ r.plans, Says i

instance (r : PlanReference) : Decidable r.SaysAnything := List.decidableBEx _ _

/-- The own reference as soon as it says anything, otherwise the one of a template. -/
def orElse (own template : PlanReference) : PlanReference :=
  if own.SaysAnything then own else template

theorem isEmpty_iff (r : PlanReference) : r.isEmpty ↔ ¬ r.SaysAnything := by
  simp [isEmpty, namesClass, namesPlan, SaysAnything, says_iff_isSet, or_imp, forall_and]

/-- A template's reference stands in for an empty one only. -/
theorem orElse_eq (own template : PlanReference) :
    own.orElse template = if own.isEmpty then template else own := by
  simp only [orElse, isEmpty_iff, ite_not]

end PlanReference

/-- Whether a request says what its own contents say with a template added. The merged
parameters are the same value as the ones that stand there; where the template changes the
value of nothing, the own document stays as it is written. -/
structure TemplatedInstanceSpec.Completes (own : TemplatedInstanceSpec)
    (template : InstanceDefaults) (merged : Option Document) (spec : TemplatedInstanceSpec) :
    Prop where
  plan : spec.plan = own.plan.orElse template.plan
  parameters : sameDocument merged spec.parameters
  parameters_eq : spec.parameters = merged ∨ spec.parameters = own.parameters
  parameterSources : spec.parameterSources =
    if own.parameterSources = [] then template.parameterSources else own.parameterSources
  others : { spec with
    plan := own.plan
    parameters := own.parameters
    parameterSources := own.parameterSources } = own

/-- Applying a template completes the request. -/
theorem TemplatedInstance.withTemplate_completes (inst : TemplatedInstance)
    (template : InstanceDefaults) (merged : Option Document) :
    TemplatedInstanceSpec.Completes inst.spec template merged
      (inst.withTemplate template merged).spec where
  plan := (PlanReference.orElse_eq _ _).symm
  parameters := sameDocument_self merged
  parameters_eq := Or.inl rfl
  parameterSources := by simp [TemplatedInstance.withTemplate, mergeSources]
  others := rfl

/-- A request of the same value says the same. -/
theorem TemplatedInstanceSpec.Completes.of_sameValue {own spec : TemplatedInstanceSpec}
    {template : InstanceDefaults} {merged : Option Document}
    (h : own.Completes template merged spec) (hmerged : spec.parameters = merged)
    (hsame : spec.sameValue own) : own.Completes template merged own := by
  simp only [TemplatedInstanceSpec.sameValue, Bool.and_eq_true, decide_eq_true_eq] at hsame
  obtain ⟨hparameters, hrest⟩ := hsame
  exact {
    plan := (congrArg TemplatedInstanceSpec.plan hrest).symm.trans h.plan
    parameters := hmerged ▸ hparameters
    parameters_eq := Or.inr rfl
    parameterSources :=
      (congrArg TemplatedInstanceSpec.parameterSources hrest).symm.trans h.parameterSources
    others := rfl }

/-- So does what is stored, whether it was written or left as it was. -/
theorem stored_completes (plans : PlanResolver) (inst : TemplatedInstance)
    (template : InstanceDefaults) (merged : Option Document) :
    TemplatedInstanceSpec.Completes inst.spec template merged
      ((instanceFlow plans).stored inst (inst.withTemplate template merged).spec).spec := by
  have hcompletes := inst.withTemplate_completes template merged
  unfold Flow.stored
  split
  · next hsame => exact hcompletes.of_sameValue rfl hsame
  · exact hcompletes

/-! ## What can be provisioned -/

/-- **Something can be provisioned exactly for who names a class and a plan.** -/
theorem TemplatedInstance.provision_isOk_iff (inst : TemplatedInstance) :
    (∃ provisioned, TemplatedInstance.provision inst = .ok provisioned) ↔
      ¬ PlanReference.LacksClassOrPlan inst.spec.plan := by
  rw [← TemplatedInstanceSpec.requiresTemplate_iff]
  unfold TemplatedInstance.provision
  dsimp only
  split
  · next h => exact iff_of_false (fun ⟨_, h⟩ => nomatch h) (fun hno => hno h)
  · next h => exact iff_of_true ⟨_, rfl⟩ h

/-- Whether a status tells what the catalog says of a service instance, and that it is in
line. -/
structure TemplatedInstanceStatus.Tells (status : TemplatedInstanceStatus)
    (provisioned : ServiceInstance) : Prop where
  classRef : status.classRef = ServiceInstanceSpec.classRef provisioned.spec
  planRef : status.planRef = ServiceInstanceSpec.planRef provisioned.spec
  provisionStatus : status.provisionStatus =
    ServiceInstanceStatus.provisionStatus (provisioned.status.getD {})
  conditions : status.conditions = ServiceInstanceStatus.conditions (provisioned.status.getD {})
  synced : status.synced = true

theorem Flow.InLine.exists_status {plans : PlanResolver} {place : ObjectKey} {c : Cluster}
    {inst : TemplatedInstance} {provisioned : ServiceInstance}
    (h : (instanceFlow plans).InLine place c inst provisioned) :
    ∃ status, inst.status = some status ∧ TemplatedInstanceStatus.Tells status provisioned := by
  have hreported := h.reported ""
  unfold Flow.reports at hreported
  split at hreported
  · next status hstatus =>
    simp only [decide_eq_true_eq] at hreported
    refine ⟨status, hstatus, ?_, ?_, ?_, ?_, ?_⟩
    · exact (congrArg TemplatedInstanceStatus.classRef hreported :)
    · exact (congrArg TemplatedInstanceStatus.planRef hreported :)
    · exact (congrArg TemplatedInstanceStatus.provisionStatus hreported :)
    · exact (congrArg TemplatedInstanceStatus.conditions hreported :)
    · exact (congrArg TemplatedInstanceStatus.synced hreported :)
  · cases hreported

/-! ## The first pass -/

/-- What stands under a key once a service instance is provisioned for `inst` with a template
and the merged parameters. -/
structure ProvisionedFrom (key : ObjectKey) (c : Cluster) (inst : TemplatedInstance)
    (template : InstanceDefaults) (merged : Option Document) (c' : Cluster)
    (stored : TemplatedInstance) (created : ServiceInstance) : Prop where
  templated : c'.find? .templatedInstance key = some stored
  provisioned : c'.find? .serviceInstance key = some created
  metadata : inst.SameButVersion stored
  spec : TemplatedInstanceSpec.Completes inst.spec template merged stored.spec
  name : created.metadata.name = stored.metadata.name
  ns : created.metadata.ns = stored.metadata.ns
  labels : created.metadata.labels = stored.metadata.labels
  /-- Nothing but what the request says, in particular no class and no plan found yet. -/
  contents : created.spec = {
    plan := TemplatedInstanceSpec.plan stored.spec
    parameters := TemplatedInstanceSpec.parameters stored.spec
    parameterSources := TemplatedInstanceSpec.parameterSources stored.spec
    externalId := TemplatedInstanceSpec.externalId stored.spec
    updateRequests := TemplatedInstanceSpec.updateRequests stored.spec }
  controlled : created.metadata.isControlledBy stored
  status : ∃ status, stored.status = some status ∧ TemplatedInstanceStatus.Tells status created
  others : Cluster.AgreesBeyond .templatedInstance .serviceInstance key c c'

section First

variable {c : Cluster} {key ns name : String} {inst : TemplatedInstance}

/-- A request resolves by finding a template and merging its parameters. -/
theorem resolve_eq_ok_iff (plans : PlanResolver) {spec : TemplatedInstanceSpec} :
    (((instanceFlow plans).resolve inst).run Cluster.serve c).1 = .ok spec ↔
      ∃ template merged, ((resolveInstance plans inst).runOn c).result = .ok template ∧
        mergeParameters (TemplatedInstanceSpec.parameters inst.spec) template.parameters =
          .ok merged ∧
        (inst.withTemplate template merged).spec = spec := by
  rw [instanceFlow_resolve_eq_ok_iff, Pass.runOn_result]
  constructor
  · rintro ⟨template, htemplate, applied, happlied, rfl⟩
    obtain ⟨merged, hmerged, rfl⟩ := TemplatedInstance.applyTemplate_eq_ok_iff.1 happlied
    exact ⟨template, merged, htemplate, hmerged, rfl⟩
  · rintro ⟨template, merged, htemplate, hmerged, rfl⟩
    exact ⟨template, htemplate, _,
      TemplatedInstance.applyTemplate_eq_ok_iff.2 ⟨merged, hmerged, rfl⟩, rfl⟩

/-- What the first pass leaves, once the template is applied and the service instance is
built. -/
theorem provisionedFrom_of_leaves (hc : c.Sound)
    (hinst : c.find? .templatedInstance ⟨ns, name⟩ = some inst) (hname : name ≠ "")
    {plans : PlanResolver} {template : InstanceDefaults} {merged : Option Document}
    {desired : ServiceInstance} {uid : String} {c' : Cluster} {stored : TemplatedInstance}
    (hbuild : TemplatedInstance.provision
      ((instanceFlow plans).stored inst (inst.withTemplate template merged).spec) = .ok desired)
    (hspec : stored.spec =
      ((instanceFlow plans).stored inst (inst.withTemplate template merged).spec).spec)
    (h : (instanceFlow plans).Leaves ⟨ns, name⟩ c inst c' stored (Store.stamp desired uid "1")) :
    ProvisionedFrom ⟨ns, name⟩ c inst template merged c' stored (Store.stamp desired uid "1") := by
  obtain ⟨hmetadata, hcontents⟩ := TemplatedInstance.provision_eq_ok hbuild
  have happlied := (instanceFlow plans).stored_sameButVersion inst
    (inst.withTemplate template merged).spec
  have hinstName := Object.name_of_place (hc.place hinst) hname
  have hdisplay : Object.displayName ((instanceFlow plans).stored inst
      (inst.withTemplate template merged).spec) = name := by
    rw [Object.displayName, Metadata.displayName, happlied.name_eq, hinstName]
  exact {
    templated := h.inLine.templated
    provisioned := h.inLine.provisioned
    metadata := h.metadata
    spec := hspec ▸ stored_completes plans inst template merged
    name := by
      rw [Store.stamp, hmetadata, h.metadata.name_eq, hinstName]
      exact congrArg some hdisplay
    ns := by
      rw [Store.stamp, hmetadata]
      exact (congrArg Metadata.ns happlied).trans (congrArg Metadata.ns h.metadata).symm
    labels := by
      rw [Store.stamp, hmetadata]
      exact (congrArg Metadata.labels happlied).trans (congrArg Metadata.labels h.metadata).symm
    contents := by rw [hspec]; exact hcontents
    controlled := h.inLine.controlled
    status := h.inLine.exists_status
    others := h.beyond }

/-- **The first pass for an instance.** It succeeds exactly if the templates resolve, the
parameters can be merged and a class and a plan come out. Then it leaves the request with what
its template adds and a service instance with just that under its control, reports on it, and
touches nothing else. -/
theorem synchronizeInstance_first (hc : c.Sound) (hkey : wellFormedKey? key = some (ns, name))
    (hinst : c.find? .templatedInstance ⟨ns, name⟩ = some inst)
    (hvacant : c.find? .serviceInstance ⟨ns, name⟩ = none) (plans : PlanResolver) (time : String) :
    let own : TemplatedInstanceSpec := inst.spec
    let resolved := ((resolveInstance plans inst).runOn c).result
    let first := (synchronizeInstance plans time key).runOn c
    (first.result.isOk ↔ ∃ template merged, resolved = .ok template ∧
      mergeParameters own.parameters template.parameters = .ok merged ∧
      ¬ (own.plan.orElse template.plan).LacksClassOrPlan) ∧
    ∀ result, first.result = .ok result → ∃ template merged stored created,
      resolved = .ok template ∧
      mergeParameters own.parameters template.parameters = .ok merged ∧ result = some stored ∧
      ProvisionedFrom ⟨ns, name⟩ c inst template merged first.cluster stored created := by
  intro own resolved first
  have hfirst := Flow.run_first (F := instanceFlow plans) hc hkey hinst hvacant time
  rw [← synchronizeInstance_eq, Pass.run_serve_eq] at hfirst
  change Flow.First _ _ c inst (first.result, first.cluster) at hfirst
  generalize first.result = result, first.cluster = c' at hfirst ⊢
  have hresolves : ∀ {spec},
      (((instanceFlow plans).resolve inst).run Cluster.serve c).1 = .ok spec ↔
      ∃ template merged, resolved = .ok template ∧
        mergeParameters own.parameters template.parameters = .ok merged ∧
        (inst.withTemplate template merged).spec = spec :=
    resolve_eq_ok_iff plans
  cases hfirst with
  | unresolved hresolve =>
    refine ⟨iff_of_false Bool.false_ne_true ?_, fun _ h => nomatch h⟩
    rintro ⟨template, merged, htemplate, hmerged, -⟩
    exact nomatch hresolve.symm.trans (hresolves.2 ⟨template, merged, htemplate, hmerged, rfl⟩)
  | unbuilt hresolve hbuild =>
    refine ⟨iff_of_false Bool.false_ne_true ?_, fun _ h => nomatch h⟩
    rintro ⟨template, merged, htemplate, hmerged, hnames⟩
    obtain rfl := Except.ok.inj
      (hresolve.symm.trans (hresolves.2 ⟨template, merged, htemplate, hmerged, rfl⟩))
    rw [← (stored_completes plans inst template merged).plan] at hnames
    obtain ⟨provisioned, hprovisioned⟩ := (TemplatedInstance.provision_isOk_iff _).2 hnames
    exact nomatch hbuild.symm.trans hprovisioned
  | provisioned hresolve hbuild hspec hleaves =>
    obtain ⟨template, merged, htemplate, hmerged, rfl⟩ := hresolves.1 hresolve
    have hnames := (TemplatedInstance.provision_isOk_iff _).1 ⟨_, hbuild⟩
    rw [(stored_completes plans inst template merged).plan] at hnames
    refine ⟨iff_of_true rfl ⟨template, merged, htemplate, hmerged, hnames⟩, ?_⟩
    rintro result ⟨⟩
    exact ⟨template, merged, _, _, htemplate, hmerged, rfl,
      provisionedFrom_of_leaves hc hinst (wellFormedKey?_ne hkey).2 hbuild hspec hleaves⟩

/-- The defaults of a cluster-wide template are what is provisioned for a request that names
no class and no plan. -/
theorem synchronizeInstance_first_defaults :
    let template : Object .clusterInstanceTemplate :=
      { metadata := { name := some "small" }
        spec := {
          plan := .ofClusterExternal "mysql" "small"
          parameters := some (.ofJson (.ofFields [("size", .ofInt 5)])) } }
    let inst : TemplatedInstance :=
      { metadata := {
          name := some "db", ns := some "default", uid := some "u-1", resourceVersion := some "1" }
        spec := { parameters := some (.ofJson (.ofFields [("backup", .bool true)])) } }
    let c := ((Cluster.empty.insert template).2.insert inst).2
    let first := (synchronizeInstance noPlans "noon" "default/db").runOn c
    c.Sound ∧ c.find? .templatedInstance ⟨"default", "db"⟩ = some inst ∧
      c.find? .serviceInstance ⟨"default", "db"⟩ = none ∧
      ∃ template merged stored created, first.result = .ok (some stored) ∧
        ProvisionedFrom ⟨"default", "db"⟩ c inst template merged first.cluster stored created ∧
        ServiceInstanceSpec.plan created.spec = .ofClusterExternal "mysql" "small" := by
  intro template inst c first
  have hkey : wellFormedKey? "default/db" = some ("default", "db") := rfl
  have hsound : c.Sound := (Cluster.sound_empty.insert template).insert inst
  have hputs := (Cluster.empty.insert template).2.puts_insert inst
  have hinst : c.find? .templatedInstance ⟨"default", "db"⟩ = some inst := hputs.find?_of_place rfl
  have hvacant : c.find? .serviceInstance ⟨"default", "db"⟩ = none :=
    (hputs.find?_of_ne fun hk => by cases hk).trans
      ((Cluster.empty.puts_insert template).find?_of_ne fun hk => by cases hk)
  have hplan : (first.cluster.find? .serviceInstance ⟨"default", "db"⟩).map
      (fun s => ServiceInstanceSpec.plan s.spec) = some (.ofClusterExternal "mysql" "small") := by
    decide +kernel
  have hsuccess : first.result.isOk := by decide +kernel
  obtain ⟨-, hleaves⟩ := synchronizeInstance_first hsound hkey hinst hvacant noPlans "noon"
  cases hresult : first.result with
  | error e =>
    rw [hresult] at hsuccess
    cases hsuccess
  | ok result =>
    obtain ⟨template, merged, stored, created, -, -, rfl, hprovisioned⟩ := hleaves result hresult
    rw [hprovisioned.provisioned] at hplan
    exact ⟨hsound, hinst, hvacant, template, merged, stored, created, rfl, hprovisioned,
      Option.some.inj hplan⟩

end First

end ServiceTemplates
