import ServiceTemplates.Proofs.Reconcile.Race
import ServiceTemplates.Proofs.Reconcile.Success

/-!
# Two passes against one

What two passes for a key leave behind, compared with what one pass leaves. They create
once and store the same request, but a pass that saw the request of the beginning and then
found the service instance pushes the request of the beginning down. Main statement:
`concurrent_passes_provision`.
-/

namespace ServiceTemplates

namespace Flow

variable {t p : Kind} {F : Flow t p}

/-! ## One pass alone -/

namespace Setting

variable (S : F.Setting)

theorem stored_old : F.stored S.old S.spec = S.new := by
  unfold stored
  split
  · next h => exact (S.same h).symm
  · next h => exact (S.differs h).symm

/-- **One pass alone stores the template and creates what is built then.** -/
theorem alone (time : String) :
    ∃ T s, ((F.pass time S.key).run Cluster.serve S.start).2.find? t ⟨S.ns, S.name⟩ = some T ∧
      T.spec = S.new.spec ∧
      ((F.pass time S.key).run Cluster.serve S.start).2.find? p ⟨S.ns, S.name⟩ = some s ∧
      s.spec = S.desired.spec := by
  have hfirst := run_first (F := F) S.sound S.wellFormed S.templated S.vacant time
  cases hrun : (F.pass time S.key).run Cluster.serve S.start with
  | mk result c' =>
    rw [hrun] at hfirst
    cases hfirst with
    | unresolved hresolve => exact absurd (hresolve.symm.trans S.resolved) nofun
    | unbuilt hresolve hbuild =>
      obtain rfl := Except.ok.inj (hresolve.symm.trans S.resolved)
      exact absurd ((S.stored_old ▸ hbuild).symm.trans S.built) nofun
    | provisioned hresolve hbuild hspec hleaves =>
      obtain rfl := Except.ok.inj (hresolve.symm.trans S.resolved)
      rw [S.stored_old] at hbuild hspec
      obtain rfl := Except.ok.inj (hbuild.symm.trans S.built)
      exact ⟨_, _, hleaves.inLine.templated, hspec, hleaves.inLine.provisioned, rfl⟩

/-- A pass that succeeds shows what the template is and what is built. -/
theorem exists_of_success (hagain : F.ResolvesAgain) {c : Cluster} (hc : c.Sound)
    (hplain : c.PlainTemplates) {key ns name : String}
    (hkey : wellFormedKey? key = some (ns, name)) {o : Object t}
    (ho : c.find? t ⟨ns, name⟩ = some o) (hs : c.find? p ⟨ns, name⟩ = none) {time : String}
    {result : Option (Object t)} (h : ((F.pass time key).run Cluster.serve c).1 = .ok result) :
    ∃ S : F.Setting, S.key = key ∧ S.ns = ns ∧ S.name = name ∧ S.start = c ∧ S.old = o := by
  have hfirst := run_first (F := F) hc hkey ho hs time
  cases hrun : (F.pass time key).run Cluster.serve c with
  | mk result' c' =>
    rw [hrun] at hfirst h
    cases hfirst with
    | unresolved => cases h
    | unbuilt => cases h
    | @provisioned spec desired _ _ _ hspec hbuild =>
      let S : F.Setting :=
        { key, ns, name, start := c, old := o, spec, new := F.stored o spec, desired
          wellFormed := hkey
          sound := hc
          templated := ho
          vacant := hs
          resolved := hspec
          same := fun hsame => if_pos hsame
          differs := fun hdiffers => if_neg hdiffers
          again := fun hdiffers => by
            rw [stored, if_neg hdiffers]
            exact hagain hplain hspec _ rfl
          built := hbuild }
      exact ⟨S, rfl, rfl, rfl, rfl, rfl⟩

/-! ## Two passes -/

/-- **What two passes leave.** One creation succeeded and the template is stored. What is
provisioned is what was built, unless a pass saw the object of the beginning and then
something provisioned that does not follow it: that pass has pushed it down. -/
theorem race_leaves (times : Bool → String) (turns : List Bool) :
    let race := (Race.start S.start fun b => F.pass (times b) S.key).run turns
    race.IsOver → race.creations p = 1 ∧
      ∃ T s, race.cluster.find? t ⟨S.ns, S.name⟩ = some T ∧ T.spec = S.new.spec ∧
        race.cluster.find? p ⟨S.ns, S.name⟩ = some s ∧
        let pushed := ¬ F.inSync S.old.spec S.desired.spec ∧
          ∃ b, ReadFor S.key (race.racer b).said S.old ∧
            ∃ found : Object p, ReadFor S.key (race.racer b).said found
        (pushed → s.spec = F.refresh S.old.spec S.desired.spec) ∧
          (¬ pushed → s.spec = S.desired.spec) := by
  intro race hover
  obtain ⟨w, T, s, hafter⟩ : ∃ w T s, S.After times w T s race := by
    refine (S.before_or_after times turns).resolve_left ?_
    rintro ⟨T, hbefore⟩
    exact hbefore.not_over hover
  obtain ⟨hcreations, o?, s?, houtcome, hloser, o, hwinner⟩ := hafter.over hover
  -- The winner found nothing provisioned, so it can only be the other pass that found both.
  have hpaired : (∃ b, ReadFor S.key (race.racer b).said S.old ∧
      ∃ found : Object p, ReadFor S.key (race.racer b).said found) ↔
      o? = some S.old ∧ s?.isSome := by
    simp only [readFor_iff S.wellFormed, Option.isSome_iff_exists]
    constructor
    · rintro ⟨b, hb, found, hfound⟩
      rcases eq_or_eq_not w b with rfl | rfl
      · exact absurd ((hwinner.provisioned found).1 hfound) nofun
      · exact ⟨(hloser.templated _).1 hb, found, (hloser.provisioned found).1 hfound⟩
    · rintro ⟨hold, found, hfound⟩
      exact ⟨!w, (hloser.templated _).2 hold, found, (hloser.provisioned found).2 hfound⟩
  refine ⟨hcreations, T, s, hafter.standing.templated, hafter.standing.spec,
    hafter.standing.provisioned, ?_⟩
  dsimp only
  rw [hpaired]
  constructor
  · rintro ⟨hdrift, hold, hfound⟩
    exact houtcome.pushed hold hfound hdrift
  · intro hno
    exact houtcome.kept fun ⟨hold, hfound, hdrift⟩ => hno ⟨hdrift, hold, hfound⟩

end Setting

end Flow

/-! ## Instances -/

/-- What of a request is pushed down with its parameters. -/
def TemplatedInstanceSpec.contents (spec : TemplatedInstanceSpec) :
    PlanReference × Option Document × List ParameterSource :=
  (spec.plan, spec.parameters, spec.parameterSources)

/-- What of a service instance follows its request. -/
def ServiceInstanceSpec.contents (spec : ServiceInstanceSpec) :
    PlanReference × Option Document × List ParameterSource :=
  (spec.plan, spec.parameters, spec.parameterSources)

/-- A template does not touch the counter. -/
theorem instanceFlow_resolve_updateRequests {c : Cluster} {inst : TemplatedInstance}
    {spec : TemplatedInstanceSpec}
    (h : (((instanceFlow noPlans).resolve inst).run Cluster.serve c).1 = .ok spec) :
    spec.updateRequests = TemplatedInstanceSpec.updateRequests inst.spec := by
  obtain ⟨template, -, applied, happlied, rfl⟩ := instanceFlow_resolve_eq_ok_iff.1 h
  obtain ⟨parameters, -, rfl⟩ := TemplatedInstance.applyTemplate_eq_ok_iff.1 happlied
  rfl

section Instances

variable (S : (instanceFlow noPlans).Setting)

theorem Flow.Setting.new_updateRequests : TemplatedInstanceSpec.updateRequests S.new.spec =
    TemplatedInstanceSpec.updateRequests S.old.spec := by
  by_cases h : (instanceFlow noPlans).sameSpec S.spec S.old.spec
  · rw [S.same h]
  · rw [S.differs h]
    exact instanceFlow_resolve_updateRequests S.resolved

theorem Flow.Setting.desired_contents : ServiceInstanceSpec.contents S.desired.spec =
    TemplatedInstanceSpec.contents S.new.spec := by
  rw [(TemplatedInstance.provision_eq_ok S.built).2]
  rfl

/-- The request of the beginning is followed if its parameters are written alike. -/
theorem Flow.Setting.inSync_iff : (instanceFlow noPlans).inSync S.old.spec S.desired.spec ↔
    sameParameters (TemplatedInstanceSpec.parameters S.old.spec)
      (TemplatedInstanceSpec.parameters S.new.spec) := by
  have hspec := (TemplatedInstance.provision_eq_ok S.built).2
  have hcounter := S.new_updateRequests
  simp [instanceFlow, hspec, hcounter]

end Instances

/-- **What two passes for an instance leave behind.** Let one pass succeed in a sound
cluster whose templates have plain parameters and in which nothing is provisioned for the
instance yet. Then two passes, in whatever order they take their turns, create one service
instance and store the request that the one pass would have stored. The service instance has
the contents that the one pass would have given it, except when a template changes the
parameters and one of the passes has read the instance as it was in the beginning and then
found the service instance: then it has the contents of the instance of the beginning. -/
theorem concurrent_passes_provision {c : Cluster} (hc : c.Sound) (hplain : c.PlainTemplates)
    {key ns name : String} (hkey : wellFormedKey? key = some (ns, name)) {inst : TemplatedInstance}
    (hinst : c.find? .templatedInstance ⟨ns, name⟩ = some inst)
    (hvacant : c.find? .serviceInstance ⟨ns, name⟩ = none) {time : String}
    (hsuccess : ((synchronizeInstance noPlans time key).runOn c).result.isOk)
    (times : Bool → String) (turns : List Bool)
    (hover : ((Race.start c fun b => synchronizeInstance noPlans (times b) key).run turns).IsOver) :
    let alone := ((synchronizeInstance noPlans time key).runOn c).cluster
    let race := (Race.start c fun b => synchronizeInstance noPlans (times b) key).run turns
    ∃ (stored raced : TemplatedInstance) (created provisioned : ServiceInstance),
      alone.find? .templatedInstance ⟨ns, name⟩ = some stored ∧
      alone.find? .serviceInstance ⟨ns, name⟩ = some created ∧
      race.cluster.find? .templatedInstance ⟨ns, name⟩ = some raced ∧
      race.cluster.find? .serviceInstance ⟨ns, name⟩ = some provisioned ∧
      race.creations .serviceInstance = 1 ∧ raced.spec = stored.spec ∧
      let outdated := ¬ sameParameters (TemplatedInstanceSpec.parameters inst.spec)
          (TemplatedInstanceSpec.parameters stored.spec) ∧
        ∃ b, ReadFor key (race.racer b).said inst ∧
          ∃ found : ServiceInstance, ReadFor key (race.racer b).said found
      (ServiceInstanceSpec.contents provisioned.spec = ServiceInstanceSpec.contents created.spec ↔
        ¬ outdated) ∧
      (outdated → ServiceInstanceSpec.contents provisioned.spec =
        TemplatedInstanceSpec.contents inst.spec) := by
  -- The pass alone shows what is resolved and built.
  obtain ⟨S, rfl, rfl, rfl, rfl, rfl⟩ : ∃ S : (instanceFlow noPlans).Setting,
      S.key = key ∧ S.ns = ns ∧ S.name = name ∧ S.start = c ∧ S.old = inst := by
    rw [Pass.runOn_result, synchronizeInstance_eq] at hsuccess
    cases hresult : (((instanceFlow noPlans).pass time key).run Cluster.serve c).1 with
    | error e =>
      rw [hresult] at hsuccess
      cases hsuccess
    | ok result =>
      exact Flow.Setting.exists_of_success instanceFlow_resolvesAgain hc hplain hkey hinst hvacant
        hresult
  intro alone race
  have hpass : (fun b => (instanceFlow noPlans).pass (times b) S.key) =
      fun b => synchronizeInstance noPlans (times b) S.key :=
    funext fun b => (synchronizeInstance_eq noPlans (times b) S.key).symm
  have hleaves := S.race_leaves times turns
  rw [hpass] at hleaves
  obtain ⟨hcreations, raced, provisioned, hraced, hracedSpec, hprovisioned, hpushed, hkept⟩ :=
    hleaves hover
  obtain ⟨stored, created, hstored, hstoredSpec, hcreated, hcreatedSpec⟩ := S.alone time
  rw [← synchronizeInstance_eq, ← Pass.runOn_cluster] at hstored hcreated
  refine ⟨stored, raced, created, provisioned, hstored, hcreated, hraced, hprovisioned, hcreations,
    hracedSpec.trans hstoredSpec.symm, ?_⟩
  have hcreatedContents : ServiceInstanceSpec.contents created.spec =
      TemplatedInstanceSpec.contents S.new.spec := by rw [hcreatedSpec, S.desired_contents]
  rw [S.inSync_iff] at hpushed hkept
  intro outdated
  have houtdated : outdated ↔ (¬ sameParameters (TemplatedInstanceSpec.parameters S.old.spec)
      (TemplatedInstanceSpec.parameters S.new.spec) ∧
        ∃ b, ReadFor S.key (race.racer b).said S.old ∧
          ∃ found : ServiceInstance, ReadFor S.key (race.racer b).said found) := by
    rw [← hstoredSpec]
  have hold : outdated → ServiceInstanceSpec.contents provisioned.spec =
      TemplatedInstanceSpec.contents S.old.spec := by
    intro h
    rw [hpushed (houtdated.1 h)]
    rfl
  -- In the exception the contents differ, since the parameters are not even written alike.
  refine ⟨⟨fun hsame h => ?_, fun h => ?_⟩, hold⟩
  · have hcontents := (hold h).symm.trans (hsame.trans hcreatedContents)
    have hparameters : TemplatedInstanceSpec.parameters S.old.spec =
        TemplatedInstanceSpec.parameters S.new.spec := congrArg (·.2.1) hcontents
    exact (houtdated.1 h).1 (by simp [hparameters, sameParameters])
  · rw [hkept fun hp => h (houtdated.2 hp), S.desired_contents, hcreatedContents]

/-- One pass reads the instance, the other one does all its work, and then the first one
goes on: the plan and the parameters of the template are gone. -/
theorem concurrent_passes_provision_outdated :
    let template : Object .clusterInstanceTemplate :=
      { metadata := { name := some "small" }
        spec := {
          plan := .ofClusterExternal "mysql" "small"
          parameters := some (.ofJson (.ofFields [("size", .ofInt 5)])) } }
    let inst : TemplatedInstance :=
      { metadata := {
          name := some "db", ns := some "default", uid := some "u-1", resourceVersion := some "1" }
        spec := { parameters := some (.ofJson (.ofFields [("backup", .bool true)])) } }
    let c := ((Cluster.empty.insert template).2.insert inst).2
    let race := (Race.start c fun _ => synchronizeInstance noPlans "noon" "default/db").run
      (true :: List.replicate 10 false ++ List.replicate 4 true)
    race.IsOver ∧ ∃ created provisioned : ServiceInstance,
      ((synchronizeInstance noPlans "noon" "default/db").runOn c).cluster.find? .serviceInstance
        ⟨"default", "db"⟩ = some created ∧
      race.cluster.find? .serviceInstance ⟨"default", "db"⟩ = some provisioned ∧
      race.creations .serviceInstance = 1 ∧
      ServiceInstanceSpec.plan created.spec = .ofClusterExternal "mysql" "small" ∧
      ServiceInstanceSpec.contents provisioned.spec = TemplatedInstanceSpec.contents inst.spec := by
  intro template inst c race
  have hsound : c.Sound := (Cluster.sound_empty.insert template).insert inst
  have hplain : c.PlainTemplates :=
    (Cluster.plainTemplates_empty.insert template (plainParameters_some rfl)).insert
      inst plainParameters_none
  have hputs := (Cluster.empty.insert template).2.puts_insert inst
  have hinst : c.find? .templatedInstance ⟨"default", "db"⟩ = some inst := hputs.find?_of_place rfl
  have hvacant : c.find? .serviceInstance ⟨"default", "db"⟩ = none :=
    (hputs.find?_of_ne fun hk => by cases hk).trans
      ((Cluster.empty.puts_insert template).find?_of_ne fun hk => by cases hk)
  have hover : race.IsOver := by decide +kernel
  have hsuccess : ((synchronizeInstance noPlans "noon" "default/db").runOn c).result.isOk := by
    decide +kernel
  obtain ⟨stored, raced, created, provisioned, -, hcreated, -, hprovisioned, hcreations, -, hiff,
    hout⟩ :=
    concurrent_passes_provision hsound hplain rfl hinst hvacant hsuccess (fun _ => "noon") _ hover
  -- The plans differ, so the exception is met.
  have hplan : (((synchronizeInstance noPlans "noon" "default/db").runOn c).cluster.find?
      .serviceInstance ⟨"default", "db"⟩).map (fun s => ServiceInstanceSpec.plan s.spec) =
        some (.ofClusterExternal "mysql" "small") := by decide +kernel
  have hlost : (race.cluster.find? .serviceInstance ⟨"default", "db"⟩).map
      (fun s => ServiceInstanceSpec.plan s.spec) = some {} := by decide +kernel
  rw [hcreated] at hplan
  rw [hprovisioned] at hlost
  have hcreatedPlan := Option.some.inj hplan
  have hprovisionedPlan := Option.some.inj hlost
  have hdiffer : ServiceInstanceSpec.contents provisioned.spec ≠
      ServiceInstanceSpec.contents created.spec := by
    intro h
    have hsame := congrArg Prod.fst h
    exact absurd (hprovisionedPlan.symm.trans (hsame.trans hcreatedPlan)) (by decide)
  have houtdated := Classical.not_not.1 fun h => hdiffer (hiff.2 h)
  exact ⟨hover, created, provisioned, hcreated, hprovisioned, hcreations, hcreatedPlan,
    hout houtdated⟩

end ServiceTemplates
