import ServiceTemplates.Proofs.Reconcile.Course
import ServiceTemplates.Proofs.Reconcile.FirstPass

/-!
# Class and plan of what is provisioned

A service instance is created for a request that names a class and a plan. Later the plan of
the request is pushed down together with changed parameters, whatever it is by then, so that
every service instance keeps a class and a plan just as long as no pass pushes a request down
that lacks one. Nothing else matters, in particular neither the passes for bindings nor what the
catalog reports. Main statement: `plansComplete_along_iff`.
-/

namespace ServiceTemplates

/-! ## One pass -/

/-- Whether every service instance names a class and a plan. -/
def Cluster.PlansComplete (c : Cluster) : Prop :=
  ∀ place (s : ServiceInstance), c.find? .serviceInstance place = some s →
    (ServiceInstanceSpec.plan s.spec).isComplete

/-- Whether a request is pushed down to a service instance although it lacks a class or a
plan: the service instance is under its control, and the request has other parameters or
another counter by now. -/
structure PushesIncomplete (inst : TemplatedInstance) (s : ServiceInstance) : Prop where
  controlled : s.metadata.isControlledBy inst
  drifted : ¬ inst.isInSync s
  lacks : ¬ (TemplatedInstanceSpec.plan inst.spec).isComplete

section Pass

variable {plans : PlanResolver} {time uid : String} {inst : TemplatedInstance} {s : ServiceInstance}

/-- What is built names a class and a plan. -/
theorem TemplatedInstance.provision_complete {provisioned : ServiceInstance}
    (h : TemplatedInstance.provision inst = .ok provisioned) :
    (TemplatedInstanceSpec.plan inst.spec).isComplete ∧
      (ServiceInstanceSpec.plan provisioned.spec).isComplete := by
  have hcomplete : (TemplatedInstanceSpec.plan inst.spec).isComplete := by
    have hprovision := (TemplatedInstance.provision_isOk_iff inst).1 ⟨_, h⟩
    rwa [PlanReference.lacksClassOrPlan_iff, not_not] at hprovision
  rw [(TemplatedInstance.provision_eq_ok h).2]
  exact ⟨hcomplete, hcomplete⟩

/-- What is provisioned at first is complete, and so is the request for it. -/
theorem complete_of_provisioning {resolved : Except Error TemplatedInstanceSpec}
    (h : ((instanceFlow plans).provisioning time uid inst resolved).provisioned = some s) :
    (ServiceInstanceSpec.plan s.spec).isComplete ∧
      ∀ o, ((instanceFlow plans).provisioning time uid inst resolved).templated = some o →
        (TemplatedInstanceSpec.plan o.spec).isComplete := by
  cases resolved with
  | error e => cases h
  | ok spec =>
    cases hbuild : (instanceFlow plans).build ((instanceFlow plans).stored inst spec) with
    | error e =>
      rw [Flow.provisioning_of_unbuilt hbuild] at h
      cases h
    | ok desired =>
      rw [Flow.provisioning_of_built hbuild] at h ⊢
      obtain ⟨hrequest, hdesired⟩ := TemplatedInstance.provision_complete hbuild
      obtain rfl := Option.some.inj h
      refine ⟨hdesired, fun o ho => ?_⟩
      obtain rfl := Option.some.inj ho
      rw [Flow.reported_spec]
      exact hrequest

theorem pushed_complete_iff (plans : PlanResolver) (hctl : s.metadata.isControlledBy inst)
    (hs : (ServiceInstanceSpec.plan s.spec).isComplete) :
    (ServiceInstanceSpec.plan ((instanceFlow plans).pushed inst s).spec).isComplete ↔
      ¬ PushesIncomplete inst s := by
  unfold Flow.pushed
  by_cases hsync : (instanceFlow plans).inSync inst.spec s.spec
  · rw [if_pos hsync]
    exact iff_of_true hs fun hpushes => hpushes.drifted hsync
  · rw [if_neg hsync]
    constructor
    · intro hcomplete hpushes
      exact hpushes.lacks hcomplete
    · intro hno
      by_contra hlacks
      exact hno ⟨hctl, hsync, hlacks⟩

variable {resolve : TemplatedInstance → Except Error TemplatedInstanceSpec}
  {o? : Option TemplatedInstance} {s? : Option ServiceInstance}

theorem effect_complete_iff (plans : PlanResolver) (time uid : String)
    (resolve : TemplatedInstance → Except Error TemplatedInstanceSpec)
    (o? : Option TemplatedInstance)
    (hs : ∀ s, s? = some s → (ServiceInstanceSpec.plan s.spec).isComplete) :
    (∀ s, ((instanceFlow plans).effect time uid resolve o? s?).provisioned = some s →
        (ServiceInstanceSpec.plan s.spec).isComplete) ↔
      ¬ ∃ inst s, o? = some inst ∧ s? = some s ∧ PushesIncomplete inst s := by
  cases o? with
  | none => exact iff_of_true hs (by simp)
  | some inst =>
    cases s? with
    | none => exact iff_of_true (fun s h => (complete_of_provisioning h).1) (by simp)
    | some s =>
      have hfound : (∃ inst' s', some inst = some inst' ∧ some s = some s' ∧
          PushesIncomplete inst' s') ↔ PushesIncomplete inst s := by simp
      rw [hfound]
      by_cases hctl : s.metadata.isControlledBy inst
      · rw [Flow.effect_of_controlled hctl, ← pushed_complete_iff plans hctl (hs s rfl)]
        simp [Flow.reporting]
      · rw [Flow.effect_of_foreign hctl]
        exact iff_of_true hs fun hpushes => hctl hpushes.controlled

/-- A pass leaves a request beside its service instance with class and plan if it found it so. -/
theorem effect_request_complete
    (ho : ∀ o s, o? = some o → s? = some s → (TemplatedInstanceSpec.plan o.spec).isComplete)
    {o : TemplatedInstance}
    (ho' : ((instanceFlow plans).effect time uid resolve o? s?).templated = some o)
    (hs' : ((instanceFlow plans).effect time uid resolve o? s?).provisioned = some s) :
    (TemplatedInstanceSpec.plan o.spec).isComplete := by
  cases o? with
  | none => cases ho'
  | some inst =>
    cases s? with
    | none => exact (complete_of_provisioning hs').2 o ho'
    | some found =>
      have hinst := ho inst found rfl rfl
      by_cases hctl : found.metadata.isControlledBy inst
      · rw [Flow.effect_of_controlled hctl] at ho'
        obtain rfl := Option.some.inj ho'
        rw [Flow.reported_spec]
        exact hinst
      · rw [Flow.effect_of_foreign hctl] at ho'
        obtain rfl := Option.some.inj ho'
        exact hinst

end Pass

/-! ## One event -/

namespace Happening

variable {c : Cluster}

/-- Whether an event is a pass that pushes down a request which lacks a class or a plan. -/
def PushesIncomplete (c : Cluster) : Happening → Prop
  | instancePass _ _ key => ∃ ns name, wellFormedKey? key = some (ns, name) ∧
      ∃ inst s, c.find? .templatedInstance ⟨ns, name⟩ = some inst ∧
        c.find? .serviceInstance ⟨ns, name⟩ = some s ∧ ServiceTemplates.PushesIncomplete inst s
  | bindingPass _ _ | edit _ _ | report _ => False

/-- Whether an event is an edit that leaves a request without class or plan for which there is
a service instance. -/
def StripsPlan (c : Cluster) : Happening → Prop
  | instancePass _ _ _ | bindingPass _ _ | report _ => False
  | edit made _ => ∃ place s inst, c.find? .serviceInstance place = some s ∧
      (made.apply c).find? .templatedInstance place = some inst ∧
      c.find? .templatedInstance place ≠ some inst ∧
      ¬ (TemplatedInstanceSpec.plan inst.spec).isComplete

/-- **Every service instance keeps its class and plan in an event, unless that pushes down a
request which lacks them.** -/
theorem after_plansComplete_iff (hc : c.Sound) (h : c.PlansComplete) (e : Happening) :
    (e.after c).PlansComplete ↔ ¬ e.PushesIncomplete c := by
  cases e with
  | edit made users =>
    refine iff_of_true (fun place s hs => h place s ?_) id
    rw [← made.find?_of_ne users.ne_provisioned.1 place]
    exact hs
  | bindingPass time key =>
    refine iff_of_true (fun place s hs => h place s ?_) id
    rw [after_bindingPass, bindingFlow.run_pass_other hc time key (by decide) (by decide)] at hs
    exact hs
  | report made =>
    refine iff_of_true (fun place s hs => ?_) id
    rcases made.find?_serviceInstance hc place with hsame | ⟨s', _, _, _, hs', hreported⟩
    · exact h place s (hsame.symm.trans hs)
    · obtain rfl := Option.some.inj (hreported.symm.trans hs)
      exact h place s' hs'
  | instancePass plans time key =>
    rw [after_instancePass]
    cases hkey : wellFormedKey? key with
    | none =>
      rw [Flow.pass_of_malformed hkey]
      refine iff_of_true h ?_
      rintro ⟨ns, name, hkey', -⟩
      rw [hkey] at hkey'
      cases hkey'
    | some place =>
      obtain ⟨ns, name⟩ := place
      obtain ⟨uid, hhas⟩ := Flow.run_pass_has (F := instanceFlow plans) hc hkey time
      have heffect := effect_complete_iff plans time uid
        (fun o => (((instanceFlow plans).resolve o).run Cluster.serve c).1)
        (c.find? .templatedInstance ⟨ns, name⟩) (h ⟨ns, name⟩)
      have hpushes : Happening.PushesIncomplete c (instancePass plans time key) ↔ ∃ inst s,
          c.find? .templatedInstance ⟨ns, name⟩ = some inst ∧
          c.find? .serviceInstance ⟨ns, name⟩ = some s ∧
          ServiceTemplates.PushesIncomplete inst s := by
        constructor
        · rintro ⟨ns', name', hkey', hpushes⟩
          obtain ⟨rfl, rfl⟩ := Prod.mk.inj (Option.some.inj (hkey.symm.trans hkey'))
          exact hpushes
        · exact fun hpushes => ⟨ns, name, hkey, hpushes⟩
      rw [hpushes, ← heffect, ← hhas.provisioned]
      refine ⟨fun hleft s hs => hleft _ s hs, fun hhere place s hs => ?_⟩
      by_cases hplace : place = ⟨ns, name⟩
      · subst hplace
        exact hhere s hs
      · rw [hhas.beyond _ _ fun hand => hplace hand.2] at hs
        exact h place s hs

/-- Whether every request for which there is a service instance names a class and a plan. -/
def RequestsComplete (c : Cluster) : Prop :=
  ∀ place (s : ServiceInstance) (inst : TemplatedInstance),
    c.find? .serviceInstance place = some s → c.find? .templatedInstance place = some inst →
      (TemplatedInstanceSpec.plan inst.spec).isComplete

theorem not_pushesIncomplete (h : RequestsComplete c) (e : Happening) :
    ¬ e.PushesIncomplete c := by
  cases e with
  | instancePass plans time key =>
    rintro ⟨ns, name, -, inst, s, hinst, hs, hpushes⟩
    exact hpushes.lacks (h _ s inst hs hinst)
  | _ => exact id

theorem after_requestsComplete (hc : c.Sound) (h : RequestsComplete c) (e : Happening)
    (hkeeps : ¬ e.StripsPlan c) : RequestsComplete (e.after c) := by
  intro place s inst hs hinst
  cases e with
  | edit made users =>
    replace hs := (made.find?_of_ne users.ne_provisioned.1 place).symm.trans hs
    by_contra hlacks
    by_cases hold : c.find? .templatedInstance place = some inst
    · exact hlacks (h place s inst hs hold)
    · exact hkeeps ⟨place, s, inst, hs, hinst, hold, hlacks⟩
  | bindingPass time key =>
    rw [after_bindingPass, bindingFlow.run_pass_other hc time key (by decide) (by decide)] at hs
    rw [after_bindingPass, bindingFlow.run_pass_other hc time key (by decide) (by decide)] at hinst
    exact h place s inst hs hinst
  | report made =>
    replace hinst := (made.find?_of_asked (Or.inl rfl) place).symm.trans hinst
    rcases made.find?_serviceInstance hc place with hsame | ⟨s', _, _, _, hs', -⟩
    · exact h place s inst (hsame.symm.trans hs) hinst
    · exact h place s' inst hs' hinst
  | instancePass plans time key =>
    rw [after_instancePass] at hs hinst
    rcases (instanceFlow plans).run_pass_at hc time key place with
      ⟨hinst', hs'⟩ | ⟨uid, hinst', hs'⟩
    · exact h place s inst (hs'.symm.trans hs) (hinst'.symm.trans hinst)
    · refine effect_request_complete (fun o s ho hs => h _ s o hs ho) ?_ (hs'.symm.trans hs)
      exact hinst'.symm.trans hinst

end Happening

/-! ## Whole histories -/

/-- **Just as long as nothing incomplete is pushed down.** In every history of passes, edits and
reports that starts from an empty cluster, every service instance names a class and a plan at all
times exactly if no pass pushes down a request that lacks one. This is so if no edit leaves such a
request for which there is a service instance. -/
theorem plansComplete_along_iff (events : List Happening) :
    ((∀ past, past <+: events → (Happening.run .empty past).PlansComplete) ↔
      ∀ past e, past ++ [e] <+: events → ¬ e.PushesIncomplete (Happening.run .empty past)) ∧
    ((∀ past e, past ++ [e] <+: events → ¬ e.StripsPlan (Happening.run .empty past)) →
      ∀ past, past <+: events → (Happening.run .empty past).PlansComplete) := by
  have hempty : Cluster.empty.PlansComplete := fun _ _ h => nomatch h
  have hsound := Happening.sound_run Cluster.sound_empty
  have hcomplete :
      (∀ past e, past ++ [e] <+: events → ¬ e.PushesIncomplete (Happening.run .empty past)) →
      ∀ past, past <+: events → (Happening.run .empty past).PlansComplete := by
    intro hpushes
    refine Happening.run_induction hempty fun past e hprefix h => ?_
    exact (Happening.after_plansComplete_iff (hsound past) h e).2 (hpushes past e hprefix)
  refine ⟨⟨fun h past e hprefix => ?_, hcomplete⟩, fun hkeeps => hcomplete ?_⟩
  · have hpast := h past ((List.prefix_append past [e]).trans hprefix)
    have hrun : Happening.run .empty (past ++ [e]) = e.after (Happening.run .empty past) :=
      Happening.run_append past [e]
    exact (Happening.after_plansComplete_iff (hsound past) hpast e).1 (hrun ▸ h _ hprefix)
  · -- The requests stay complete, so that nothing else can be pushed down.
    have hrequests : ∀ past, past <+: events →
        Happening.RequestsComplete (Happening.run .empty past) := by
      refine Happening.run_induction (fun _ _ _ h => nomatch h) fun past e hprefix h => ?_
      exact Happening.after_requestsComplete (hsound past) h e (hkeeps past e hprefix)
    intro past e hprefix
    apply Happening.not_pushesIncomplete
    exact hrequests past ((List.prefix_append past [e]).trans hprefix)

/-- **A service instance can lose its class and plan.** The plan of a provisioned instance is
cleared and its parameters are changed; the next pass pushes both down. -/
theorem plansComplete_lost :
    let asked : TemplatedInstance :=
      { metadata := { name := some "db", ns := some "default" }
        spec := {
          plan := .ofClusterExternal "mysql" "small"
          parameters := some (.ofJson (.ofFields [("size", .ofInt 5)])) } }
    let edited : TemplatedInstance :=
      { metadata := { name := some "db", ns := some "default" }
        spec := { parameters := some (.ofJson (.ofFields [("size", .ofInt 6)])) } }
    let provisioned : List Happening :=
      [.edit (.insert asked) (Or.inl rfl), .instancePass noPlans "noon" "default/db"]
    let stripped : List Happening :=
      [.edit (.replace edited) (Or.inl rfl), .instancePass noPlans "one" "default/db"]
    ¬ (Happening.run .empty (provisioned ++ stripped)).PlansComplete := by
  intro asked edited provisioned stripped h
  have hplan : ((Happening.run .empty (provisioned ++ stripped)).find? .serviceInstance
      ⟨"default", "db"⟩).map (fun s => (ServiceInstanceSpec.plan s.spec).isComplete) =
        some false := by decide +kernel
  obtain ⟨s, hs, hlacks⟩ := Option.map_eq_some_iff.1 hplan
  rw [h ⟨"default", "db"⟩ s hs] at hlacks
  cases hlacks

end ServiceTemplates
