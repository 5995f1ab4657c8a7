import ServiceTemplates.Proofs.Reconcile.Course
import ServiceTemplates.Proofs.Reconcile.FirstPass
import ServiceTemplates.Proofs.Reconcile.ReportedSecret
import ServiceTemplates.Proofs.Template.Drift

/-!
# What passes never change, and what they push down

Nothing checks that a provisioned object keeps what must not change after it was created; it
follows from what a pass copies when it refreshes an object, applies a template or records a
report. `Cluster.PassKeeps` says what no pass changes, `Happening.PushesDown` what of a request
is found again in what is provisioned for it after a pass that succeeds. Main statement:
`keeps_and_pushes_along`.
-/

namespace ServiceTemplates

/-! ## What is kept of one object -/

/-- What stays of a service instance from its creation on. -/
structure ServiceInstance.Fixed (s s' : ServiceInstance) : Prop where
  metadata : s.SameButVersion s'
  externalId : ServiceInstanceSpec.externalId s'.spec = ServiceInstanceSpec.externalId s.spec

/-- What a pass keeps of a service instance, the catalog's report included. -/
structure ServiceInstance.Kept (s s' : ServiceInstance) : Prop extends
    ServiceInstance.Fixed s s' where
  classRef : ServiceInstanceSpec.classRef s'.spec = ServiceInstanceSpec.classRef s.spec
  planRef : ServiceInstanceSpec.planRef s'.spec = ServiceInstanceSpec.planRef s.spec
  status : s'.status = s.status

/-- What stays of a service binding from its creation on. -/
structure ServiceBinding.Fixed (s s' : ServiceBinding) : Prop where
  metadata : s.SameButVersion s'
  externalId : ServiceBindingSpec.externalId s'.spec = ServiceBindingSpec.externalId s.spec
  instanceRef : ServiceBindingSpec.instanceRef s'.spec = ServiceBindingSpec.instanceRef s.spec
  secretName : ServiceBindingSpec.secretName s'.spec = ServiceBindingSpec.secretName s.spec

/-- What a pass keeps of a service binding, the catalog's report included. -/
structure ServiceBinding.Kept (s s' : ServiceBinding) : Prop extends
    ServiceBinding.Fixed s s' where
  status : s'.status = s.status

/-- What a pass keeps of a request for an instance. -/
structure TemplatedInstance.Kept (o o' : TemplatedInstance) : Prop where
  metadata : o.SameButVersion o'
  serviceType : TemplatedInstanceSpec.serviceType o'.spec = TemplatedInstanceSpec.serviceType o.spec
  externalId : TemplatedInstanceSpec.externalId o'.spec = TemplatedInstanceSpec.externalId o.spec
  updateRequests :
    TemplatedInstanceSpec.updateRequests o'.spec = TemplatedInstanceSpec.updateRequests o.spec
  plan : ¬ (TemplatedInstanceSpec.plan o.spec).isEmpty →
    TemplatedInstanceSpec.plan o'.spec = TemplatedInstanceSpec.plan o.spec

/-- What a pass keeps of a request for credentials. -/
structure TemplatedBinding.Kept (o o' : TemplatedBinding) : Prop where
  metadata : o.SameButVersion o'
  instanceRef : TemplatedBindingSpec.instanceRef o'.spec = TemplatedBindingSpec.instanceRef o.spec
  externalId : TemplatedBindingSpec.externalId o'.spec = TemplatedBindingSpec.externalId o.spec
  secretName : TemplatedBindingSpec.secretName o.spec ≠ "" →
    TemplatedBindingSpec.secretName o'.spec = TemplatedBindingSpec.secretName o.spec

theorem TemplatedInstance.Kept.refl (o : TemplatedInstance) : TemplatedInstance.Kept o o :=
  ⟨.refl o, rfl, rfl, rfl, fun _ => rfl⟩

theorem TemplatedBinding.Kept.refl (o : TemplatedBinding) : TemplatedBinding.Kept o o :=
  ⟨.refl o, rfl, rfl, fun _ => rfl⟩

theorem ServiceInstance.Kept.refl (s : ServiceInstance) : ServiceInstance.Kept s s :=
  ⟨⟨.refl s, rfl⟩, rfl, rfl, rfl⟩

theorem ServiceBinding.Kept.refl (s : ServiceBinding) : ServiceBinding.Kept s s :=
  ⟨⟨.refl s, rfl, rfl, rfl⟩, rfl⟩

theorem ServiceInstance.Fixed.trans {s s₁ s₂ : ServiceInstance} (h₁ : ServiceInstance.Fixed s s₁)
    (h₂ : ServiceInstance.Fixed s₁ s₂) : ServiceInstance.Fixed s s₂ :=
  ⟨h₁.metadata.trans h₂.metadata, h₂.externalId.trans h₁.externalId⟩

theorem ServiceBinding.Fixed.trans {s s₁ s₂ : ServiceBinding} (h₁ : ServiceBinding.Fixed s s₁)
    (h₂ : ServiceBinding.Fixed s₁ s₂) : ServiceBinding.Fixed s s₂ where
  metadata := h₁.metadata.trans h₂.metadata
  externalId := h₂.externalId.trans h₁.externalId
  instanceRef := h₂.instanceRef.trans h₁.instanceRef
  secretName := h₂.secretName.trans h₁.secretName

/-! ## What is kept of a cluster -/

/-- Whether every object of a kind is still in place, as `Same` allows. -/
def Cluster.Keeps (c c' : Cluster) {k : Kind} (Same : Object k → Object k → Prop) : Prop :=
  ∀ place o, c.find? k place = some o → ∃ o', c'.find? k place = some o' ∧ Same o o'

namespace Cluster.Keeps

variable {c c₁ c₂ : Cluster} {k : Kind} {Same : Object k → Object k → Prop}

/-- What looks the same before and after is kept. -/
theorem of_alike (hrefl : ∀ o, Same o o) (h : ∀ place, c₁.find? k place = c.find? k place) :
    c.Keeps c₁ Same := by
  intro place o ho
  exact ⟨o, (h place).trans ho, hrefl o⟩

/-- What is kept twice is kept, if the sense in which it is kept is transitive. -/
theorem trans (htrans : ∀ {o o₁ o₂}, Same o o₁ → Same o₁ o₂ → Same o o₂)
    (h₁ : c.Keeps c₁ Same) (h₂ : c₁.Keeps c₂ Same) : c.Keeps c₂ Same := by
  intro place o ho
  obtain ⟨o₁, ho₁, hsame₁⟩ := h₁ place o ho
  obtain ⟨o₂, ho₂, hsame₂⟩ := h₂ place o₁ ho₁
  exact ⟨o₂, ho₂, htrans hsame₁ hsame₂⟩

/-- What is kept in one sense is kept in any weaker one. -/
theorem mono {Same' : Object k → Object k → Prop} (h : c.Keeps c₁ Same)
    (himp : ∀ {o o'}, Same o o' → Same' o o') : c.Keeps c₁ Same' := by
  intro place o ho
  obtain ⟨o', ho', hsame⟩ := h place o ho
  exact ⟨o', ho', himp hsame⟩

end Cluster.Keeps

/-- What no pass changes. -/
structure Cluster.PassKeeps (c c' : Cluster) : Prop where
  serviceInstance : c.Keeps c' ServiceInstance.Kept
  serviceBinding : c.Keeps c' ServiceBinding.Kept
  templatedInstance : c.Keeps c' TemplatedInstance.Kept
  templatedBinding : c.Keeps c' TemplatedBinding.Kept

/-- What never changes of what is provisioned. -/
structure Cluster.Fixes (c c' : Cluster) : Prop where
  serviceInstance : c.Keeps c' ServiceInstance.Fixed
  serviceBinding : c.Keeps c' ServiceBinding.Fixed

/-- What a pass keeps includes what is fixed for good. -/
theorem Cluster.PassKeeps.fixes {c c' : Cluster} (h : c.PassKeeps c') : c.Fixes c' where
  serviceInstance := h.serviceInstance.mono ServiceInstance.Kept.toFixed
  serviceBinding := h.serviceBinding.mono ServiceBinding.Kept.toFixed

namespace Cluster.Fixes

variable {c c₁ c₂ : Cluster}

theorem refl (c : Cluster) : c.Fixes c where
  serviceInstance := .of_alike (fun s => (ServiceInstance.Kept.refl s).toFixed) fun _ => rfl
  serviceBinding := .of_alike (fun s => (ServiceBinding.Kept.refl s).toFixed) fun _ => rfl

theorem trans (h₁ : c.Fixes c₁) (h₂ : c₁.Fixes c₂) : c.Fixes c₂ where
  serviceInstance := h₁.serviceInstance.trans ServiceInstance.Fixed.trans h₂.serviceInstance
  serviceBinding := h₁.serviceBinding.trans ServiceBinding.Fixed.trans h₂.serviceBinding

end Cluster.Fixes

/-! ## One pass -/

namespace Flow

variable {t p : Kind} (F : Flow t p) {c : Cluster} (hc : c.Sound) (time key : String)
include hc

/-- To see what a pass keeps of what is provisioned, it is enough to look at what may be pushed
down. -/
theorem keeps_provisioned {Same : Object p → Object p → Prop}
    (h : ∀ s s', s.SameButVersion s' → s'.status = s.status →
      (s'.spec = s.spec ∨ ∃ wanted, s'.spec = F.refresh wanted s.spec) → Same s s') :
    c.Keeps ((F.pass time key).run Cluster.serve c).2 Same := by
  intro place s hs
  obtain ⟨s', hs', hmetadata, hstatus, hspec⟩ := F.run_pass_provisioned hc time key hs
  exact ⟨s', hs', h s s' hmetadata hstatus hspec⟩

/-- To see what it keeps of a request, it is enough to look at what templates may add. -/
theorem keeps_templated {Same : Object t → Object t → Prop}
    (h : ∀ o o', o.SameButVersion o' →
      (o'.spec = o.spec ∨ ((F.resolve o).run Cluster.serve c).1 = .ok o'.spec) → Same o o') :
    c.Keeps ((F.pass time key).run Cluster.serve c).2 Same := by
  intro place o ho
  obtain ⟨o', ho', hmetadata, hspec⟩ := F.run_pass_templated hc time key ho
  exact ⟨o', ho', h o o' hmetadata hspec⟩

theorem keeps_other {k : Kind} {Same : Object k → Object k → Prop} (hrefl : ∀ o, Same o o)
    (ht : k ≠ t) (hp : k ≠ p) : c.Keeps ((F.pass time key).run Cluster.serve c).2 Same :=
  .of_alike hrefl (F.run_pass_other hc time key ht hp)

end Flow

section Pass

variable {c : Cluster}

/-- What a template leaves as it is. -/
theorem instanceFlow_resolve_keeps {plans : PlanResolver} {inst : TemplatedInstance}
    {spec : TemplatedInstanceSpec}
    (h : (((instanceFlow plans).resolve inst).run Cluster.serve c).1 = .ok spec) :
    spec.serviceType = TemplatedInstanceSpec.serviceType inst.spec ∧
      spec.externalId = TemplatedInstanceSpec.externalId inst.spec ∧
      spec.updateRequests = TemplatedInstanceSpec.updateRequests inst.spec ∧
      (¬ (TemplatedInstanceSpec.plan inst.spec).isEmpty →
        spec.plan = TemplatedInstanceSpec.plan inst.spec) := by
  obtain ⟨template, merged, -, -, rfl⟩ := (resolve_eq_ok_iff plans).1 h
  refine ⟨rfl, rfl, rfl, ?_⟩
  intro hown
  rw [(inst.withTemplate_completes template merged).plan, PlanReference.orElse_eq, if_neg hown]

variable (hc : c.Sound)
include hc

/-- A pass for an instance changes of a request nothing but what its template may fill in, of a
service instance nothing but what is pushed down. It leaves bindings alone. -/
theorem instancePass_keeps (plans : PlanResolver) (time key : String) :
    c.PassKeeps (((instanceFlow plans).pass time key).run Cluster.serve c).2 where
  serviceInstance := by
    apply (instanceFlow plans).keeps_provisioned hc
    rintro s s' hmetadata hstatus (hspec | ⟨wanted, hspec⟩)
    · exact ⟨⟨hmetadata, by rw [hspec]⟩, by rw [hspec], by rw [hspec], hstatus⟩
    · exact ⟨⟨hmetadata, by rw [hspec]; rfl⟩, by rw [hspec]; rfl, by rw [hspec]; rfl, hstatus⟩
  serviceBinding :=
    (instanceFlow plans).keeps_other hc time key ServiceBinding.Kept.refl nofun nofun
  templatedInstance := by
    apply (instanceFlow plans).keeps_templated hc
    rintro o o' hmetadata (hspec | hresolve)
    · exact ⟨hmetadata, by rw [hspec], by rw [hspec], by rw [hspec], fun _ => by rw [hspec]⟩
    · obtain ⟨htype, hid, hcounter, hplan⟩ := instanceFlow_resolve_keeps hresolve
      exact ⟨hmetadata, htype, hid, hcounter, hplan⟩
  templatedBinding :=
    (instanceFlow plans).keeps_other hc time key TemplatedBinding.Kept.refl nofun nofun

/-- So does a pass for a binding, which leaves instances alone. -/
theorem bindingPass_keeps (time key : String) :
    c.PassKeeps ((bindingFlow.pass time key).run Cluster.serve c).2 where
  serviceInstance := bindingFlow.keeps_other hc time key ServiceInstance.Kept.refl nofun nofun
  serviceBinding := by
    apply bindingFlow.keeps_provisioned hc
    rintro s s' hmetadata hstatus (hspec | ⟨wanted, hspec⟩)
    · exact ⟨⟨hmetadata, by rw [hspec], by rw [hspec], by rw [hspec]⟩, hstatus⟩
    · exact ⟨⟨hmetadata, by rw [hspec]; rfl, by rw [hspec]; rfl, by rw [hspec]; rfl⟩, hstatus⟩
  templatedInstance := bindingFlow.keeps_other hc time key TemplatedInstance.Kept.refl nofun nofun
  templatedBinding := by
    apply bindingFlow.keeps_templated hc
    rintro o o' hmetadata (hspec | hresolve)
    · exact ⟨hmetadata, by rw [hspec], by rw [hspec], fun _ => by rw [hspec]⟩
    · obtain ⟨hinstance, hid, hsecret⟩ := bindingFlow_resolve_keeps hresolve
      refine ⟨hmetadata, hinstance, hid, fun hown => ?_⟩
      rw [hsecret, TemplatedBindingSpec.wantedSecret, if_neg hown]

end Pass

/-! ## What is pushed down -/

/-- What of a request is found again in its service instance after a pass; `before` is what was
provisioned when the pass started. -/
structure InstancePushed (before : Option ServiceInstance) (inst : TemplatedInstance)
    (s : ServiceInstance) : Prop where
  parameters : ServiceInstanceSpec.parameters s.spec = TemplatedInstanceSpec.parameters inst.spec
  updateRequests :
    ServiceInstanceSpec.updateRequests s.spec = TemplatedInstanceSpec.updateRequests inst.spec
  /-- A pass only writes a service instance whose parameters or counter change by it, so that
  every write shows. -/
  rewritten : before ≠ some s →
    ServiceInstanceSpec.parameterSources s.spec =
      TemplatedInstanceSpec.parameterSources inst.spec ∧
    ServiceInstanceSpec.plan s.spec = TemplatedInstanceSpec.plan inst.spec

/-- What of a request is found again in its service binding after a pass; `before` is what was
provisioned when the pass started. -/
structure BindingPushed (before : Option ServiceBinding) (binding : TemplatedBinding)
    (s : ServiceBinding) : Prop where
  parameters : ServiceBindingSpec.parameters s.spec = TemplatedBindingSpec.parameters binding.spec
  rewritten : before ≠ some s →
    ServiceBindingSpec.parameterSources s.spec = TemplatedBindingSpec.parameterSources binding.spec

section Pushed

variable {c : Cluster} {place : ObjectKey}

/-- A service instance that is in line with its request has what is pushed down, and has it from the
request if a pass wrote it. -/
theorem instancePushed_of_inLine {plans : PlanResolver} {before : Option ServiceInstance}
    {inst : TemplatedInstance} {s : ServiceInstance}
    (hinLine : (instanceFlow plans).InLine place c inst s)
    (hrewrites : (instanceFlow plans).Rewrites inst before s) : InstancePushed before inst s := by
  obtain ⟨hparameters, hcounter⟩ := Bool.and_eq_true_iff.1 hinLine.inSync
  refine ⟨(sameParameters_iff.1 hparameters).symm, (beq_iff_eq.1 hcounter).symm, fun hwritten => ?_⟩
  cases hrewrites with
  | untouched same => exact absurd same hwritten
  | pushed found spec => rw [spec]; exact ⟨rfl, rfl⟩
  | built vacant asked build spec =>
    rw [spec, (TemplatedInstance.provision_eq_ok build).2, asked]
    exact ⟨rfl, rfl⟩

/-- A service binding has its parameters from the request in the same way. -/
theorem bindingPushed_of_inLine {before : Option ServiceBinding} {binding : TemplatedBinding}
    {s : ServiceBinding} (hinLine : bindingFlow.InLine place c binding s)
    (hrewrites : bindingFlow.Rewrites binding before s) : BindingPushed before binding s := by
  refine ⟨(sameParameters_iff.1 hinLine.inSync).symm, fun hwritten => ?_⟩
  cases hrewrites with
  | untouched same => exact absurd same hwritten
  | pushed found spec => rw [spec]; rfl
  | built vacant asked build spec =>
    obtain rfl := Except.ok.inj build
    rw [spec, ← asked]
    rfl

end Pushed

/-! ## Whole histories -/

namespace Happening

variable {c start : Cluster}

/-- Whether an object that a pass returns is stored and has been pushed down. -/
def PushesDown (c : Cluster) : Happening → Prop
  | instancePass plans time key => ∀ inst,
      let passed := (synchronizeInstance plans time key).runOn c
      passed.result = .ok (some inst) → ∃ ns name s, wellFormedKey? key = some (ns, name) ∧
        passed.cluster.find? .templatedInstance ⟨ns, name⟩ = some inst ∧
        passed.cluster.find? .serviceInstance ⟨ns, name⟩ = some s ∧
        InstancePushed (c.find? .serviceInstance ⟨ns, name⟩) inst s
  | bindingPass time key => ∀ binding,
      let passed := (synchronizeBinding time key).runOn c
      passed.result = .ok (some binding) → ∃ ns name s, wellFormedKey? key = some (ns, name) ∧
        passed.cluster.find? .templatedBinding ⟨ns, name⟩ = some binding ∧
        passed.cluster.find? .serviceBinding ⟨ns, name⟩ = some s ∧
        BindingPushed (c.find? .serviceBinding ⟨ns, name⟩) binding s
  | _ => True

/-- A pass of either kind keeps what passes are to keep. -/
theorem passKeeps (hc : c.Sound) {e : Happening} (he : e.IsPass) : c.PassKeeps (e.after c) := by
  cases e with
  | instancePass plans time key =>
    rw [after_instancePass]
    exact instancePass_keeps hc plans time key
  | bindingPass time key =>
    rw [after_bindingPass]
    exact bindingPass_keeps hc time key
  | edit made users => exact he.elim
  | report made => exact he.elim

/-- Every successful pass pushes the request down. -/
theorem pushesDown (hc : c.Sound) (e : Happening) : e.PushesDown c := by
  cases e with
  | instancePass plans time key =>
    intro inst passed hresult
    have hrun : ((instanceFlow plans).pass time key).run Cluster.serve c =
        (.ok (some inst), passed.cluster) := by
      rw [← synchronizeInstance_eq, Pass.run_serve_eq]
      exact Prod.ext hresult rfl
    obtain ⟨ns, name, s, hkey, hinLine, hrewrites⟩ := (instanceFlow plans).pass_rewrites hc hrun
    exact ⟨ns, name, s, hkey, hinLine.templated, hinLine.provisioned,
      instancePushed_of_inLine hinLine hrewrites⟩
  | bindingPass time key =>
    intro binding passed hresult
    have hrun : (bindingFlow.pass time key).run Cluster.serve c =
        (.ok (some binding), passed.cluster) := by
      rw [← synchronizeBinding_eq, Pass.run_serve_eq]
      exact Prod.ext hresult rfl
    obtain ⟨ns, name, s, hkey, hinLine, hrewrites⟩ := bindingFlow.pass_rewrites hc hrun
    exact ⟨ns, name, s, hkey, hinLine.templated, hinLine.provisioned,
      bindingPushed_of_inLine hinLine hrewrites⟩
  | edit made users => trivial
  | report made => trivial

/-- Neither users nor the catalog change what is fixed of what is provisioned. -/
theorem fixes (hc : c.Sound) (e : Happening) : c.Fixes (e.after c) := by
  cases e with
  | instancePass plans time key => exact (passKeeps hc (e := .instancePass plans time key) ⟨⟩).fixes
  | bindingPass time key => exact (passKeeps hc (e := .bindingPass time key) ⟨⟩).fixes
  | edit made users =>
    obtain ⟨hinstance, hbinding⟩ := users.ne_provisioned
    exact {
      serviceInstance := .of_alike (fun s => (ServiceInstance.Kept.refl s).toFixed)
        (made.find?_of_ne hinstance)
      serviceBinding := .of_alike (fun s => (ServiceBinding.Kept.refl s).toFixed)
        (made.find?_of_ne hbinding) }
  | report made =>
    refine ⟨fun place s hs => ?_, fun place s hs => ?_⟩
    · rcases made.find?_serviceInstance hc place with
        hsame | ⟨s₁, status, classRef, planRef, hs₁, h⟩
      · exact ⟨s, hsame.trans hs, (ServiceInstance.Kept.refl s).toFixed⟩
      · obtain rfl := Option.some.inj (hs.symm.trans hs₁)
        exact ⟨_, h, .successor s _ status, rfl⟩
    · rcases made.find?_serviceBinding hc place with hsame | ⟨s₁, status, hs₁, h⟩
      · exact ⟨s, hsame.trans hs, (ServiceBinding.Kept.refl s).toFixed⟩
      · obtain rfl := Option.some.inj (hs.symm.trans hs₁)
        exact ⟨_, h, .successor s s.spec status, rfl, rfl, rfl⟩

/-- What is fixed stays so along a history. -/
theorem fixes_run (hc : c.Sound) (events : List Happening) : c.Fixes (run c events) := by
  have hfixes : ∀ past, past <+: events → c.Fixes (run c past) := by
    apply run_induction (Cluster.Fixes.refl c)
    intro past e _ h
    exact h.trans (fixes (sound_run hc past) e)
  exact hfixes events (List.prefix_refl events)

end Happening

open Happening in
/-- **What is fixed stays, and what is asked for is pushed down.** In every history of passes,
edits and reports, a pass keeps what it must not change, and when it returns an object then what
is provisioned follows that object. Neither passes nor edits nor reports ever change what is fixed
of a provisioned object, or take it away. -/
theorem keeps_and_pushes_along {start : Cluster} (hstart : start.Sound) (events : List Happening) :
    (∀ past e, past ++ [e] <+: events →
      (e.IsPass → (run start past).PassKeeps (e.after (run start past))) ∧
      e.PushesDown (run start past)) ∧
    ∀ past later, past ++ later <+: events →
      (run start past).Fixes (run start (past ++ later)) := by
  refine ⟨fun past e hpast => ⟨?_, ?_⟩, fun past later hpast => ?_⟩
  · exact passKeeps (sound_run hstart past)
  · exact pushesDown (sound_run hstart past) e
  · rw [run_append]
    exact fixes_run (sound_run hstart past) later

open Happening in
/-- A pass pushes down parameters that were edited after the service instance was created. -/
theorem keeps_and_pushes_along_edited :
    let asked (size : Nat) : TemplatedInstance :=
      { metadata := { name := some "db", ns := some "default" }
        spec := {
          plan := .ofClusterExternal "mysql" "small"
          parameters := some (.ofJson (.ofFields [("size", .ofNat size)])) } }
    let past : List Happening :=
      [.edit (.insert (asked 5)) (Or.inl rfl), .instancePass noPlans "noon" "default/db",
        .edit (.replace (asked 6)) (Or.inl rfl)]
    let last : Happening := .instancePass noPlans "one" "default/db"
    let before := run .empty past
    let provisioned (c : Cluster) := (c.find? .serviceInstance ⟨"default", "db"⟩).map fun s =>
      ServiceInstanceSpec.parameters s.spec
    (Cluster.empty.Sound ∧ before.PassKeeps (last.after before) ∧ last.PushesDown before) ∧
      provisioned before = some (some (.ofJson (.ofFields [("size", .ofNat 5)]))) ∧
      provisioned (last.after before) = some (some (.ofJson (.ofFields [("size", .ofNat 6)]))) := by
  intro asked past last before provisioned
  obtain ⟨hpasses, -⟩ := keeps_and_pushes_along Cluster.sound_empty (past ++ [last])
  obtain ⟨hkeeps, hpushes⟩ := hpasses past last (List.prefix_refl _)
  exact ⟨⟨Cluster.sound_empty, hkeeps ⟨⟩, hpushes⟩, by decide +kernel, by decide +kernel⟩

end ServiceTemplates
