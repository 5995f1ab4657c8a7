import ServiceTemplates.Proofs.Reconcile.Course
import ServiceTemplates.Proofs.Reconcile.Credentials

/-!
# The secret that is reported

The report on a binding names the secret that is asked for. The credentials go where the service
binding says, which got its secret when it was created and keeps it. So the report is right as
long as no pass finds a service binding whose request has been given another secret since. Main
statement: `secretReported_along_iff`.
-/

namespace ServiceTemplates

/-- Whether the secret that is asked for is the one that credentials are published to. -/
def SecretAgrees (binding : TemplatedBinding) (s : ServiceBinding) : Prop :=
  publishedName? (ServiceBindingSpec.secretName s.spec) =
    some (TemplatedBindingSpec.secretName binding.spec)

/-! ## One pass -/

section Pass

variable {c : Cluster} {time uid : String} {binding : TemplatedBinding} {s : ServiceBinding}

/-- What templates leave as it is, and the secret they settle. -/
theorem bindingFlow_resolve_keeps {spec : TemplatedBindingSpec}
    (h : ((bindingFlow.resolve binding).run Cluster.serve c).1 = .ok spec) :
    spec.instanceRef = TemplatedBindingSpec.instanceRef binding.spec ∧
      spec.externalId = TemplatedBindingSpec.externalId binding.spec ∧
      spec.secretName = TemplatedBindingSpec.wantedSecret binding.spec := by
  obtain ⟨template, -, applied, happlied, rfl⟩ := bindingFlow_resolve_eq_ok_iff.1 h
  obtain ⟨merged, -, rfl⟩ := TemplatedBinding.applyTemplate_eq_ok_iff.1 happlied
  refine ⟨rfl, rfl, ?_⟩
  simp [TemplatedBinding.withTemplate, TemplatedBindingSpec.wantedSecret]

theorem TemplatedBindingSpec.wantedSecret_ne {spec : TemplatedBindingSpec}
    (h : spec.instanceRef.name ≠ "") : spec.wantedSecret ≠ "" := by
  unfold wantedSecret
  split
  · exact h
  · next hown => exact hown

theorem pushed_secretName (binding : TemplatedBinding) (s : ServiceBinding) :
    ServiceBindingSpec.secretName (bindingFlow.pushed binding s).spec =
      ServiceBindingSpec.secretName s.spec := by
  unfold Flow.pushed
  split
  · rfl
  · rfl

/-- Neither a report nor what is pushed down touches the secret. -/
theorem secretAgrees_reported_iff (time : String) (binding : TemplatedBinding)
    (s : ServiceBinding) :
    SecretAgrees (bindingFlow.reported time binding (bindingFlow.pushed binding s))
      (bindingFlow.pushed binding s) ↔ SecretAgrees binding s := by
  unfold SecretAgrees
  rw [Flow.reported_spec, pushed_secretName]

/-- A service binding is created with the secret that is asked for. -/
theorem secretAgrees_of_provisioning
    (hname : (TemplatedBindingSpec.instanceRef binding.spec).name ≠ "")
    {o' : TemplatedBinding} {s' : ServiceBinding}
    (ho' : (bindingFlow.provisioning time uid binding
      ((bindingFlow.resolve binding).run Cluster.serve c).1).templated = some o')
    (hs' : (bindingFlow.provisioning time uid binding
      ((bindingFlow.resolve binding).run Cluster.serve c).1).provisioned = some s') :
    SecretAgrees o' s' := by
  cases hspec : ((bindingFlow.resolve binding).run Cluster.serve c).1 with
  | error e =>
    rw [hspec] at hs'
    cases hs'
  | ok spec =>
    have hbuild : bindingFlow.build (bindingFlow.stored binding spec) =
        .ok (TemplatedBinding.provision (bindingFlow.stored binding spec)) := rfl
    rw [hspec, Flow.provisioning_of_built hbuild] at ho' hs'
    obtain rfl := Option.some.inj ho'
    obtain rfl := Option.some.inj hs'
    have hsecret : TemplatedBindingSpec.secretName (bindingFlow.stored binding spec).spec =
        TemplatedBindingSpec.wantedSecret binding.spec :=
      (bindingFlow_stored_secretKeys binding spec).2.trans (bindingFlow_resolve_keeps hspec).2.2
    unfold SecretAgrees
    rw [Flow.reported_spec]
    apply publishedName?_shadowName
    rw [hsecret]
    exact TemplatedBindingSpec.wantedSecret_ne hname

end Pass

/-- Whether a service binding that is under control of its request has not the secret that is
asked for by now. -/
structure Renamed (binding : TemplatedBinding) (s : ServiceBinding) : Prop where
  controlled : s.metadata.isControlledBy binding
  differs : ¬ SecretAgrees binding s

section Effect

variable {c : Cluster} {time uid : String} {o? : Option TemplatedBinding}
  {s? : Option ServiceBinding} {o' : TemplatedBinding} {s' : ServiceBinding}

/-- What a pass leaves of two objects under a key. -/
def bindingEffect (c : Cluster) (time uid : String) (o? : Option TemplatedBinding)
    (s? : Option ServiceBinding) : Flow.Effect .templatedBinding .serviceBinding :=
  bindingFlow.effect time uid (fun o => ((bindingFlow.resolve o).run Cluster.serve c).1) o? s?

/-- A pass that returns a binding leaves it in agreement just if it did not find it renamed. -/
theorem effect_secretAgrees_iff
    (hnames : ∀ o, o? = some o → (TemplatedBindingSpec.instanceRef o.spec).name ≠ "")
    (hresult : (bindingEffect c time uid o? s?).result = .ok (some o'))
    (ho' : (bindingEffect c time uid o? s?).templated = some o')
    (hs' : (bindingEffect c time uid o? s?).provisioned = some s') :
    SecretAgrees o' s' ↔ ¬ ∃ binding s, o? = some binding ∧ s? = some s ∧ Renamed binding s := by
  cases o? with
  | none => cases hresult
  | some binding =>
    cases s? with
    | none =>
      have hagrees := secretAgrees_of_provisioning (hnames binding rfl) ho' hs'
      exact iff_of_true hagrees (by simp)
    | some s =>
      have hfound : (∃ binding' s₁, some binding = some binding' ∧ some s = some s₁ ∧
          Renamed binding' s₁) ↔ Renamed binding s := by simp
      rw [hfound]
      by_cases hctl : s.metadata.isControlledBy binding
      · rw [bindingEffect, Flow.effect_of_controlled hctl] at ho' hs'
        obtain rfl := Option.some.inj ho'
        obtain rfl := Option.some.inj hs'
        rw [secretAgrees_reported_iff]
        exact ⟨fun hagrees hrenamed => hrenamed.differs hagrees,
          fun hno => by_contra fun hdiffers => hno ⟨hctl, hdiffers⟩⟩
      · rw [bindingEffect, Flow.effect_of_foreign hctl] at hresult
        cases hresult

/-- What agreed when a pass found it agrees when it leaves it. -/
theorem effect_secretAgrees
    (hnames : ∀ o, o? = some o → (TemplatedBindingSpec.instanceRef o.spec).name ≠ "")
    (hagree : ∀ o s, o? = some o → s? = some s → SecretAgrees o s)
    (ho' : (bindingEffect c time uid o? s?).templated = some o')
    (hs' : (bindingEffect c time uid o? s?).provisioned = some s') : SecretAgrees o' s' := by
  cases o? with
  | none => cases ho'
  | some binding =>
    cases s? with
    | none => exact secretAgrees_of_provisioning (hnames binding rfl) ho' hs'
    | some s =>
      have hfound := hagree binding s rfl rfl
      by_cases hctl : s.metadata.isControlledBy binding
      · rw [bindingEffect, Flow.effect_of_controlled hctl] at ho' hs'
        obtain rfl := Option.some.inj ho'
        obtain rfl := Option.some.inj hs'
        exact (secretAgrees_reported_iff time binding s).2 hfound
      · rw [bindingEffect, Flow.effect_of_foreign hctl] at ho' hs'
        obtain rfl := Option.some.inj ho'
        obtain rfl := Option.some.inj hs'
        exact hfound

end Effect

/-! ## One event -/

/-- Whether every request for credentials names the instance that it is for. -/
def Cluster.NamesInstances (c : Cluster) : Prop :=
  ∀ place (o : TemplatedBinding), c.find? .templatedBinding place = some o →
    (TemplatedBindingSpec.instanceRef o.spec).name ≠ ""

/-- Whether the secrets that are asked for are the ones that credentials are published to. -/
def Cluster.SecretsAgree (c : Cluster) : Prop :=
  ∀ place (o : TemplatedBinding) (s : ServiceBinding), c.find? .templatedBinding place = some o →
    c.find? .serviceBinding place = some s → SecretAgrees o s

/-- Whether the secret that is reported on a binding is the one that its credentials are published
to. -/
def ReportsSecret (place : ObjectKey) (c : Cluster) (binding : TemplatedBinding) : Prop :=
  ∃ status secret s, c.find? .serviceBinding place = some s ∧ binding.status = some status ∧
    TemplatedBindingStatus.secretName status = some secret ∧
    publishedName? (ServiceBindingSpec.secretName s.spec) = some secret

/-- The report on a binding names the secret that is asked for. -/
theorem Flow.InLine.reportsSecret_iff {place : ObjectKey} {c : Cluster}
    {binding : TemplatedBinding} {s : ServiceBinding} (h : bindingFlow.InLine place c binding s) :
    ReportsSecret place c binding ↔ SecretAgrees binding s := by
  have hreported := h.reported ""
  unfold Flow.reports at hreported
  split at hreported
  · next status hstatus =>
    simp only [decide_eq_true_eq] at hreported
    have hsecret : TemplatedBindingStatus.secretName status =
        some (TemplatedBindingSpec.secretName binding.spec) :=
      congrArg TemplatedBindingStatus.secretName hreported
    constructor
    · rintro ⟨status', secret, s', hs', hstatus', hsecret', hpublished⟩
      obtain rfl := Option.some.inj (h.provisioned.symm.trans hs')
      obtain rfl := Option.some.inj (hstatus.symm.trans hstatus')
      exact hpublished.trans (hsecret'.symm.trans hsecret)
    · intro hagrees
      exact ⟨status, _, s, h.provisioned, hstatus, hsecret, hagrees⟩
  · cases hreported

namespace Happening

variable {c : Cluster}

/-- Whether the requests for credentials that an event writes name their instances. -/
def NamesInstance : Happening → Prop
  | edit made _ => ∀ o : TemplatedBinding, made.Writes o →
      (TemplatedBindingSpec.instanceRef o.spec).name ≠ ""
  | _ => True

/-- Whether an event is a pass that finds a service binding under control of its request, but not
with the secret that is asked for. -/
def FindsRenamed (c : Cluster) : Happening → Prop
  | bindingPass _ key => ∃ ns name, wellFormedKey? key = some (ns, name) ∧
      ∃ binding s, c.find? .templatedBinding ⟨ns, name⟩ = some binding ∧
        c.find? .serviceBinding ⟨ns, name⟩ = some s ∧ Renamed binding s
  | _ => False

/-- Whether an event is an edit that leaves a request for which there is a service binding with
another secret than before. -/
def RenamesSecret (c : Cluster) : Happening → Prop
  | edit made _ => ∃ place s o, c.find? .serviceBinding place = some s ∧
      (made.apply c).find? .templatedBinding place = some o ∧
      (c.find? .templatedBinding place).map (fun o => TemplatedBindingSpec.secretName o.spec) ≠
        some (TemplatedBindingSpec.secretName o.spec)
  | _ => False

/-- Whether the secret that is reported on a binding that a pass returns is the one that its
credentials are published to. -/
def SecretReported (c : Cluster) : Happening → Prop
  | bindingPass time key => ∀ binding,
      ((synchronizeBinding time key).runOn c).result = .ok (some binding) →
      ∃ ns name, wellFormedKey? key = some (ns, name) ∧
        ReportsSecret ⟨ns, name⟩ ((synchronizeBinding time key).runOn c).cluster binding
  | _ => True

variable {time key ns name : String}

theorem findsRenamed_iff (hkey : wellFormedKey? key = some (ns, name)) :
    FindsRenamed c (bindingPass time key) ↔
      ∃ binding s, c.find? .templatedBinding ⟨ns, name⟩ = some binding ∧
        c.find? .serviceBinding ⟨ns, name⟩ = some s ∧ Renamed binding s := by
  constructor
  · rintro ⟨ns', name', hkey', hrenamed⟩
    obtain ⟨rfl, rfl⟩ := Prod.mk.inj (Option.some.inj (hkey.symm.trans hkey'))
    exact hrenamed
  · intro hrenamed
    exact ⟨ns, name, hkey, hrenamed⟩

/-- **A pass reports the right secret unless it finds it renamed.** -/
theorem secretReported_iff (hc : c.Sound) (hnames : c.NamesInstances) (e : Happening) :
    e.SecretReported c ↔ ¬ e.FindsRenamed c := by
  cases e with
  | instancePass plans time key => exact iff_of_true trivial id
  | edit made users => exact iff_of_true trivial id
  | report made => exact iff_of_true trivial id
  | bindingPass time key =>
    show (∀ binding, (Pass.runOn _ c).result = .ok (some binding) →
      ∃ ns name, wellFormedKey? key = some (ns, name) ∧
        ReportsSecret ⟨ns, name⟩ (Pass.runOn _ c).cluster binding) ↔ _
    rw [Pass.runOn_result, Pass.runOn_cluster, synchronizeBinding_eq]
    generalize hrun : (bindingFlow.pass time key).run Cluster.serve c = ran
    obtain ⟨result, left⟩ := ran
    -- A pass that returns a binding is right about it just if it did not find it renamed.
    have hreports {binding : TemplatedBinding} (h : result = .ok (some binding)) :
        (∃ ns name, wellFormedKey? key = some (ns, name) ∧ ReportsSecret ⟨ns, name⟩ left binding) ↔
          ¬ FindsRenamed c (bindingPass time key) := by
      subst h
      obtain ⟨ns, name, s', hkey, hinLine, -⟩ := bindingFlow.pass_rewrites hc hrun
      obtain ⟨uid, hhas⟩ := Flow.run_pass_has (F := bindingFlow) hc hkey time
      rw [hrun] at hhas
      have hagrees := effect_secretAgrees_iff (fun o => hnames ⟨ns, name⟩ o) hhas.result.symm
        (hhas.templated.symm.trans hinLine.templated)
        (hhas.provisioned.symm.trans hinLine.provisioned)
      rw [findsRenamed_iff hkey, ← hagrees, ← hinLine.reportsSecret_iff]
      constructor
      · rintro ⟨ns', name', hkey', hright⟩
        obtain ⟨rfl, rfl⟩ := Prod.mk.inj (Option.some.inj (hkey.symm.trans hkey'))
        exact hright
      · intro hright
        exact ⟨ns, name, hkey, hright⟩
    constructor
    · intro hright hrenamed
      -- A pass that finds it renamed does return a binding.
      obtain ⟨ns, name, hkey, binding, s, hbinding, hs, hfound⟩ := id hrenamed
      obtain ⟨uid, hhas⟩ := Flow.run_pass_has (F := bindingFlow) hc hkey time
      rw [hrun, hbinding, hs, Flow.effect_of_controlled hfound.controlled] at hhas
      have hresult := hhas.result
      exact (hreports hresult).1 (hright _ hresult) hrenamed
    · intro hno binding hresult
      exact (hreports hresult).2 hno

theorem after_namesInstances (hc : c.Sound) (h : c.NamesInstances) {e : Happening}
    (he : e.NamesInstance) : (e.after c).NamesInstances := by
  intro place o ho
  cases e with
  | instancePass plans time key =>
    have hother := (instanceFlow plans).run_pass_other hc time key (k := .templatedBinding)
      nofun nofun place
    rw [after_instancePass, hother] at ho
    exact h place o ho
  | bindingPass time key =>
    rw [after_bindingPass] at ho
    cases hfound : c.find? .templatedBinding place with
    | none =>
      rw [bindingFlow.run_pass_absent hc time key hfound] at ho
      cases ho
    | some found =>
      obtain ⟨o', ho', -, hspec⟩ := bindingFlow.run_pass_templated hc time key hfound
      obtain rfl := Option.some.inj (ho.symm.trans ho')
      have hname := h place found hfound
      rcases hspec with hspec | hresolve
      · rwa [hspec]
      · rwa [(bindingFlow_resolve_keeps hresolve).1]
  | edit made users =>
    rcases made.find?_cases ho with hbefore | ⟨written, hwrites, hspec⟩
    · exact h place o hbefore
    · rw [hspec]
      exact he written hwrites
  | report made =>
    rw [after, made.find?_of_asked (Or.inr (Or.inl rfl))] at ho
    exact h place o ho

theorem after_secretsAgree (hc : c.Sound) (hnames : c.NamesInstances) (h : c.SecretsAgree)
    {e : Happening} (hkeeps : ¬ e.RenamesSecret c) : (e.after c).SecretsAgree := by
  intro place o s ho hs
  cases e with
  | instancePass plans time key =>
    have hother := fun k ht hp => (instanceFlow plans).run_pass_other hc time key (k := k) ht hp
    rw [after_instancePass, hother .templatedBinding nofun nofun] at ho
    rw [after_instancePass, hother .serviceBinding nofun nofun] at hs
    exact h place o s ho hs
  | bindingPass time key =>
    rw [after_bindingPass] at ho hs
    rcases bindingFlow.run_pass_at hc time key place with ⟨ho', hs'⟩ | ⟨uid, ho', hs'⟩
    · exact h place o s (ho'.symm.trans ho) (hs'.symm.trans hs)
    · exact effect_secretAgrees (fun o => hnames place o) (fun o s => h place o s)
        (ho'.symm.trans ho) (hs'.symm.trans hs)
  | edit made users =>
    rw [after, made.find?_of_ne users.ne_provisioned.2] at hs
    have hsame : (c.find? .templatedBinding place).map
        (fun o => TemplatedBindingSpec.secretName o.spec) =
          some (TemplatedBindingSpec.secretName o.spec) := by
      by_contra hne
      exact hkeeps ⟨place, s, o, hs, ho, hne⟩
    obtain ⟨before, hbefore, hsecret⟩ := Option.map_eq_some_iff.1 hsame
    have hagrees := h place before s hbefore hs
    rwa [SecretAgrees, hsecret] at hagrees
  | report made =>
    rw [after, made.find?_of_asked (Or.inr (Or.inl rfl))] at ho
    rcases made.find?_serviceBinding hc place with hsame | ⟨before, status, hbefore, hafter⟩
    · exact h place o s ho (hsame.symm.trans hs)
    · obtain rfl := Option.some.inj (hs.symm.trans hafter)
      exact h place o before ho hbefore

end Happening

/-! ## Whole histories -/

open Happening in
/-- **Just as long as no request is found renamed.** In every history of passes, edits and
reports, the secret that is reported on a binding is the one that its credentials are published
to exactly if no pass finds a service binding under control of a request that asks for another
secret by now. This is so if no edit gives another secret to a request for which there is a
service binding. -/
theorem secretReported_along_iff {start : Cluster} (hstart : start.Sound)
    (hnames : start.NamesInstances) (events : List Happening)
    (hasked : ∀ e ∈ events, e.NamesInstance) :
    ((∀ past e, past ++ [e] <+: events → e.SecretReported (run start past)) ↔
      ∀ past e, past ++ [e] <+: events → ¬ e.FindsRenamed (run start past)) ∧
    (start.SecretsAgree →
      (∀ past e, past ++ [e] <+: events → ¬ e.RenamesSecret (run start past)) →
      ∀ past e, past ++ [e] <+: events → e.SecretReported (run start past)) := by
  have hbefore : ∀ {past e}, past ++ [e] <+: events → past <+: events := by
    intro past e hpast
    exact (List.prefix_append past [e]).trans hpast
  have hnamed : ∀ past, past <+: events → (run start past).NamesInstances := by
    refine run_induction hnames fun past e hpast h => ?_
    apply after_namesInstances (sound_run hstart past) h
    exact hasked e (hpast.subset (by simp))
  have hiff : ∀ past e, past ++ [e] <+: events →
      (e.SecretReported (run start past) ↔ ¬ e.FindsRenamed (run start past)) := by
    intro past e hpast
    exact secretReported_iff (sound_run hstart past) (hnamed past (hbefore hpast)) e
  refine ⟨⟨fun h past e hpast => ?_, fun h past e hpast => ?_⟩, fun hagree hkeeps => ?_⟩
  · exact (hiff past e hpast).1 (h past e hpast)
  · exact (hiff past e hpast).2 (h past e hpast)
  · -- Requests and service bindings stay in agreement, so that none is found renamed.
    have hagrees : ∀ past, past <+: events → (run start past).SecretsAgree := by
      refine run_induction hagree fun past e hpast h => ?_
      have hnamed' := hnamed past (hbefore hpast)
      exact after_secretsAgree (sound_run hstart past) hnamed' h (hkeeps past e hpast)
    intro past e hpast
    apply (hiff past e hpast).2
    intro hrenamed
    cases e with
    | bindingPass time key =>
      obtain ⟨ns, name, -, binding, s, hbinding, hs, hfound⟩ := hrenamed
      exact hfound.differs (hagrees past (hbefore hpast) _ binding s hbinding hs)
    | _ => exact hrenamed

open Happening in
/-- The first pass for a binding that asks for a secret reports that secret. -/
theorem secretReported_along_first :
    let inst : TemplatedInstance :=
      { metadata := { name := some "db", ns := some "default" }, spec := {} }
    let asked : TemplatedBinding :=
      { metadata := { name := some "creds", ns := some "default" }
        spec := { instanceRef := ⟨"db"⟩, secretName := "a" } }
    let past : List Happening :=
      [.edit (.insert inst) (Or.inl rfl), .edit (.insert asked) (Or.inr (Or.inl rfl))]
    let first : Happening := .bindingPass "noon" "default/creds"
    (Cluster.empty.Sound ∧ Cluster.empty.NamesInstances ∧ ∀ e ∈ past ++ [first], e.NamesInstance) ∧
      first.SecretReported (run .empty past) ∧
      ((synchronizeBinding "noon" "default/creds").runOn (run .empty past)).result.isOk := by
  intro inst asked past first
  have hnames : Cluster.empty.NamesInstances := fun _ _ h => nomatch h
  have hasked : ∀ e ∈ past ++ [first], e.NamesInstance := by
    intro e he
    simp only [past, List.cons_append, List.nil_append, List.mem_cons, List.not_mem_nil,
      or_false] at he
    rcases he with rfl | rfl | rfl
    · intro o hwrites
      cases hwrites
    · intro o hwrites
      cases hwrites
      decide
    · trivial
  have hrenamed : ∀ before e, before ++ [e] <+: past ++ [first] →
      ¬ e.FindsRenamed (run .empty before) := by
    intro before e hpast hfinds
    rcases List.prefix_concat_iff.1 hpast with hall | hearlier
    · obtain ⟨hsame, hlast⟩ := List.append_inj' hall rfl
      rw [hsame, List.singleton_inj.1 hlast] at hfinds
      obtain ⟨ns, name, hkey, binding, s, -, hs, -⟩ := hfinds
      have hkey' : wellFormedKey? "default/creds" = some ("default", "creds") := by decide
      obtain ⟨rfl, rfl⟩ := Prod.mk.inj (Option.some.inj (hkey'.symm.trans hkey))
      have hvacant : (run .empty past).find? .serviceBinding ⟨"default", "creds"⟩ = none := by
        decide +kernel
      rw [hvacant] at hs
      cases hs
    · have he : e ∈ past := hearlier.subset (List.mem_append_right before List.mem_cons_self)
      simp only [past, List.mem_cons, List.not_mem_nil, or_false] at he
      rcases he with rfl | rfl
      · exact hfinds
      · exact hfinds
  obtain ⟨hiff, -⟩ := secretReported_along_iff Cluster.sound_empty hnames (past ++ [first]) hasked
  refine ⟨⟨Cluster.sound_empty, hnames, hasked⟩, ?_, by decide +kernel⟩
  exact hiff.2 hrenamed past first (List.prefix_refl _)

open Happening in
/-- **The report can name a secret that nothing is published to.** After a binding has got its
secret, its request is given another secret; the next pass reports that one, whereas the
credentials stay where they were. -/
theorem secretReported_lost :
    let inst : TemplatedInstance :=
      { metadata := { name := some "db", ns := some "default" }, spec := {} }
    let asked (secret : String) : TemplatedBinding :=
      { metadata := { name := some "creds", ns := some "default" }
        spec := { instanceRef := ⟨"db"⟩, secretName := secret } }
    let past : List Happening :=
      [.edit (.insert inst) (Or.inl rfl), .edit (.insert (asked "a")) (Or.inr (Or.inl rfl)),
        .bindingPass "noon" "default/creds", .edit (.replace (asked "b")) (Or.inr (Or.inl rfl))]
    ¬ (bindingPass "one" "default/creds").SecretReported (run .empty past) := by
  intro inst asked past h
  let last := (synchronizeBinding "one" "default/creds").runOn (run .empty past)
  have hreported : last.result.toOption.join.bind (fun binding => binding.status.bind fun status =>
      TemplatedBindingStatus.secretName status) = some "b" := by decide +kernel
  have hpublished : (last.cluster.find? .serviceBinding ⟨"default", "creds"⟩).map
      (fun s => publishedName? (ServiceBindingSpec.secretName s.spec)) = some (some "a") := by
    decide +kernel
  cases hresult : last.result with
  | error e =>
    rw [hresult] at hreported
    cases hreported
  | ok result =>
    rw [hresult] at hreported
    obtain ⟨binding, rfl, hbinding⟩ := Option.bind_eq_some_iff.1 hreported
    obtain ⟨ns, name, hkey, status, secret, s, hs, hstatus, hsecret, hagrees⟩ := h binding hresult
    cases hkey
    rw [hstatus, Option.bind_some, hsecret] at hbinding
    cases hbinding
    have hs' : last.cluster.find? .serviceBinding ⟨"default", "creds"⟩ = some s := hs
    rw [hs', Option.map_some, hagrees] at hpublished
    exact absurd hpublished (by decide)

end ServiceTemplates
