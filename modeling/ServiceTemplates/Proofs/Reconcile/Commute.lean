import ServiceTemplates.Proofs.Reconcile.Credentials
import ServiceTemplates.Proofs.Reconcile.FirstPass
import ServiceTemplates.Proofs.Reconcile.View

/-!
# Passes on different objects

Two passes of the same queue for different keys, and any two of which just one is for a
templated instance, do not write to the same objects. They do read what the other one writes: a
binding the instance that it refers to, a secret what was published under its name. What counts
of it stays as it was, so that each pass sees the same before and after the other one. Main
statement: `QueueKind.passes_commute`.
-/

namespace ServiceTemplates

/-! ## What stays as it was -/

/-- A pass for an instance does not change the service types that are asked for. -/
theorem synchronizeInstance_serviceType {c : Cluster} (hc : c.Sound) (plans : PlanResolver)
    (time key : String) (place : ObjectKey) :
    let left := ((synchronizeInstance plans time key).runOn c).cluster
    (left.find? .templatedInstance place).map
        (fun inst => TemplatedInstanceSpec.serviceType inst.spec) =
      (c.find? .templatedInstance place).map
        fun inst => TemplatedInstanceSpec.serviceType inst.spec := by
  intro left
  have hleft : left = (((instanceFlow plans).pass time key).run Cluster.serve c).2 := by
    rw [← synchronizeInstance_eq]
    exact Pass.runOn_cluster _ c
  rw [hleft]
  rcases (instanceFlow plans).run_pass_at hc time key place with ⟨hsame, -⟩ | ⟨uid, heffect, -⟩
  · rw [hsame]
  · rw [heffect]
    cases hfound : c.find? .templatedInstance place with
    | none => rfl
    | some inst =>
      obtain ⟨inst', htemplated, -, hspec⟩ :=
        (instanceFlow plans).effect_templated time uid
          (fun o => (((instanceFlow plans).resolve o).run Cluster.serve c).1)
          inst (c.find? .serviceInstance place)
      rw [htemplated]
      refine congrArg some ?_
      rcases hspec with hspec | hresolve
      · exact congrArg TemplatedInstanceSpec.serviceType hspec
      · obtain ⟨template, merged, -, -, hspec⟩ := (resolve_eq_ok_iff plans).1 hresolve
        have htype : TemplatedInstanceSpec.serviceType
            (TemplatedInstance.withTemplate inst template merged).spec =
          TemplatedInstanceSpec.serviceType inst.spec := rfl
        exact (congrArg TemplatedInstanceSpec.serviceType hspec.symm).trans htype

/-! ## Published secrets -/

theorem Metadata.controllerName?_of_other {k k' : Kind} {m : Metadata} {o : Object k}
    (h : m.isControlledBy o) (hk : k' ≠ k) : m.controllerName? k' = none := by
  unfold Metadata.isControlledBy at h
  unfold Metadata.controllerName?
  cases hr : m.controller? with
  | none => rfl
  | some r =>
    simp only [hr, Bool.and_eq_true, beq_iff_eq] at h
    have hother : r.kind ≠ k'.name := fun heq => hk (Kind.name_injective (heq.symm.trans h.1.1))
    simp [Option.filter, hother]

/-- A published secret is not published in turn, as no service binding controls it. -/
theorem Cluster.managedBinding?_of_published {c : Cluster} {published provisioned : Secret}
    (h : published.metadata.isControlledBy provisioned) : c.managedBinding? published = none := by
  unfold Cluster.managedBinding?
  rw [Metadata.controllerName?_of_other h (by decide)]
  rfl

theorem publication?_of_published {c : Cluster} {place : ObjectKey} (provisioned : Secret)
    (h : ∀ secret, c.find? .secret place = some secret →
      secret.metadata.isControlledBy provisioned) : c.publication? place = none := by
  unfold Cluster.publication?
  cases hfound : c.find? .secret place with
  | none => rfl
  | some secret =>
    rw [Option.bind_eq_bind, Option.bind_some,
      Cluster.managedBinding?_of_published (h secret hfound)]
    rfl

/-- Publishing does not change whether what stands under the published name is to be published
in turn. -/
theorem publication?_of_copied {c left : Cluster} {place : ObjectKey} {uid : String}
    {provisioned : Secret} {binding : TemplatedBinding}
    (hleft : left.find? .secret place =
      Secret.copied uid provisioned binding (c.find? .secret place))
    (hchain : ∀ secret, left.managedBinding? secret = c.managedBinding? secret) :
    left.publication? place = c.publication? place := by
  by_cases hown : ∀ secret, c.find? .secret place = some secret →
      secret.metadata.isControlledBy provisioned
  · have hafter : left.publication? place = none := by
      refine publication?_of_published provisioned fun secret hsecret => ?_
      rcases Secret.copied_cases (hleft.symm.trans hsecret) with hpublishes | ⟨hfound, -⟩
      · exact hpublishes.controlled
      · exact hown secret hfound
    rw [publication?_of_published provisioned hown, hafter]
  · -- What another controller has under the name is left alone.
    push Not at hown
    obtain ⟨existing, hfound, hforeign⟩ := hown
    have hsame : left.find? .secret place = c.find? .secret place := by
      rw [hleft, hfound]
      exact if_neg hforeign
    exact Cluster.publication?_congr hsame fun secret _ => hchain secret

/-- What a pass for a secret writes does not change what is to be published under any key. -/
theorem synchronizeSecret_publication {c : Cluster} (hc : c.Sound) (key : String)
    (place : ObjectKey) :
    ((synchronizeSecret key).runOn c).cluster.publication? place = c.publication? place := by
  have hframe : ∀ (k : Kind) (place : ObjectKey), (k, place) ∉ QueueKind.secret.targets key →
      ((synchronizeSecret key).runOn c).cluster.find? k place = c.find? k place :=
    fun k place => QueueKind.pass_frame hc .secret noPlans ""
  set left := ((synchronizeSecret key).runOn c).cluster with hleft
  have hkind : ∀ k : Kind, k ≠ .secret → ∀ place, left.find? k place = c.find? k place := by
    intro k hk place
    refine hframe k place fun hmem => ?_
    obtain ⟨name, -, rfl | rfl, -⟩ := QueueKind.mem_targets hmem
    · exact hk rfl
    · exact hk rfl
  have hchain : ∀ secret, left.managedBinding? secret = c.managedBinding? secret := fun secret =>
    Cluster.managedBinding?_congr (fun name => hkind _ (by decide) _)
      fun name => hkind _ (by decide) _
  by_cases htarget : (.secret, place) ∈ QueueKind.secret.targets key
  · obtain ⟨name, hkey, -, hpublished⟩ := QueueKind.mem_targets htarget
    obtain ⟨uid, c', hrun, hwritten, -⟩ := run_synchronizeSecret_eq hc hkey hpublished
    have hleaves : left.find? .secret place =
        Secret.leaves uid (c.publication? ⟨place.ns, name⟩) (c.find? .secret place) := by
      rw [hleft, Pass.runOn_cluster, hrun]
      exact hwritten
    cases hsubject : c.publication? ⟨place.ns, name⟩ with
    | none =>
      rw [hsubject] at hleaves
      exact Cluster.publication?_congr hleaves fun secret _ => hchain secret
    | some subject =>
      rw [hsubject] at hleaves
      exact publication?_of_copied hleaves hchain
  · exact Cluster.publication?_congr (hframe _ place htarget) fun secret _ => hchain secret

/-! ## Whose passes do not meet -/

namespace QueueKind

/-- Whether two passes are of one queue and for different keys, or just one of them is for a
templated instance. -/
def Apart (q₁ : QueueKind) (key₁ : String) (q₂ : QueueKind) (key₂ : String) : Prop :=
  if q₁ = q₂ then key₁ ≠ key₂ else q₁ = .templatedInstance ∨ q₂ = .templatedInstance

variable {q q₁ q₂ : QueueKind} {key₁ key₂ : String} {c : Cluster}

theorem Apart.symm (h : Apart q₁ key₁ q₂ key₂) : Apart q₂ key₂ q₁ key₁ := by
  unfold Apart at h ⊢
  by_cases hq : q₁ = q₂
  · rw [if_pos hq] at h
    rw [if_pos hq.symm]
    exact h.symm
  · rw [if_neg hq] at h
    rw [if_neg (Ne.symm hq)]
    exact h.symm

theorem templatedInstance_iff {k : Kind} (h : k = q.kind ∨ k = q.owned) :
    q = .templatedInstance ↔ k = .templatedInstance ∨ k = .serviceInstance := by
  rcases h with rfl | rfl <;> cases q <;> decide

/-- What one pass may write to, the other one may not. -/
theorem Apart.not_mem_targets (h : Apart q₁ key₁ q₂ key₂) {k : Kind} {place : ObjectKey}
    (h₁ : (k, place) ∈ q₁.targets key₁) : (k, place) ∉ q₂.targets key₂ := by
  intro h₂
  obtain ⟨name₁, hkey₁, hk₁, hname₁⟩ := mem_targets h₁
  obtain ⟨name₂, hkey₂, hk₂, hname₂⟩ := mem_targets h₂
  unfold Apart at h
  by_cases hq : q₁ = q₂
  · subst hq
    have hname : name₁ = name₂ := by
      by_cases hsecret : q₁ = .secret
      · rw [if_pos hsecret] at hname₁ hname₂
        rw [eq_shadowName_of_publishedName? hname₁, eq_shadowName_of_publishedName? hname₂]
      · rw [if_neg hsecret] at hname₁ hname₂
        exact hname₁.symm.trans hname₂
    rw [if_pos rfl] at h
    obtain ⟨hread₁, -⟩ := splitKey_eq_ok_iff.1 (wellFormedKey?_eq_some_iff.1 hkey₁)
    obtain ⟨hread₂, -⟩ := splitKey_eq_ok_iff.1 (wellFormedKey?_eq_some_iff.1 hkey₂)
    exact h (by rw [hread₁, hread₂, hname])
  · rw [if_neg hq] at h
    have hboth : q₁ = .templatedInstance ↔ q₂ = .templatedInstance :=
      (templatedInstance_iff hk₁).trans (templatedInstance_iff hk₂).symm
    rcases h with h | h
    · exact hq (h.trans (hboth.1 h).symm)
    · exact hq ((hboth.2 h).trans h.symm)

/-! ## Passes one after the other -/

/-- A pass changes nothing of a kind that it does not bring in line. -/
theorem pass_frame_kind (hc : c.Sound) (q : QueueKind) (plans : PlanResolver) (time key : String)
    {k : Kind} (hk : k ≠ q.kind) (hk' : k ≠ q.owned) (place : ObjectKey) :
    ((q.pass plans time key).runOn c).cluster.find? k place = c.find? k place := by
  refine pass_frame hc q plans time fun hmem => ?_
  obtain ⟨name, -, h | h, -⟩ := mem_targets hmem
  · exact hk h
  · exact hk' h

/-- Templates are listed after a pass as before it. -/
theorem matching_pass (hc : c.Sound) (q : QueueKind) (plans : PlanResolver) (time key : String)
    {k : Kind} (hk : k.IsTemplate) (ns : Option String) (serviceType : String) :
    ((q.pass plans time key).runOn c).cluster.matching k ns serviceType =
      c.matching k ns serviceType := by
  refine Cluster.matching_congr fun place o _ => ?_
  rw [pass_frame hc q plans time fun hmem => not_template_of_mem_targets hmem hk]

/-- **What a pass does not see of another one.** After a pass on another object a cluster looks
to a pass as it did before. -/
theorem Apart.alike (h : Apart q₁ key₁ q₂ key₂) (hc : c.Sound) (plans : PlanResolver)
    (time : String) : q₂.Alike plans key₂ c ((q₁.pass plans time key₁).runOn c).cluster := by
  intro ns name hkey
  have htarget : ∀ {k place}, (k, place) ∈ q₂.targets key₂ →
      ((q₁.pass plans time key₁).runOn c).cluster.find? k place = c.find? k place :=
    fun hmem => pass_frame hc q₁ plans time (h.symm.not_mem_targets hmem)
  have hmatching := fun (k : Kind) (hk : k.IsTemplate) => matching_pass hc q₁ plans time key₁ hk
  cases q₂ with
  | templatedInstance =>
    rw [targets_of_wellFormed hkey (by decide)] at htarget
    refine ⟨htarget (by simp), htarget (by simp [owned]), fun inst _ => ?_⟩
    refine resolveInstance_congr rfl ?_ ?_ ?_ <;> exact hmatching _ (by rfl) _ _
  | templatedBinding =>
    rw [targets_of_wellFormed hkey (by decide)] at htarget
    refine ⟨htarget (by simp), htarget (by simp [owned]), fun binding _ => ?_⟩
    refine resolveBinding_congr ?_ fun inst _ => ?_
    swap
    · refine ⟨?_, ?_, ?_⟩ <;> exact hmatching _ (by rfl) _ _
    by_cases hq : q₁ = .templatedInstance
    · subst hq
      exact synchronizeInstance_serviceType hc plans time key₁ _
    · refine congrArg _ (pass_frame_kind hc q₁ plans time key₁ ?_ ?_ _)
      · exact fun hk => hq ((templatedInstance_iff (Or.inl hk)).2 (Or.inl rfl))
      · exact fun hk => hq ((templatedInstance_iff (Or.inr hk)).2 (Or.inl rfl))
  | secret =>
    rw [targets_secret hkey] at htarget
    refine fun published hpublished => ⟨?_, htarget (by simp [hpublished])⟩
    cases q₁ with
    | templatedInstance =>
      have hkind := fun k hk hk' =>
        pass_frame_kind hc .templatedInstance plans time key₁ (k := k) hk hk'
      refine Cluster.publication?_congr (hkind _ (by decide) (by decide) _) fun secret _ => ?_
      exact Cluster.managedBinding?_congr (fun _ => hkind _ (by decide) (by decide) _)
        fun _ => hkind _ (by decide) (by decide) _
    | templatedBinding => simp [Apart] at h
    | secret => exact synchronizeSecret_publication hc key₁ _

/-- **Passes on different objects commute.** In either order each of two passes ends alike, with
the same warnings, and both leave the same behind, up to dates and to the identities that they
give out. -/
theorem passes_commute (hc : c.Sound) (h : Apart q₁ key₁ q₂ key₂) (plans : PlanResolver)
    (time₁ time₂ time₁' time₂' : String) :
    let first := (q₁.pass plans time₁ key₁).runOn c
    let second := (q₂.pass plans time₂ key₂).runOn first.cluster
    let second' := (q₂.pass plans time₂' key₂).runOn c
    let first' := (q₁.pass plans time₁' key₁).runOn second'.cluster
    first'.endingSince c = first.endingSince c ∧ second.endingSince c = second'.endingSince c ∧
      Note.warnings first'.notes = Note.warnings first.notes ∧
      Note.warnings second.notes = Note.warnings second'.notes ∧
      ∀ k place, c.since first'.cluster k place = c.since second.cluster k place := by
  intro first second second' first'
  have hfirst : first.cluster.Sound := hc.runOn _
  have hsecond' : second'.cluster.Sound := hc.runOn _
  have hechoes₁ : Echoes c (q₁.targets key₁) first first' :=
    pass_echoes hc hsecond' (h.symm.alike hc plans time₂') time₁ time₁'
  have hechoes₂ : Echoes c (q₂.targets key₂) second' second :=
    pass_echoes hc hfirst (h.alike hc plans time₁) time₂' time₂
  refine ⟨hechoes₁.ending, hechoes₂.ending, hechoes₁.warnings, hechoes₂.warnings,
    fun k place => ?_⟩
  by_cases h₁ : (k, place) ∈ q₁.targets key₁
  · have hkeeps : second.cluster.find? k place = first.cluster.find? k place :=
      pass_frame hfirst q₂ plans time₂ (h.not_mem_targets h₁)
    rw [hechoes₁.left k place h₁, Cluster.since, Cluster.since, hkeeps]
  · have hkeeps : first'.cluster.find? k place = second'.cluster.find? k place :=
      pass_frame hsecond' q₁ plans time₁' h₁
    by_cases h₂ : (k, place) ∈ q₂.targets key₂
    · rw [hechoes₂.left k place h₂, Cluster.since, Cluster.since, hkeeps]
    · have hleaves : second.cluster.find? k place = second'.cluster.find? k place := by
        show ((q₂.pass plans time₂ key₂).runOn first.cluster).cluster.find? k place =
          ((q₂.pass plans time₂' key₂).runOn c).cluster.find? k place
        rw [pass_frame hfirst q₂ plans time₂ h₂, pass_frame hc q₂ plans time₂' h₂]
        exact pass_frame hc q₁ plans time₁ h₁
      rw [Cluster.since, Cluster.since, hkeeps, hleaves]

/-- The second key is the published name of the first one: what the first pass creates is the very
secret that the second one is for. -/
theorem passes_commute_shadows :
    let binding : TemplatedBinding :=
      { metadata := { name := some "creds", ns := some "shop", uid := some "u-1" }
        spec := { instanceRef := ⟨"db"⟩ } }
    let provisioned : ServiceBinding :=
      { metadata := {
          name := some "creds", ns := some "shop", uid := some "u-2",
          ownerReferences := some [binding.controllerReference] }
        spec := { instanceRef := ⟨"db"⟩ } }
    let secret : Secret :=
      { metadata := {
          name := some "x-shadow-shadow", ns := some "shop", uid := some "u-3",
          ownerReferences := some [provisioned.controllerReference] }
        spec := { data := some (.ofList [("pass", [3])]) } }
    let c := (((Cluster.empty.insert binding).2.insert provisioned).2.insert secret).2
    let first := (synchronizeSecret "shop/x-shadow-shadow").runOn c
    let second := (synchronizeSecret "shop/x-shadow").runOn first.cluster
    let second' := (synchronizeSecret "shop/x-shadow").runOn c
    let first' := (synchronizeSecret "shop/x-shadow-shadow").runOn second'.cluster
    c.Sound ∧ Apart .secret "shop/x-shadow-shadow" .secret "shop/x-shadow" ∧
      c.find? .secret ⟨"shop", "x-shadow"⟩ = none ∧
      (first.cluster.find? .secret ⟨"shop", "x-shadow"⟩).isSome ∧
      first'.endingSince c = first.endingSince c ∧ second.endingSince c = second'.endingSince c ∧
      ∀ k place, c.since first'.cluster k place = c.since second.cluster k place := by
  intro binding provisioned secret c first second second' first'
  have hsound : c.Sound :=
    ((Cluster.sound_empty.insert binding).insert provisioned).insert secret
  have hapart : Apart .secret "shop/x-shadow-shadow" .secret "shop/x-shadow" := by
    rw [Apart, if_pos rfl]
    decide
  obtain ⟨hfirst, hsecond, -, -, hleft⟩ := passes_commute hsound hapart noPlans "" "" "" ""
  exact ⟨hsound, hapart, by decide +kernel, by decide +kernel, hfirst, hsecond, hleft⟩

end QueueKind

end ServiceTemplates
