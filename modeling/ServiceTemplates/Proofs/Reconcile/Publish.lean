import ServiceTemplates.Proofs.Reconcile.Flow
import ServiceTemplates.Reconcile.Requeue

/-!
# The steps of publishing

The pass for a secret in three parts: the catalog secret is looked up, the templated
binding behind it is found, and the published secret is created or refreshed. What was
published once is up to date. Main statements: `synchronizeSecret_of_wellFormed` and
`Secret.Publishes.follow_eq`.
-/

namespace ServiceTemplates

/-- The name that is published is not the name of the catalog secret. -/
theorem publishedName?_ne {name published : String} (h : publishedName? name = some published) :
    published ≠ name := by
  rintro rfl
  unfold publishedName? at h
  dsimp only at h
  split at h
  · next hif =>
    have hkept := congrArg String.toList (Option.some.inj h)
    have hlength := congrArg List.length hkept
    simp only [Bool.and_eq_true, Bool.not_eq_true', List.isEmpty_eq_false_iff, ne_eq] at hif
    have hpos := List.length_pos_iff.2 hif.2
    simp [shadowEnding] at hlength hpos
    omega
  · cases h

namespace Secret

/-- What is done about the published secret, once the templated binding is found. -/
def follow (provisioned : Secret) (binding : TemplatedBinding) : Option Secret → Pass (Option Secret)
  | none =>
    match Secret.publish? provisioned binding with
    | none => pure none
    | some copy => do
      let created ← Pass.create copy
      Pass.count (.writes .secret .create)
      return some created
  | some existing =>
    if existing.metadata.isControlledBy provisioned then
      match Secret.refresh? existing provisioned binding with
      | none => pure (some existing)
      | some refreshed => do
        let updated ← Pass.update refreshed
        Pass.count (.writes .secret .update)
        return some updated
    else pure (some existing)

def publishFor (ns published : String) (provisioned : Secret) :
    Option TemplatedBinding → Pass (Option Secret)
  | none => pure none
  | some binding => Pass.cached .secret (some ns) published >>= follow provisioned binding

def visit (ns published : String) : Option Secret → Pass (Option Secret)
  | none => pure none
  | some provisioned => managedBinding provisioned >>= publishFor ns published provisioned

end Secret

/-- The pass for a secret that has a published name. -/
theorem synchronizeSecret_of_wellFormed {key ns name published : String}
    (hkey : wellFormedKey? key = some (ns, name))
    (hpublished : publishedName? name = some published) :
    synchronizeSecret key = Pass.cached .secret (some ns) name >>= Secret.visit ns published := by
  unfold synchronizeSecret
  simp only [hkey, hpublished]
  refine congrArg (Pass.cached .secret (some ns) name >>= ·) (funext fun found => ?_)
  cases found with
  | none => rfl
  | some provisioned =>
    refine congrArg (managedBinding provisioned >>= ·) (funext fun found => ?_)
    cases found with
    | none => rfl
    | some binding =>
      refine congrArg (Pass.cached .secret (some ns) published >>= ·) (funext fun found => ?_)
      cases found <;> rfl

theorem synchronizeSecret_of_malformed {key : String} (h : wellFormedKey? key = none) :
    synchronizeSecret key = pure none := by
  unfold synchronizeSecret
  rw [h]

theorem synchronizeSecret_of_unpublished {key ns name : String}
    (hkey : wellFormedKey? key = some (ns, name)) (h : publishedName? name = none) :
    synchronizeSecret key = pure none := by
  unfold synchronizeSecret
  simp only [hkey, h]

/-- There is nothing to do, or the key names a secret that is to be published. -/
theorem synchronizeSecret_cases (key : String) :
    synchronizeSecret key = pure none ∨
    ∃ ns name published, wellFormedKey? key = some (ns, name) ∧
      publishedName? name = some published := by
  cases hkey : wellFormedKey? key with
  | none => exact Or.inl (synchronizeSecret_of_malformed hkey)
  | some place =>
    obtain ⟨ns, name⟩ := place
    cases hpublished : publishedName? name with
    | none => exact Or.inl (synchronizeSecret_of_unpublished hkey hpublished)
    | some published => exact Or.inr ⟨ns, name, published, rfl, hpublished⟩

/-! ## What was published is up to date -/

namespace Secret

variable {provisioned existing copy refreshed : Secret} {binding : TemplatedBinding}

/-- What is published, field by field. -/
theorem publish?_eq_some (h : Secret.publish? provisioned binding = some copy) :
    ∃ name published, provisioned.metadata.name = some name ∧ publishedName? name = some published ∧
      copy = {
        metadata := {
          name := some published
          ns := provisioned.metadata.ns
          labels := binding.metadata.labels
          ownerReferences := some [provisioned.controllerReference] }
        spec := {
          data := some (provisioned.publishedData binding)
          type := SecretContents.type provisioned.spec } } := by
  unfold Secret.publish? at h
  obtain ⟨name, hname, h⟩ := Option.bind_eq_some_iff.1 h
  obtain ⟨published, hpublished, h⟩ := Option.bind_eq_some_iff.1 h
  exact ⟨name, published, hname, hpublished, (Option.some.inj h).symm⟩

/-- Every secret with the right ending has a copy. -/
theorem publish?_isSome {name published : String} (hname : provisioned.metadata.name = some name)
    (hpublished : publishedName? name = some published) (binding : TemplatedBinding) :
    ∃ copy, Secret.publish? provisioned binding = some copy := by
  unfold Secret.publish?
  rw [hname, Option.bind_eq_bind, Option.bind_some, hpublished]
  exact ⟨_, rfl⟩

/-- What is published stands beside the catalog secret, under the published name. -/
theorem place_of_publish? (h : Secret.publish? provisioned binding = some copy)
    {ns name published : String} (hplace : provisioned.place = ⟨ns, name⟩) (hname : name ≠ "")
    (hpublished : publishedName? name = some published) : copy.place = ⟨ns, published⟩ := by
  obtain ⟨name', published', hname', hpublished', rfl⟩ := publish?_eq_some h
  obtain rfl : name' = name :=
    Option.some.inj (hname'.symm.trans (Object.name_of_place hplace hname))
  obtain rfl : published' = published := Option.some.inj (hpublished'.symm.trans hpublished)
  exact congrArg (ObjectKey.mk · published') (congrArg ObjectKey.ns hplace)

/-- A refreshed copy keeps its metadata. -/
theorem refresh?_eq_some (h : Secret.refresh? existing provisioned binding = some refreshed) :
    ∃ contents : SecretContents, refreshed = { existing with spec := contents } ∧
      contents.data = some (provisioned.publishedData binding) ∧
      contents.type = SecretContents.type provisioned.spec := by
  unfold Secret.refresh? at h
  dsimp only at h
  split at h
  · cases h
  · exact ⟨_, (Option.some.inj h).symm, rfl, rfl⟩

/-- A copy is left alone exactly if data and type are up to date. -/
theorem refresh?_eq_none_iff : Secret.refresh? existing provisioned binding = none ↔
    (SecretContents.data existing.spec).getD ∅ = provisioned.publishedData binding ∧
      SecretContents.type existing.spec = SecretContents.type provisioned.spec := by
  unfold Secret.refresh?
  dsimp only
  split
  · next h => exact iff_of_true rfl h
  · next h => exact iff_of_false nofun h

/-- Whether a secret holds the credentials of another one as a binding asks for them. -/
structure Publishes (provisioned : Secret) (binding : TemplatedBinding) (copy : Secret) : Prop where
  controlled : copy.metadata.isControlledBy provisioned
  data : (SecretContents.data copy.spec).getD ∅ = provisioned.publishedData binding
  type : SecretContents.type copy.spec = SecretContents.type provisioned.spec

/-- What is published already is not written again. -/
theorem Publishes.follow_eq (h : Publishes provisioned binding copy) :
    follow provisioned binding (some copy) = pure (some copy) := by
  simp only [follow]
  rw [if_pos h.controlled, refresh?_eq_none_iff.2 ⟨h.data, h.type⟩]

/-- A new copy publishes its secret. -/
theorem publishes_created (h : Secret.publish? provisioned binding = some copy)
    (uid version : String) : Publishes provisioned binding (Store.stamp copy uid version) := by
  obtain ⟨name, published, hname, -, rfl⟩ := publish?_eq_some h
  exact ⟨Object.controls_provisioned hname rfl, rfl, rfl⟩

/-- So does a refreshed one. -/
theorem publishes_updated (hctl : existing.metadata.isControlledBy provisioned)
    (h : Secret.refresh? existing provisioned binding = some refreshed) :
    Publishes provisioned binding (Store.successor existing refreshed) := by
  obtain ⟨contents, rfl, hdata, htype⟩ := refresh?_eq_some h
  exact ⟨hctl, congrArg (·.getD ∅) hdata, htype⟩

/-- What stands under the published name once credentials are published. -/
def copied (uid : String) (provisioned : Secret) (binding : TemplatedBinding) :
    Option Secret → Option Secret
  | none => (Secret.publish? provisioned binding).map fun copy => Store.stamp copy uid "1"
  | some existing =>
    if existing.metadata.isControlledBy provisioned then
      match Secret.refresh? existing provisioned binding with
      | none => some existing
      | some refreshed => some (Store.successor existing refreshed)
    else some existing

/-- Credentials stand under the published name then, or what another controller has there. -/
theorem copied_cases {uid : String} {found : Option Secret}
    (h : copied uid provisioned binding found = some copy) :
    Publishes provisioned binding copy ∨
      found = some copy ∧ ¬ copy.metadata.isControlledBy provisioned := by
  cases found with
  | none =>
    obtain ⟨created, hcreated, rfl⟩ := Option.map_eq_some_iff.1 h
    exact Or.inl (publishes_created hcreated uid "1")
  | some existing =>
    by_cases hctl : existing.metadata.isControlledBy provisioned
    · left
      simp only [copied, if_pos hctl] at h
      cases hrefresh : Secret.refresh? existing provisioned binding with
      | none =>
        obtain ⟨hdata, htype⟩ := refresh?_eq_none_iff.1 hrefresh
        obtain rfl : existing = copy := by simpa [hrefresh] using h
        exact ⟨hctl, hdata, htype⟩
      | some refreshed =>
        obtain rfl : Store.successor existing refreshed = copy := by simpa [hrefresh] using h
        exact publishes_updated hctl hrefresh
    · obtain rfl : existing = copy := by simpa [copied, hctl] using h
      exact Or.inr ⟨rfl, hctl⟩

/-- Whatever stands under the published name, publishing ends with what is to stand there, and
writes nothing else. -/
theorem run_follow_copied {c : Cluster} {ns name published : String} (hc : c.Sound)
    (hprovisioned : c.find? .secret ⟨ns, name⟩ = some provisioned) (hname : name ≠ "")
    (hpublished : publishedName? name = some published) (binding : TemplatedBinding) :
    ∃ uid copy c', copied uid provisioned binding (c.find? .secret ⟨ns, published⟩) = some copy ∧
      (follow provisioned binding (c.find? .secret ⟨ns, published⟩)).run Cluster.serve c =
        (.ok (some copy), c') ∧ copy.place = ⟨ns, published⟩ ∧
      ((c' = c ∧ c.find? .secret ⟨ns, published⟩ = some copy) ∨ c.Puts copy c') := by
  have hplace := hc.place hprovisioned
  cases hfound : c.find? .secret ⟨ns, published⟩ with
  | none =>
    obtain ⟨copy, hcopy⟩ :=
      publish?_isSome (Object.name_of_place hplace hname) hpublished binding
    have hcopied := place_of_publish? hcopy hplace hname hpublished
    obtain ⟨c', hcreate, hputs⟩ := c.create_of_none (hcopied ▸ hfound)
    refine ⟨c.nextUid, Store.stamp copy c.nextUid "1", c', ?_, ?_, hcopied, Or.inr hputs⟩
    · simp only [copied, hcopy, Option.map_some]
    · simp only [follow, hcopy]
      rw [Pass.run_create_bind c hcreate]
      rfl
  | some existing =>
    by_cases hctl : existing.metadata.isControlledBy provisioned
    · simp only [follow, copied, if_pos hctl]
      cases hrefresh : Secret.refresh? existing provisioned binding with
      | none => exact ⟨"", existing, c, rfl, rfl, hc.place hfound, Or.inl ⟨rfl, rfl⟩⟩
      | some refreshed =>
        obtain ⟨contents, hcontents, -⟩ := refresh?_eq_some hrefresh
        have hmetadata : refreshed.metadata = existing.metadata := by rw [hcontents]
        obtain ⟨c', hwrite, hputs⟩ := hc.replace_read hfound refreshed hmetadata
        refine ⟨"", Store.successor existing refreshed, c', rfl, ?_, ?_, Or.inr hputs⟩
        · rw [Pass.run_update_bind c hwrite]
          rfl
        · exact (congrArg ObjectKey.ofMetadata hmetadata).trans (hc.place hfound)
    · simp only [follow, copied, if_neg hctl]
      exact ⟨"", existing, c, rfl, rfl, hc.place hfound, Or.inl ⟨rfl, rfl⟩⟩

/-- A secret of the published name under another controller is left alone; otherwise the
credentials are published there. -/
theorem run_follow {c : Cluster} {ns name published : String} (hc : c.Sound)
    (hprovisioned : c.find? .secret ⟨ns, name⟩ = some provisioned) (hname : name ≠ "")
    (hpublished : publishedName? name = some published)
    (binding : TemplatedBinding) :
    (∃ existing, c.find? .secret ⟨ns, published⟩ = some existing ∧
      ¬ existing.metadata.isControlledBy provisioned ∧
      (follow provisioned binding (some existing)).run Cluster.serve c =
        (.ok (some existing), c)) ∨
    ∃ copy c', (follow provisioned binding (c.find? .secret ⟨ns, published⟩)).run Cluster.serve c =
        (.ok (some copy), c') ∧ Publishes provisioned binding copy ∧ copy.place = ⟨ns, published⟩ ∧
      ((c' = c ∧ c.find? .secret ⟨ns, published⟩ = some copy) ∨ c.Puts copy c') := by
  obtain ⟨uid, copy, c', hcopied, hrun, hplace, hwrite⟩ :=
    run_follow_copied hc hprovisioned hname hpublished binding
  rcases copied_cases hcopied with hpublishes | ⟨hfound, hforeign⟩
  · exact Or.inr ⟨copy, c', hrun, hpublishes, hplace, hwrite⟩
  · exact Or.inl ⟨copy, hfound, hforeign, by simp only [follow, if_neg hforeign]; rfl⟩

end Secret

/-- The owners of a secret are read and not written. -/
theorem managedBinding_readsOnly (secret : Secret) :
    (managedBinding secret).ReadsOnly fun k => k = .serviceBinding ∨ k = .templatedBinding := by
  unfold managedBinding
  dsimp only
  split
  · exact .pure _
  · refine .bind (.cached (Or.inl rfl) _ _) fun found => ?_
    split
    · exact .pure _
    · split
      · exact .pure _
      · exact .cached (Or.inr rfl) _ _

/-! ## The three queues -/

namespace QueueKind

/-- The pass for a key of a queue. -/
def pass (q : QueueKind) (plans : PlanResolver) (time key : String) :
    Pass (Option (Object q.kind)) :=
  match q with
  | .templatedInstance => synchronizeInstance plans time key
  | .templatedBinding => synchronizeBinding time key
  | .secret => synchronizeSecret key

/-- The queues of templated objects run the passes of their flows. -/
theorem pass_templatedInstance (plans : PlanResolver) (time key : String) :
    templatedInstance.pass plans time key = (instanceFlow plans).pass time key :=
  synchronizeInstance_eq plans time key

theorem pass_templatedBinding (plans : PlanResolver) (time key : String) :
    templatedBinding.pass plans time key = bindingFlow.pass time key :=
  synchronizeBinding_eq time key

/-- Nothing comes of a malformed key. -/
theorem pass_of_malformed {key : String} (h : wellFormedKey? key = none) (q : QueueKind)
    (plans : PlanResolver) (time : String) : q.pass plans time key = pure none := by
  cases q with
  | templatedInstance =>
    exact (pass_templatedInstance plans time key).trans (Flow.pass_of_malformed h time)
  | templatedBinding =>
    exact (pass_templatedBinding plans time key).trans (Flow.pass_of_malformed h time)
  | secret => exact synchronizeSecret_of_malformed h

/-- What a queue runs for a key is the pass, of which it only learns whether an object came of
it. -/
theorem synchronize_eq (q : QueueKind) (plans : PlanResolver) (time key : String) :
    q.synchronize plans time key = Option.isSome <$> q.pass plans time key := by
  cases q <;> rfl

end QueueKind

end ServiceTemplates
