import Mathlib.Logic.Relation
import ServiceTemplates.Proofs.Reconcile.Chain
import ServiceTemplates.Proofs.Reconcile.Publish

/-!
# Whose objects are built

An object that is built refers to its builder by kind, name and identity, and no refresh touches
that reference. So it is controlled by its builder and by whatever becomes of it as long as it
keeps name and identity, and by nothing else that could be told from it: nothing of another kind
or name, and nothing of another identity if the builder's was known. Main statement:
`built_belongs`.
-/

namespace ServiceTemplates

/-! ## Building and refreshing -/

/-- Whether an object is what is built for another one. -/
inductive Builds : {k l : Kind} → Object k → Object l → Prop
  | provision {inst : TemplatedInstance} {built : ServiceInstance}
      (h : TemplatedInstance.provision inst = .ok built) : Builds inst built
  | bind (binding : TemplatedBinding) : Builds binding (TemplatedBinding.provision binding)
  | publish {provisioned copy : Secret} {binding : TemplatedBinding}
      (h : Secret.publish? provisioned binding = some copy) : Builds provisioned copy

/-- Whether an object is another one after a refresh, whatever it was refreshed for. -/
inductive Refreshes : {l : Kind} → Object l → Object l → Prop
  | provisioned (s : ServiceInstance) (inst : TemplatedInstance) :
      Refreshes s (ServiceInstance.refresh s inst)
  | bound (s : ServiceBinding) (binding : TemplatedBinding) :
      Refreshes s (ServiceBinding.refresh s binding)
  | published {existing provisioned refreshed : Secret} {binding : TemplatedBinding}
      (h : Secret.refresh? existing provisioned binding = some refreshed) :
      Refreshes existing refreshed

variable {k l : Kind} {owner : Object k} {built built' : Object l}

/-- What is built has its builder as its only owner. -/
theorem Builds.ownerReferences (h : Builds owner built) :
    built.metadata.ownerReferences = some [owner.controllerReference] := by
  cases h with
  | provision h =>
    obtain ⟨hmetadata, -⟩ := TemplatedInstance.provision_eq_ok h
    rw [hmetadata]
    rfl
  | bind binding => rfl
  | publish h =>
    obtain ⟨name, published, -, -, rfl⟩ := Secret.publish?_eq_some h
    rfl

/-- A refresh is about contents only. -/
theorem Refreshes.metadata_eq (h : Refreshes built built') : built'.metadata = built.metadata := by
  cases h with
  | provisioned s inst => rfl
  | bound s binding => rfl
  | published h =>
    obtain ⟨contents, rfl, -⟩ := Secret.refresh?_eq_some h
    rfl

/-- No number of refreshes touches the metadata. -/
theorem metadata_eq_of_refreshes (h : Relation.ReflTransGen Refreshes built built') :
    built'.metadata = built.metadata := by
  induction h with
  | refl => rfl
  | tail _ hlast ih => exact hlast.metadata_eq.trans ih

/-! ## Who is the controller -/

/-- Two identities agree unless both are known and differ; the empty one counts as unknown where
it stands in a reference. -/
theorem Metadata.agreesOnUid_iff {r : OwnerReference} {uid : Option String} :
    agreesOnUid r uid ↔ r.uid = "" ∨ uid = none ∨ uid = some r.uid := by
  cases uid with
  | none => simp [agreesOnUid]
  | some uid =>
    simp only [agreesOnUid, Bool.or_eq_true, String.isEmpty_iff, beq_iff_eq, reduceCtorEq,
      false_or, Option.some.injEq]
    exact or_congr_right eq_comm

/-- Who is the controller of an object whose only owner has a name. -/
theorem Metadata.isControlledBy_of_ownerReferences {m : Metadata}
    (hm : m.ownerReferences = some [owner.controllerReference]) {name : String}
    (hname : owner.metadata.name = some name) {k' : Kind} {o : Object k'} :
    m.isControlledBy o ↔ k = k' ∧ o.metadata.name = some name ∧
      (owner.metadata.uid.getD "" = "" ∨ o.metadata.uid = none ∨
        o.metadata.uid = some (owner.metadata.uid.getD "")) := by
  have hcontroller : m.controller? = some owner.controllerReference := by
    simp [controller?, hm, Object.controllerReference]
  have hnamed : owner.controllerReference.name = name := by
    simp [Object.controllerReference, Object.displayName, Metadata.displayName, hname]
  have hkind : owner.controllerReference.kind = k'.name ↔ k = k' := by
    constructor
    · intro h
      exact Kind.name_injective h
    · rintro rfl
      rfl
  simp only [isControlledBy_iff, hcontroller, agreesOnUid_iff, Option.some.injEq,
    exists_eq_left', hkind, hnamed]
  rfl

/-- Whether an owner controls an object, as it is and in whatever state that has its name and
identity, and nothing else does that differs from it in kind, in name or in an identity that is
known. -/
structure Metadata.BelongsTo (m : Metadata) (owner : Object k) : Prop where
  later : ∀ o : Object k, o.metadata.name = owner.metadata.name →
    o.metadata.uid = owner.metadata.uid → m.isControlledBy o
  otherKind : ∀ {k' : Kind} (o : Object k'), k' ≠ k → ¬ m.isControlledBy o
  otherName : ∀ o : Object k, o.metadata.name ≠ owner.metadata.name → ¬ m.isControlledBy o
  otherUid : ∀ (o : Object k) {uid uid' : String}, owner.metadata.uid = some uid → uid ≠ "" →
    o.metadata.uid = some uid' → uid' ≠ uid → ¬ m.isControlledBy o

/-- **What is built belongs to its builder and to nobody else.** This is so for everything that is
built for an owner with a name, and it stays so however often that is refreshed. -/
theorem built_belongs (hname : owner.metadata.name.isSome) (hbuilt : Builds owner built)
    (hrefreshed : Relation.ReflTransGen Refreshes built built') :
    built'.metadata.BelongsTo owner := by
  obtain ⟨name, hname⟩ := Option.isSome_iff_exists.1 hname
  have hreferences : built'.metadata.ownerReferences = some [owner.controllerReference] := by
    rw [metadata_eq_of_refreshes hrefreshed]
    exact hbuilt.ownerReferences
  constructor
  · intro o hsame huid
    apply (Metadata.isControlledBy_of_ownerReferences hreferences hname).2
    refine ⟨rfl, hsame.trans hname, ?_⟩
    rw [huid]
    cases owner.metadata.uid with
    | none => exact Or.inl rfl
    | some uid => exact Or.inr (Or.inr rfl)
  · intro k' o hkind hctl
    obtain ⟨hsame, -⟩ := (Metadata.isControlledBy_of_ownerReferences hreferences hname).1 hctl
    exact hkind hsame.symm
  · intro o hother hctl
    obtain ⟨-, hsame, -⟩ := (Metadata.isControlledBy_of_ownerReferences hreferences hname).1 hctl
    exact hother (hsame.trans hname.symm)
  · intro o uid uid' huid hknown huid' hother hctl
    obtain ⟨-, -, hagree⟩ := (Metadata.isControlledBy_of_ownerReferences hreferences hname).1 hctl
    simp [huid, huid', hknown, hother] at hagree

/-- A service instance that was refreshed for another request: the request that it was built for
controls it in a later state, a new one of the same name does not. -/
theorem built_belongs_refreshed :
    let inst : TemplatedInstance :=
      { metadata := { name := some "db", ns := some "default", uid := some "u-1" }
        spec := { plan := .ofClusterExternal "mysql" "small" } }
    let later : TemplatedInstance :=
      { metadata := { name := some "db", uid := some "u-1", resourceVersion := some "7" }
        spec := { updateRequests := 3 } }
    let successor : TemplatedInstance :=
      { metadata := { name := some "db", ns := some "default", uid := some "u-2" }
        spec := inst.spec }
    ∃ built, TemplatedInstance.provision inst = .ok built ∧
      let refreshed := ServiceInstance.refresh built successor
      refreshed.metadata.BelongsTo inst ∧ refreshed.metadata.isControlledBy later ∧
        ¬ refreshed.metadata.isControlledBy successor := by
  intro inst later successor
  refine ⟨_, rfl, ?_⟩
  intro refreshed
  have hbelongs : refreshed.metadata.BelongsTo inst :=
    built_belongs rfl (.provision rfl) (.single (.provisioned _ successor))
  exact ⟨hbelongs, hbelongs.later later rfl rfl,
    hbelongs.otherUid successor rfl (by decide) rfl (by decide)⟩

end ServiceTemplates
