import ServiceTemplates.Pass.Run
import ServiceTemplates.Proofs.Store.Sound
import ServiceTemplates.Reconcile.Secret

/-!
# The chain from a secret to a templated binding

Whether an object controls another is a matter of identity, but the chain that starts at a
secret is followed by the kinds and names of the controllers alone. Where a reference is left
over from an earlier object of the same name the two differ, and so the pass for a secret may
publish the credentials of an object that is gone. Main statement:
`controlled_chain_iff`, by which they differ in nothing else.
-/

namespace ServiceTemplates

variable {k : Kind} {listers : Listers} {ns : Option String}

/-! ## One reference -/

namespace Listers

/-- Whether an object that has a name is found under no other. -/
def Keyed (listers : Listers) : Prop :=
  ∀ {k : Kind} {ns : Option String} {name own : String} {o : Object k},
    listers.get? k ns name = some o → o.metadata.name = some own → own = name

/-- Whether an object is known in a namespace. -/
def Holds (listers : Listers) (ns : Option String) (o : Object k) : Prop :=
  ∃ name, listers.get? k ns name = some o

/-- What stands under the kind and the name of a controller. -/
def controller? (listers : Listers) (ns : Option String) (k : Kind) (m : Metadata) :
    Option (Object k) :=
  (m.controllerName? k).bind (listers.get? k ns)

end Listers

theorem Cluster.Sound.listers_keyed {c : Cluster} (hc : c.Sound) : c.listers.Keyed := by
  intro k ns name own o hfound hown
  have hname : o.metadata.name.getD "" = name := congrArg ObjectKey.name (hc.place hfound)
  rwa [hown] at hname

namespace Metadata

/-- Whether an object has a name, and an identity that does not contradict the one that is
referred to as the controller's. -/
def Identifies (m : Metadata) (o : Object k) : Prop :=
  o.metadata.name.isSome ∧ ∃ r, m.controller? = some r ∧ agreesOnUid r o.metadata.uid

theorem isControlledBy_iff {m : Metadata} {o : Object k} :
    m.isControlledBy o ↔ ∃ r, m.controller? = some r ∧ r.kind = k.name ∧
      o.metadata.name = some r.name ∧ agreesOnUid r o.metadata.uid := by
  unfold isControlledBy
  cases m.controller? <;> simp [and_assoc]

theorem controllerName?_eq_some_iff {m : Metadata} {name : String} :
    m.controllerName? k = some name ↔
      ∃ r, m.controller? = some r ∧ r.kind = k.name ∧ r.name = name := by
  unfold controllerName?
  cases m.controller? <;> simp [Option.filter_eq_some_iff, and_assoc]

end Metadata

/-- **An object that is known is the controller if the reference leads to it and identifies
it.** -/
theorem controlled_iff (h : listers.Keyed) {m : Metadata} {o : Object k} :
    (listers.Holds ns o ∧ m.isControlledBy o) ↔
      listers.controller? ns k m = some o ∧ m.Identifies o := by
  rw [Metadata.isControlledBy_iff, Listers.controller?, Option.bind_eq_some_iff]
  constructor
  · rintro ⟨⟨name, hfound⟩, r, hr, hkind, hname, huid⟩
    -- It is found under its own name only, and that is the name that is referred to.
    have hleads : m.controllerName? k = some name :=
      Metadata.controllerName?_eq_some_iff.2 ⟨r, hr, hkind, h hfound hname⟩
    exact ⟨⟨name, hleads, hfound⟩, by simp [hname], r, hr, huid⟩
  · rintro ⟨⟨name, hleads, hfound⟩, hnamed, r, hr, huid⟩
    obtain ⟨r', hr', hkind, rfl⟩ := Metadata.controllerName?_eq_some_iff.1 hleads
    obtain rfl : r = r' := Option.some.inj (hr.symm.trans hr')
    obtain ⟨own, hown⟩ := Option.isSome_iff_exists.1 hnamed
    exact ⟨⟨r.name, hfound⟩, r, hr, hkind, hown.trans (congrArg some (h hfound hown)), huid⟩

/-! ## Two of them -/

theorem readFrom_managedBinding (listers : Listers) (secret : Secret) :
    (managedBinding secret).readFrom listers =
      .ok ((listers.controller? secret.metadata.ns .serviceBinding secret.metadata).bind
        fun s => listers.controller? secret.metadata.ns .templatedBinding s.metadata) := by
  have hcached : ∀ {k : Kind} (ns : Option String) (name : String)
      (f : Option (Object k) → Pass (Option TemplatedBinding)),
      (Pass.cached k ns name >>= f).readFrom listers =
        (f (listers.get? k ns name)).readFrom listers := fun _ _ _ => rfl
  unfold managedBinding Listers.controller?
  dsimp only
  cases secret.metadata.controllerName? .serviceBinding with
  | none => rfl
  | some name =>
    dsimp only
    rw [hcached, Option.bind_some]
    cases listers.get? .serviceBinding secret.metadata.ns name with
    | none => rfl
    | some s =>
      rw [Option.bind_some]
      dsimp only
      cases s.metadata.controllerName? .templatedBinding <;> rfl

/-- **The chain by identity is the chain by kind and name whose references identify what they
lead to.** A templated binding that is known controls, by way of a service binding that is
known, a secret if and only if the chain is followed to it and neither the reference of the
secret nor that of the service binding is to an earlier object of the same name. -/
theorem controlled_chain_iff (h : listers.Keyed) (secret : Secret) (b : TemplatedBinding) :
    (∃ s : ServiceBinding,
        (listers.Holds secret.metadata.ns s ∧ secret.metadata.isControlledBy s) ∧
          listers.Holds secret.metadata.ns b ∧ s.metadata.isControlledBy b) ↔
      (managedBinding secret).readFrom listers = .ok (some b) ∧
        ∃ s : ServiceBinding,
          listers.controller? secret.metadata.ns .serviceBinding secret.metadata = some s ∧
            secret.metadata.Identifies s ∧ s.metadata.Identifies b := by
  simp only [controlled_iff h, readFrom_managedBinding, Except.ok.injEq, Option.bind_eq_some_iff]
  constructor
  · rintro ⟨s, ⟨hs, hids⟩, hb, hidb⟩
    exact ⟨⟨s, hs, hb⟩, s, hs, hids, hidb⟩
  · rintro ⟨⟨s, hs, hb⟩, s', hs', hids, hidb⟩
    obtain rfl : s = s' := Option.some.inj (hs.symm.trans hs')
    exact ⟨s, ⟨hs, hids⟩, hb, hidb⟩

/-- A secret that the catalog wrote for the service binding that is there now. -/
theorem controlled_chain_found :
    let binding : TemplatedBinding :=
      { metadata := {
          name := some "creds", ns := some "default", uid := some "tb", resourceVersion := some "1" }
        spec := { instanceRef := ⟨"db"⟩ } }
    let provisioned : ServiceBinding :=
      { metadata := {
          name := some "creds", ns := some "default", uid := some "sb", resourceVersion := some "1"
          ownerReferences := some [binding.controllerReference] }
        spec := { instanceRef := ⟨"db"⟩ } }
    let secret : Secret :=
      { metadata := {
          name := some "creds-shadow", ns := some "default"
          ownerReferences := some [provisioned.controllerReference] }
        spec := {} }
    let c := ((Cluster.empty.insert binding).2.insert provisioned).2
    (managedBinding secret).readFrom c.listers = .ok (some binding) := by
  intro binding provisioned secret c
  have hsound : c.Sound := (Cluster.sound_empty.insert binding).insert provisioned
  have hheld : c.listers.Holds (some "default") provisioned := ⟨"creds", by decide +kernel⟩
  have hheld' : c.listers.Holds (some "default") binding := ⟨"creds", by decide +kernel⟩
  exact ((controlled_chain_iff hsound.listers_keyed secret binding).1
    ⟨provisioned, ⟨hheld, by decide +kernel⟩, hheld', by decide +kernel⟩).1

/-- A secret of an earlier service binding is taken for one of the present service binding, which
does not control it, and its credentials are published under the present names. -/
theorem controlled_chain_left_over :
    let binding : TemplatedBinding :=
      { metadata := {
          name := some "creds", ns := some "default", uid := some "tb-new"
          resourceVersion := some "1" }
        spec := {
          instanceRef := ⟨"db"⟩, secretKeys := .ofList [("password", "db-password")] } }
    let earlier : ServiceBinding :=
      { metadata := { name := some "creds", ns := some "default", uid := some "sb-old" }
        spec := { instanceRef := ⟨"db"⟩ } }
    let provisioned : ServiceBinding :=
      { metadata := {
          name := some "creds", ns := some "default", uid := some "sb-new"
          resourceVersion := some "1", ownerReferences := some [binding.controllerReference] }
        spec := { instanceRef := ⟨"db"⟩ } }
    let secret : Secret :=
      { metadata := {
          name := some "creds-shadow", ns := some "default", uid := some "s-old"
          resourceVersion := some "1", ownerReferences := some [earlier.controllerReference] }
        spec := { data := some (.ofList [("password", [1])]) } }
    let c := (((Cluster.empty.insert binding).2.insert provisioned).2.insert secret).2
    (managedBinding secret).readFrom c.listers = .ok (some binding) ∧
      (¬ ∃ s : ServiceBinding,
        c.listers.Holds (some "default") s ∧ secret.metadata.isControlledBy s) ∧
      ∃ published, ((synchronizeSecret "default/creds-shadow").runOn c).result =
          .ok (some published) ∧
        SecretContents.data published.spec = some (.ofList [("db-password", [1])]) := by
  intro binding earlier provisioned secret c
  have hsound : c.Sound :=
    ((Cluster.sound_empty.insert binding).insert provisioned).insert secret
  have hleads : c.listers.controller? (some "default") .serviceBinding secret.metadata =
      some provisioned := by decide +kernel
  have hdata : (((synchronizeSecret "default/creds-shadow").runOn c).result.toOption.join).bind
      (fun published => SecretContents.data published.spec) =
        some (.ofList [("db-password", [1])]) := by decide +kernel
  refine ⟨?_, ?_, ?_⟩
  · rw [readFrom_managedBinding]
    exact congrArg Except.ok (by decide +kernel)
  · rintro ⟨s, hs⟩
    obtain ⟨hs, -, r, hr, huid⟩ := (controlled_iff hsound.listers_keyed).1 hs
    obtain rfl : s = provisioned := Option.some.inj (hs.symm.trans hleads)
    obtain rfl : earlier.controllerReference = r := Option.some.inj hr
    revert huid
    decide
  · cases hresult : ((synchronizeSecret "default/creds-shadow").runOn c).result with
    | error e =>
      rw [hresult] at hdata
      cases hdata
    | ok found =>
      rw [hresult] at hdata
      obtain ⟨published, rfl, hdata⟩ := Option.bind_eq_some_iff.1 hdata
      exact ⟨published, rfl, hdata⟩

end ServiceTemplates
