import ServiceTemplates.Proofs.Reconcile.Flow
import ServiceTemplates.Proofs.Store.Version

/-!
# Before anything is provisioned

What two passes for a key start from when nothing is provisioned yet: the template that
both resolve, the object that is stored then, and what is built for it. Main statement:
`Flow.Setting.version_ne_of_moved`, by which a request that was stored is not stored
again.
-/

namespace ServiceTemplates

/-- Whether two objects are states of one object. -/
structure Object.Kin {k : Kind} (o o' : Object k) : Prop where
  name : o'.metadata.name = o.metadata.name
  uid : o'.metadata.uid = o.metadata.uid
  place : o'.place = o.place

theorem Object.Kin.refl {k : Kind} (o : Object k) : o.Kin o := ⟨rfl, rfl, rfl⟩

/-- Later states of kin are kin. -/
theorem Object.Kin.successor {k : Kind} {o o' current : Object k} (h : o.Kin o')
    (hcurrent : o.Kin current) (spec : k.Spec) (status : Option k.Status) :
    o.Kin (Store.successor current ⟨o'.metadata, spec, status⟩) :=
  ⟨h.name, hcurrent.uid, h.place⟩

/-- What is provisioned for one state of an object is controlled by all of them. -/
theorem Object.Kin.controls {k : Kind} {o o₁ o₂ : Object k} (h₁ : o.Kin o₁) (h₂ : o.Kin o₂)
    {name : String} (hname : o.metadata.name = some name) {m : Metadata}
    (hm : m.ownerReferences = some [o₁.controllerReference]) : m.isControlledBy o₂ := by
  have hn₁ : o₁.metadata.name = some name := h₁.name.trans hname
  have hn₂ : o₂.metadata.name = some name := h₂.name.trans hname
  have hreference : o₁.controllerReference = o₂.controllerReference := by
    simp [Object.controllerReference, Object.displayName, Metadata.displayName, hn₁, hn₂, h₁.uid,
      h₂.uid]
  exact Object.controls_provisioned hn₂ (hreference ▸ hm)

namespace Flow

variable {t p : Kind}

/-- What two passes start from: an object for which nothing is provisioned yet, its
template, and what is built for it. -/
structure Setting (F : Flow t p) where
  key : String
  ns : String
  name : String
  start : Cluster
  /-- The object as it is in the beginning. -/
  old : Object t
  /-- What it resolves to. -/
  spec : t.Spec
  /-- The object with that stored, unless it had the same value before. -/
  new : Object t
  /-- What is built for it then. -/
  desired : Object p
  wellFormed : wellFormedKey? key = some (ns, name)
  sound : start.Sound
  templated : start.find? t ⟨ns, name⟩ = some old
  vacant : start.find? p ⟨ns, name⟩ = none
  resolved : ((F.resolve old).run Cluster.serve start).1 = .ok spec
  same : F.sameSpec spec old.spec → new = old
  differs : ¬ F.sameSpec spec old.spec → new = Store.successor old { old with spec := spec }
  again : ¬ F.sameSpec spec old.spec → ((F.resolve new).run Cluster.serve start).1 = .ok spec
  built : F.build new = .ok desired

/-- What follows once the object to be provisioned is built. -/
def creation (F : Flow t p) (time : String) (o : Object t) (desired : Object p) :
    Pass (Option (Object t)) :=
  Pass.create desired >>= fun s =>
    Pass.count (.writes p .create) >>= fun _ => some <$> F.report time (o, s)

/-- What follows once a template is resolved that has to be stored. -/
def storing (F : Flow t p) (time : String) (o : Object t) (spec : t.Spec) :
    Pass (Option (Object t)) :=
  Pass.update { o with spec := spec } >>= fun o =>
    F.createFor o >>= fun ready => some <$> F.report time ready

/-- What follows once a request has to be pushed down. -/
def push (F : Flow t p) (time : String) (o : Object t) (s : Object p) : Pass (Option (Object t)) :=
  Pass.update { s with spec := F.refresh o.spec s.spec } >>= fun updated =>
    Pass.count (.writes p .update) >>= fun _ => some <$> F.report time (o, updated)

/-- What follows once there is something to be recorded. -/
def recording (o : Object t) (status : t.Status) : Pass (Option (Object t)) :=
  some <$> recordStatus { o with status := some status }

/-- There is nothing to report, or a status to record. -/
theorem report_cases (F : Flow t p) (time : String) (o : Object t) (s : Object p) :
    some <$> F.report time (o, s) = pure (some o) ∨
      ∃ status, some <$> F.report time (o, s) = recording o status := by
  unfold Flow.report
  dsimp only
  split
  · exact Or.inl rfl
  · exact Or.inr ⟨_, rfl⟩

/-- Recording ends a pass, whatever comes of it. -/
theorem recording_eq (o : Object t) (status : t.Status) :
    ∃ result : Except Error (Object t) → Except Error (Option (Object t)),
      recording o status =
        .ask (.updateStatus t { o with status := some status }) fun reply =>
          .done (result reply) := by
  refine ⟨fun reply => (reply.map some).tryCatch fun e =>
    if e.isNotFound then .ok (some { o with status := some status }) else .error e, ?_⟩
  refine congrArg (Pass.ask _) (funext fun reply => ?_)
  cases reply with
  | ok written => rfl
  | error e =>
    show Pass.bind (ite _ _ _) _ = Pass.done (ite _ _ _)
    split <;> rfl

namespace Setting

variable {F : Flow t p} (S : F.Setting)

theorem old_place : S.old.place = ⟨S.ns, S.name⟩ := S.sound.place S.templated

theorem old_name : S.old.metadata.name = some S.name :=
  Object.name_of_place S.old_place (wellFormedKey?_ne S.wellFormed).2

/-- What is stored is kin to what was found. -/
theorem new_kin : S.old.Kin S.new := by
  by_cases h : F.sameSpec S.spec S.old.spec
  · rw [S.same h]
    exact .refl _
  · rw [S.differs h]
    exact (Object.Kin.refl S.old).successor (.refl S.old) _ _

/-- What is built belongs under the key. -/
theorem desired_place : S.desired.place = ⟨S.ns, S.name⟩ :=
  Object.place_of_provisioned (S.new_kin.place.trans S.old_place)
    (wellFormedKey?_ne S.wellFormed).2 (F.build_metadata S.built)

/-- Whether a version has moved on from where it was in the beginning, if that matters. -/
def Moved (T : Object t) : Prop := S.old.spec = S.new.spec ∨ T.version ≠ S.old.version

/-- What is stored anew has moved on by one version. -/
theorem new_version (h : ¬ F.sameSpec S.spec S.old.spec) :
    S.new.version = some (nextVersion S.old.version) := by
  rw [S.differs h]
  rfl

theorem moved_new : S.Moved S.new := by
  by_cases h : F.sameSpec S.spec S.old.spec
  · exact Or.inl (by rw [S.same h])
  · refine Or.inr ?_
    rw [S.new_version h]
    exact nextVersion_ne _

theorem moved_successor (obj : Object t) : S.Moved (Store.successor S.new obj) := by
  by_cases h : F.sameSpec S.spec S.old.spec
  · exact Or.inl (by rw [S.same h])
  · refine Or.inr ?_
    rw [Store.version_successor, S.new_version h]
    exact nextVersion_nextVersion_ne _

/-- What has to be stored has another value. -/
theorem version_ne_of_moved {T : Object t} (hT : S.Moved T) (h : ¬ F.sameSpec S.spec S.old.spec) :
    T.version ≠ S.old.version := by
  rcases hT with hspec | hversion
  · have hnew : S.new.spec = S.spec := by rw [S.differs h]; rfl
    rw [hspec, hnew] at h
    exact absurd (F.sameSpec_self S.spec) h
  · exact hversion

end Setting

end Flow

end ServiceTemplates
