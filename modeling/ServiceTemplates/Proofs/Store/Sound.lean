import ServiceTemplates.Store.Cluster
import ServiceTemplates.Store.Lemmas

/-!
# Sound clusters

What holds of every cluster that was built up by its operations: an object stands under
the key that its metadata gives it, and it has a version. The operations are described by
what they do to look-ups: a write that succeeds puts one object into place and a refused
one leaves the cluster as it is. Main statements: `Cluster.create_cases`,
`Cluster.replace_cases`, and that each operation keeps a cluster sound.
-/

namespace ServiceTemplates

variable {k : Kind}

def Object.place (obj : Object k) : ObjectKey := .ofMetadata obj.metadata

def Object.version (obj : Object k) : Option String := obj.metadata.resourceVersion

@[simp] theorem Store.place_stamp (obj : Object k) (uid version : String) :
    (stamp obj uid version).place = obj.place := rfl

@[simp] theorem Store.version_stamp (obj : Object k) (uid version : String) :
    (stamp obj uid version).version = some version := rfl

@[simp] theorem Store.place_successor (current obj : Object k) :
    (successor current obj).place = obj.place := rfl

@[simp] theorem Store.version_successor (current obj : Object k) :
    (successor current obj).version = some (nextVersion current.version) := rfl

namespace Cluster

def find? (c : Cluster) (k : Kind) (key : ObjectKey) : Option (Object k) :=
  (c.store k).objects.find? key

/-- Every object stands under its own key and has a version. -/
structure Sound (c : Cluster) : Prop where
  place : ∀ {k key} {obj : Object k}, c.find? k key = some obj → obj.place = key
  versioned : ∀ {k key} {obj : Object k}, c.find? k key = some obj → obj.version.isSome

/-- `c'` is `c` with `stored` put into place. -/
structure Puts (c : Cluster) (stored : Object k) (c' : Cluster) : Prop where
  find? : ∀ key, c'.find? k key = if key = stored.place then some stored else c.find? k key
  store : ∀ k', k' ≠ k → c'.store k' = c.store k'

/-! ## Putting an object into place -/

/-- A store that is put into a cluster is what is looked up in afterwards. -/
theorem find?_setStore (c : Cluster) (s : Store k) (key : ObjectKey) :
    (c.setStore s).find? k key = s.objects.find? key := by
  rw [Cluster.find?, store_setStore]

/-- A store that differs in one entry puts that entry into place, however many identities were
issued. -/
theorem puts_setStore (c : Cluster) {s : Store k} {stored : Object k}
    (h : ∀ key, s.objects.find? key = if key = stored.place then some stored else c.find? k key)
    (issued : Nat) : c.Puts stored { c.setStore s with issued := issued } where
  find? key := (find?_setStore c s key).trans (h key)
  store _ hk := store_setStore_of_ne c s hk.symm

namespace Puts

variable {c c' : Cluster} {stored : Object k}

/-- What was put into place stands there. -/
theorem find?_of_place (h : c.Puts stored c') {key : ObjectKey} (hkey : stored.place = key) :
    c'.find? k key = some stored := by
  rw [h.find?, if_pos hkey.symm]

/-- Nothing else is touched, be it of the same kind or of another one. -/
theorem find?_of_ne (h : c.Puts stored c') {k' : Kind} {key : ObjectKey}
    (hne : k' = k → key ≠ stored.place) : c'.find? k' key = c.find? k' key := by
  by_cases hk : k' = k
  · subst hk
    rw [h.find?, if_neg (hne rfl)]
  · rw [Cluster.find?, h.store k' hk, Cluster.find?]

/-- What is found afterwards was there before, or is what was put there. -/
theorem find?_cases (h : c.Puts stored c') {k' : Kind} {key : ObjectKey} {obj : Object k'}
    (hobj : c'.find? k' key = some obj) :
    c.find? k' key = some obj ∨ (key = stored.place ∧ ∃ hk : k' = k, hk ▸ obj = stored) := by
  -- Objects of two kinds cannot be compared, so the kinds are settled first.
  by_cases hk : k' = k
  · subst hk
    rw [h.find?] at hobj
    split at hobj
    · next hkey => exact Or.inr ⟨hkey, rfl, (Option.some.inj hobj).symm⟩
    · exact Or.inl hobj
  · exact Or.inl ((h.find?_of_ne fun e => absurd e hk).symm.trans hobj)

/-- A cluster stays sound as long as what is put into place has a version. -/
theorem sound (h : c.Puts stored c') (hc : c.Sound) (hv : stored.version.isSome) : c'.Sound where
  place hobj := by
    rcases h.find?_cases hobj with hobj | ⟨rfl, rfl, rfl⟩
    · exact hc.place hobj
    · rfl
  versioned hobj := by
    rcases h.find?_cases hobj with hobj | ⟨rfl, rfl, rfl⟩
    · exact hc.versioned hobj
    · exact hv

end Puts

/-- A seed is put into place without any question. -/
theorem puts_insert (c : Cluster) (obj : Object k) :
    c.Puts (Store.seeded obj c.nextUid) (c.insert obj).2 :=
  puts_setStore c (Store.find?_put _ _) _

/-! ## What a write can do -/

section Writes

variable (c : Cluster) {obj : Object k}

/-- A key that is taken is not taken again. -/
theorem create_of_isSome (h : (c.find? k obj.place).isSome) :
    c.create obj = (.error (.alreadyExists k.name obj.place.shown), c) := by
  rw [create, Store.create_of_isSome _ _ _ h]
  rfl

/-- A new object has the next identity and the first version. -/
theorem create_of_none (h : c.find? k obj.place = none) :
    ∃ c', c.create obj = (.ok (Store.stamp obj c.nextUid "1"), c') ∧
      c.Puts (Store.stamp obj c.nextUid "1") c' := by
  refine ⟨_, ?_, puts_setStore c (Store.find?_write _ _) (c.issued + 1)⟩
  rw [create, Store.create_of_isNone _ _ _ h]

/-- Nothing is replaced where nothing stands. -/
theorem replace_of_none (h : c.find? k obj.place = none) :
    c.replace obj = (.error (.notFound k.name obj.place.shown), c) := by
  have hfind : (c.store k).objects.find? (.ofMetadata obj.metadata) = none := h
  simp only [replace, Store.replace, hfind]
  rfl

/-- A refused version leaves the cluster as it was. -/
theorem replace_of_stale {current : Object k} (h : c.find? k obj.place = some current) {e : Error}
    (he : Store.staleness? current obj = some e) : c.replace obj = (.error e, c) := by
  have hfind : (c.store k).objects.find? (.ofMetadata obj.metadata) = some current := h
  simp only [replace, Store.replace, hfind, he]

/-- A replacement keeps the identity and moves the version on. -/
theorem replace_of_fresh {current : Object k} (h : c.find? k obj.place = some current)
    (hfresh : Store.staleness? current obj = none) :
    ∃ c', c.replace obj = (.ok (Store.successor current obj), c') ∧
      c.Puts (Store.successor current obj) c' := by
  have hfind : (c.store k).objects.find? (.ofMetadata obj.metadata) = some current := h
  refine ⟨_, ?_, puts_setStore c (Store.find?_write _ _) c.issued⟩
  simp only [replace, Store.replace, hfind, hfresh]
  rfl

end Writes

/-- A creation is refused when the key is taken, and puts a new object there otherwise. -/
theorem create_cases (c : Cluster) (obj : Object k) :
    ((c.find? k obj.place).isSome ∧
      c.create obj = (.error (.alreadyExists k.name obj.place.shown), c)) ∨
    (c.find? k obj.place = none ∧
      ∃ c', c.create obj = (.ok (Store.stamp obj c.nextUid "1"), c') ∧
        c.Puts (Store.stamp obj c.nextUid "1") c') := by
  cases h : c.find? k obj.place with
  | some found => exact Or.inl ⟨rfl, c.create_of_isSome (by rw [h]; rfl)⟩
  | none => exact Or.inr ⟨rfl, c.create_of_none h⟩

/-- A replacement is refused when nothing is there or a version is named that is not the
present one, and puts a successor there otherwise. -/
theorem replace_cases (c : Cluster) (obj : Object k) :
    (∃ e, c.replace obj = (.error e, c)) ∨
    ∃ current, c.find? k obj.place = some current ∧ Store.staleness? current obj = none ∧
      ∃ c', c.replace obj = (.ok (Store.successor current obj), c') ∧
        c.Puts (Store.successor current obj) c' := by
  cases h : c.find? k obj.place with
  | none => exact Or.inl ⟨_, c.replace_of_none h⟩
  | some current =>
    cases hstale : Store.staleness? current obj with
    | some e => exact Or.inl ⟨e, c.replace_of_stale h hstale⟩
    | none => exact Or.inr ⟨current, rfl, hstale, c.replace_of_fresh h hstale⟩

/-- An object that names a version replaces exactly what has that version. -/
theorem staleness?_eq_none_iff {current obj : Object k} (hv : obj.version.isSome) :
    Store.staleness? current obj = none ↔ current.version = obj.version := by
  obtain ⟨version, hv⟩ := Option.isSome_iff_exists.1 hv
  have hobj : obj.metadata.resourceVersion = some version := hv
  simp [Store.staleness?, hobj, Object.version]

/-- An object that names another version than the present one meets a conflict. -/
theorem exists_conflict_of_version_ne {current obj : Object k} (hv : obj.version.isSome)
    (hmoved : current.version ≠ obj.version) :
    ∃ e, Store.staleness? current obj = some e ∧ e.isConflict := by
  obtain ⟨version, hv⟩ := Option.isSome_iff_exists.1 hv
  have hobj : obj.metadata.resourceVersion = some version := hv
  have hne : current.metadata.resourceVersion ≠ some version := fun h => hmoved (h.trans hv.symm)
  simp [Store.staleness?, hobj, hne, Error.isConflict]

/-- A replacement that names a version is refused exactly when the object has moved on. -/
theorem replace_versioned_cases {c : Cluster} {current obj : Object k}
    (h : c.find? k obj.place = some current) (hv : obj.version.isSome) :
    (current.version ≠ obj.version ∧ ∃ e, c.replace obj = (.error e, c)) ∨
    (current.version = obj.version ∧
      ∃ c', c.replace obj = (.ok (Store.successor current obj), c') ∧
        c.Puts (Store.successor current obj) c') := by
  have hiff : Store.staleness? current obj = none ↔ current.version = obj.version :=
    staleness?_eq_none_iff hv
  cases hstale : Store.staleness? current obj with
  | some e =>
    refine Or.inl ⟨fun heq => ?_, e, c.replace_of_stale h hstale⟩
    -- The version is the present one, so that nothing is stale.
    rw [hiff.2 heq] at hstale
    cases hstale
  | none => exact Or.inr ⟨hiff.1 hstale, c.replace_of_fresh h hstale⟩

/-- In a sound cluster an object that was read can be replaced by one that has its
metadata. -/
theorem Sound.replace_read {c : Cluster} (hc : c.Sound) {key : ObjectKey} {o : Object k}
    (ho : c.find? k key = some o) (obj : Object k) (hm : obj.metadata = o.metadata) :
    ∃ c', c.replace obj = (.ok (Store.successor o obj), c') ∧ c.Puts (Store.successor o obj) c' := by
  have hplace : obj.place = key := (congrArg ObjectKey.ofMetadata hm).trans (hc.place ho)
  have hversion : obj.version = o.version := congrArg Metadata.resourceVersion hm
  refine c.replace_of_fresh (hplace ▸ ho) ?_
  exact (staleness?_eq_none_iff (hversion ▸ hc.versioned ho)).2 hversion.symm

/-! ## Every cluster that is built up is sound -/

theorem sound_empty : empty.Sound where
  place h := nomatch h
  versioned h := nomatch h

theorem Sound.insert {c : Cluster} (hc : c.Sound) (obj : Object k) : (c.insert obj).2.Sound :=
  (c.puts_insert obj).sound hc rfl

theorem Sound.create {c : Cluster} (hc : c.Sound) (obj : Object k) : (c.create obj).2.Sound := by
  rcases c.create_cases obj with ⟨-, h⟩ | ⟨-, c', h, hputs⟩
  · rw [h]
    exact hc
  · rw [h]
    exact hputs.sound hc rfl

theorem Sound.replace {c : Cluster} (hc : c.Sound) (obj : Object k) : (c.replace obj).2.Sound := by
  rcases c.replace_cases obj with ⟨e, h⟩ | ⟨current, -, -, c', h, hputs⟩
  · rw [h]
    exact hc
  · rw [h]
    exact hputs.sound hc rfl

/-- A deletion puts nothing into place. -/
theorem find?_of_delete {c : Cluster} {k k' : Kind} {key key' : ObjectKey} {obj : Object k'}
    (h : (c.delete k key).find? k' key' = some obj) : c.find? k' key' = some obj := by
  by_cases hk : k = k'
  · subst hk
    rw [Cluster.delete, find?_setStore, Store.find?_delete] at h
    split at h
    · cases h
    · exact h
  · rwa [Cluster.delete, Cluster.find?, store_setStore_of_ne c _ hk] at h

theorem Sound.delete {c : Cluster} (hc : c.Sound) (k : Kind) (key : ObjectKey) :
    (c.delete k key).Sound :=
  ⟨fun h => hc.place (find?_of_delete h), fun h => hc.versioned (find?_of_delete h)⟩

end Cluster

end ServiceTemplates
