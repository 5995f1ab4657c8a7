import ServiceTemplates.Proofs.Json.Overlay

/-!
# Paths into a document

A path is a list of keys, followed from the outside in. A document decides a path when it
has a value at its end, or when it cuts the path off by a value that is no object on the
way. Main statement: `Json.sight_overlay`, at the end of every path an overlay shows what
the upper document shows if that decides the path, and what the base shows otherwise.

What is compared is the `sight` of a path: whether there is nothing, some object, or a
value that is no object, and which one. Two objects look alike, since their fields are
merged and belong to longer paths.
-/

namespace ServiceTemplates.Json

def at? : List String → Json → Option Json
  | [], j => some j
  | k :: path, j => (j.field? k).bind (at? path)

/-- Whether a value that is no object stands at a non-empty proper prefix of a path. -/
def CutsOff (j : Json) (path : List String) : Prop :=
  ∃ above v, above ≠ [] ∧ above <+: path ∧ above ≠ path ∧ j.at? above = some v ∧ ¬ v.isObject

/-- Whether a document has a say in what stands at the end of a path. -/
def Decides (j : Json) (path : List String) : Prop := (j.at? path).isSome ∨ j.CutsOff path

@[simp] theorem at?_nil (j : Json) : j.at? [] = some j := rfl

theorem at?_cons (j : Json) (k : String) (path : List String) :
    j.at? (k :: path) = (j.field? k).bind (at? path) := rfl

theorem field?_of_not_isObject {j : Json} (h : ¬ j.isObject) (k : String) : j.field? k = none := by
  cases j with
  | object fields => exact absurd rfl h
  | _ => rfl

/-! ## Being cut off, from the outside in

`CutsOff` leaves the document itself out, since documents are objects. For the induction
along a path the empty prefix has to count too. -/

/-- Whether a value that is no object stands at a proper prefix of a path, the empty one
included. -/
def Stops (j : Json) (path : List String) : Prop :=
  ∃ above v, above <+: path ∧ above ≠ path ∧ j.at? above = some v ∧ ¬ v.isObject

/-- For an object the empty prefix makes no difference. -/
theorem cutsOff_iff_stops {j : Json} (h : j.isObject) {path : List String} :
    j.CutsOff path ↔ j.Stops path := by
  constructor
  · rintro ⟨above, v, -, hp, hne, hv, hleaf⟩
    exact ⟨above, v, hp, hne, hv, hleaf⟩
  · rintro ⟨above, v, hp, hne, hv, hleaf⟩
    refine ⟨above, v, ?_, hp, hne, hv, hleaf⟩
    rintro rfl
    obtain rfl : j = v := Option.some.inj hv
    exact hleaf h

theorem not_stops_nil (j : Json) : ¬ j.Stops [] := by
  rintro ⟨above, v, hp, hne, -, -⟩
  exact hne (List.prefix_nil.1 hp)

/-- A path is stopped by the value that it starts from, or under its first key. -/
theorem stops_cons {j : Json} {k : String} {path : List String} :
    j.Stops (k :: path) ↔ ¬ j.isObject ∨ ∃ v, j.field? k = some v ∧ v.Stops path := by
  constructor
  · rintro ⟨above, w, hp, hne, hw, hleaf⟩
    -- The value stands at the empty prefix or further along the path.
    cases above with
    | nil =>
      obtain rfl : j = w := Option.some.inj hw
      exact Or.inl hleaf
    | cons k' above =>
      obtain ⟨rfl, hrest⟩ := List.cons_prefix_cons.1 hp
      obtain ⟨v, hv, hw⟩ := Option.bind_eq_some_iff.1 (at?_cons j k' above ▸ hw)
      refine Or.inr ⟨v, hv, above, w, hrest, ?_, hw, hleaf⟩
      intro h
      exact hne (congrArg _ h)
  · rintro (h | ⟨v, hv, above, w, hp, hne, hw, hleaf⟩)
    · exact ⟨[], j, List.nil_prefix, nofun, rfl, h⟩
    · refine ⟨k :: above, w, List.cons_prefix_cons.2 ⟨rfl, hp⟩, ?_, ?_, hleaf⟩
      · intro h
        exact hne (List.cons.inj h).2
      · rw [at?_cons, hv]
        exact hw

/-- Nothing stands at the end of a path that is stopped. -/
theorem at?_of_stops {j : Json} {path : List String} (h : j.Stops path) : j.at? path = none := by
  induction path generalizing j with
  | nil => exact absurd h (not_stops_nil j)
  | cons k path ih =>
    rw [at?_cons]
    rcases stops_cons.1 h with h | ⟨v, hv, h⟩
    · rw [field?_of_not_isObject h]
      rfl
    · rw [hv]
      exact ih h

/-! ## What an overlay shows -/

/-- What is seen of a value: nothing more of an object than that it is one. -/
def leaf? (j : Json) : Option Json := if j.isObject then none else some j

def sight (path : List String) (j : Json) : Option (Option Json) := (j.at? path).map leaf?

/-- What is seen tells whether there is a value at all. -/
theorem sight_eq_none_iff {path : List String} {j : Json} :
    sight path j = none ↔ j.at? path = none := Option.map_eq_none_iff

/-- It tells which value there is, unless that is an object. -/
theorem sight_eq_leaf_iff {path : List String} {j v : Json} :
    sight path j = some (some v) ↔ j.at? path = some v ∧ ¬ v.isObject := by
  rw [sight, Option.map_eq_some_iff]
  constructor
  · rintro ⟨w, hw, hleaf⟩
    unfold leaf? at hleaf
    split at hleaf
    · cases hleaf
    · next h => cases hleaf; exact ⟨hw, h⟩
  · rintro ⟨hv, hleaf⟩
    exact ⟨v, hv, if_neg hleaf⟩

/-- It tells an object from everything else. -/
theorem sight_eq_object_iff {path : List String} {j : Json} :
    sight path j = some none ↔ ∃ v, j.at? path = some v ∧ v.isObject := by
  rw [sight, Option.map_eq_some_iff]
  refine exists_congr fun v => and_congr_right fun _ => ?_
  unfold leaf?
  split
  · next h => simp [h]
  · next h => simp [h]

/-- Whether a value has a say in a path that starts at it. -/
def Settles (j : Json) (path : List String) : Prop := (j.at? path).isSome ∨ j.Stops path

/-- For an object the two notions of having a say are the same. -/
theorem decides_iff_settles {j : Json} (h : j.isObject) {path : List String} :
    j.Decides path ↔ j.Settles path := by
  rw [Decides, cutsOff_iff_stops h, Settles]

theorem settles_nil (j : Json) : j.Settles [] := Or.inl rfl

theorem settles_of_not_isObject {j : Json} (h : ¬ j.isObject) (path : List String) :
    j.Settles path := by
  cases path with
  | nil => exact settles_nil j
  | cons k path => exact Or.inr (stops_cons.2 (Or.inl h))

/-- Along a path that starts with a key an object has the say that the value under the key
has, and none without such a value. -/
theorem settles_object_cons {fields : List (String × Json)} {k : String} {path : List String} :
    (object fields).Settles (k :: path) ↔
      ∃ v, Entries.find? k fields = some v ∧ v.Settles path := by
  have hfield : (object fields).field? k = Entries.find? k fields := rfl
  rw [Settles, stops_cons, at?_cons, hfield]
  cases Entries.find? k fields with
  | none => simp [isObject]
  | some v => simp [isObject, Settles]

/-- What is seen along a path of an object is seen under the first key. -/
theorem sight_object_cons (fields : List (String × Json)) (k : String) (path : List String) :
    sight (k :: path) (.object fields) = (Entries.find? k fields).bind (sight path) := by
  have hfield : (object fields).field? k = Entries.find? k fields := rfl
  rw [sight, at?_cons, hfield]
  cases Entries.find? k fields <;> rfl

/-- Under a value that is no object nothing is seen. -/
theorem sight_cons_of_not_isObject {j : Json} (h : ¬ j.isObject) (k : String)
    (path : List String) : sight (k :: path) j = none := by
  rw [sight, at?_cons, field?_of_not_isObject h]
  rfl

theorem sight_of_not_settles {j : Json} {path : List String} (h : ¬ j.Settles path) :
    sight path j = none :=
  sight_eq_none_iff.2 (by simpa using fun hs => h (Or.inl hs))

/-- Along every path an overlay shows what the upper value shows, if that has a say, and
otherwise what the base shows. Both values may be of any form. -/
theorem sight_overlay_of_settles (path : List String) (base upper : Json) :
    (upper.Settles path → sight path (overlay base upper) = sight path upper) ∧
    (¬ upper.Settles path → sight path (overlay base upper) = sight path base) := by
  -- Along the path; at a common key both values are again of any form.
  induction path generalizing base upper with
  | nil =>
    refine ⟨fun _ => ?_, fun h => absurd (settles_nil upper) h⟩
    have hobj := isObject_overlay base upper
    by_cases hu : upper.isObject
    · simp [sight, leaf?, hobj, hu]
    · rw [overlay_not_isObject base hu]
  | cons k path ih =>
    by_cases hu : upper.isObject
    · obtain ⟨upper, rfl⟩ := isObject_iff.1 hu
      by_cases hb : base.isObject
      · obtain ⟨fields, rfl⟩ := isObject_iff.1 hb
        rw [overlay_object, settles_object_cons, sight_object_cons, sight_object_cons,
          sight_object_cons, find?_overlayFields]
        -- At a key of the upper object only, the base has nothing to show; at one of the base only,
        -- the upper object has no say.
        cases hv : Entries.find? k upper with
        | none => simp
        | some v =>
          cases hlower : Entries.find? k fields with
          | none => simpa using sight_of_not_settles
          | some lower => simpa using ih lower v
      · -- Nothing of the base is left, and nothing of it was seen on this path.
        rw [overlay_of_not_isObject hb, sight_cons_of_not_isObject hb]
        exact ⟨fun _ => rfl, sight_of_not_settles⟩
    · rw [overlay_not_isObject base hu]
      exact ⟨fun _ => rfl, fun h => absurd (settles_of_not_isObject hu _) h⟩

/-- At the end of a path an overlay of objects shows what the upper one shows if that
decides the path, and what the base shows otherwise. -/
theorem sight_overlay (base : Json) {upper : Json} (hu : upper.isObject) (path : List String) :
    (upper.Decides path → sight path (overlay base upper) = sight path upper) ∧
    (¬ upper.Decides path → sight path (overlay base upper) = sight path base) := by
  rw [decides_iff_settles hu]
  exact sight_overlay_of_settles path base upper

/-- A document that decides a path without a value at its end cuts the path off. -/
theorem cutsOff_iff_of_decides {j : Json} {path : List String} (hj : j.isObject)
    (h : j.Decides path) : j.CutsOff path ↔ j.at? path = none := by
  constructor
  · intro hcut
    exact at?_of_stops ((cutsOff_iff_stops hj).1 hcut)
  · intro hnone
    exact h.resolve_left (by simp [hnone])

/-- A document that does not decide a path shows nothing there. -/
theorem sight_eq_none_of_not_decides {j : Json} {path : List String} (h : ¬ j.Decides path) :
    sight path j = none :=
  sight_eq_none_iff.2 (by simpa using fun hs => h (Or.inl hs))

end ServiceTemplates.Json
