import ServiceTemplates.Proofs.Wire.RoundTrip

/-!
# Merge patches

How an API server merges a patch into a value (RFC 7386): null takes a field away, an object is
merged into the field, and anything else replaces it. Since a patch names every field once, what
stands under a key afterwards depends on what stood there and on what the patch says of that key
alone (`Json.find?_mergeFields`). A record all of whose fields are written, null for those that
hold nothing, therefore overwrites whatever it is merged into (`Overwrites`), one lemma for each
observed state. Main statement: `Kind.overwrites_status`.
-/

namespace ServiceTemplates

namespace Json

mutual

/-- A value with a patch merged into it. -/
def mergePatch : Json → Json → Json
  | target, .object patch => .object (mergeFields (target.fields?.getD []) patch)
  | _, other => other

/-- The fields of an object with those of a patch merged into them one after the other. -/
def mergeFields : List (String × Json) → List (String × Json) → List (String × Json)
  | target, [] => target
  | target, (key, value) :: rest =>
    mergeFields
      (if value = .null then Entries.erase key target
        else Entries.insert key (mergePatch ((Entries.find? key target).getD .null) value) target)
      rest

end

/-- What stands under a key after a merge, by what stood there and what the patch says of it. -/
def mergedField (target : Option Json) : Option Json → Option Json
  | none => target
  | some value => if value = .null then none else some (mergePatch (target.getD .null) value)

/-- Only null merges to null. -/
theorem mergePatch_ne_null {value : Json} (h : value ≠ .null) (target : Json) :
    mergePatch target value ≠ .null := by
  cases value with
  | object patch =>
    unfold mergePatch
    exact nofun
  | null => exact absurd rfl h
  | bool b => exact h
  | number n => exact h
  | string s => exact h
  | array items => exact h

/-- **A merge goes key by key.** -/
theorem find?_mergeFields {patch : List (String × Json)} (hpatch : Entries.Sorted patch)
    (key : String) (target : List (String × Json)) :
    Entries.find? key (mergeFields target patch) =
      mergedField (Entries.find? key target) (Entries.find? key patch) := by
  induction patch generalizing target with
  | nil => rfl
  | cons e rest ih =>
    obtain ⟨k, value⟩ := e
    obtain ⟨hleast, hrest⟩ := List.pairwise_cons.1 hpatch
    rw [mergeFields, ih hrest]
    by_cases hkey : key = k
    -- The keys are sorted, so that the rest of the patch says nothing more of this one.
    · subst hkey
      rw [Entries.find?_eq_none_of_lt hleast, Entries.find?_cons_self]
      show Entries.find? key (if value = .null then _ else _) = if value = .null then _ else _
      split
      · rw [Entries.find?_erase, if_pos rfl]
      · rw [Entries.find?_insert, if_pos rfl]
    -- What the first field does under its own key does not show under this one.
    · have hsame : Entries.find? key (if value = .null then Entries.erase k target
          else Entries.insert k (mergePatch ((Entries.find? k target).getD .null) value) target) =
            Entries.find? key target := by
        split
        · rw [Entries.find?_erase, if_neg hkey]
        · rw [Entries.find?_insert, if_neg hkey]
      rw [hsame, Entries.find?_cons_of_ne hkey]

example :
    mergePatch
      (.object [("a", .string "b"), ("c", .object [("d", .string "e"), ("f", .string "g")])])
      (.object [("a", .string "z"), ("c", .object [("f", .null)])]) =
        .object [("a", .string "z"), ("c", .object [("d", .string "e")])] := by
  decide +kernel

@[simp] theorem mergedField_none (target : Option Json) : mergedField target none = target := rfl

@[simp] theorem mergedField_bool (target : Option Json) (b : Bool) :
    mergedField target (some (.bool b)) = some (.bool b) := rfl

@[simp] theorem mergedField_string (target : Option Json) (s : String) :
    mergedField target (some (.string s)) = some (.string s) := rfl

/-- An array is replaced as a whole, so that null stays null in it. -/
@[simp] theorem mergedField_ofList {α : Type} (toJson : α → Json) (target : Option Json)
    (items : List α) :
    mergedField target (some (.ofList toJson items)) = some (.ofList toJson items) := rfl

end Json

open Json Record

/-! ## Records that are merged -/

section Merged

variable (target : List (String × Json)) (fields : List (Option (String × Json))) (key : String)

/-- A written record is merged field by field. -/
@[simp] theorem Json.mergePatch_ofPresent (value : Json) :
    mergePatch value (.ofPresent fields) =
      .object (mergeFields (value.fields?.getD []) (written fields)) := by
  rw [ofPresent, ofFields, mergePatch]
  rfl

@[simp] theorem Json.record?_object (layout : Layout) :
    (Json.object target).record? layout = some target := rfl

/-- What stands under a key once a record is merged. -/
theorem Record.find?_merged :
    Entries.find? key (mergeFields target (written fields)) =
      mergedField (Entries.find? key target) (lookup? key fields) := by
  have hsorted : Entries.Sorted (written fields) := Entries.sorted_ofList _
  rw [find?_mergeFields hsorted, find?_written]

variable {α : Type} {read : Json → Option α}

/-- The ways of reading a field come down to what stands under its key then. -/
@[simp] theorem Record.required_merged :
    required (mergeFields target (written fields)) key read =
      (mergedField (Entries.find? key target) (lookup? key fields)).bind read := by
  rw [required, find?_merged]

@[simp] theorem Record.optional_merged :
    optional (mergeFields target (written fields)) key read =
      readOptional read (mergedField (Entries.find? key target) (lookup? key fields)) := by
  rw [← find?_merged]
  rfl

@[simp] theorem Record.withDefault_merged (absent : α) :
    withDefault (mergeFields target (written fields)) key read absent =
      readWithDefault read absent
        (mergedField (Entries.find? key target) (lookup? key fields)) := by
  rw [← find?_merged]
  rfl

end Merged

/-! ## What overwrites what it is merged into -/

/-- What `toJson` writes, `read` takes back also when it has been merged into something else. -/
structure Overwrites {α : Type} (read : Json → Option α) (toJson : α → Json) : Prop extends
    Reads read toJson where
  read_mergePatch : ∀ target a, read (mergePatch target (toJson a)) = some a

/-- Texts replace whatever they are merged into. -/
@[simp] theorem Json.overwrites_text : Overwrites text? .string := ⟨reads_text, fun _ _ => rfl⟩

/-- A value that may be absent is null then, which takes away what was there before. -/
@[simp] theorem Record.readOptional_merged {α : Type} {read : Json → Option α} {toJson : α → Json}
    (h : Overwrites read toJson) (target : Option Json) (x : Option α) :
    readOptional read (mergedField target (some (.ofOption toJson x))) = some x := by
  cases x with
  | none => rfl
  | some a =>
    have hne := h.toJson_ne_null a
    show readOptional read (if toJson a = .null then none
      else some (mergePatch (target.getD .null) (toJson a))) = _
    rw [if_neg hne, readOptional_of_ne_null (mergePatch_ne_null hne _), h.read_mergePatch]
    rfl

@[simp] theorem NameReference.overwrites : Overwrites ofJson? toJson :=
  ⟨reads, fun target r => by simp [ofJson?, toJson]⟩

/-- Every observed state is written with null for what it leaves out, so that nothing remains of an
earlier one. -/
theorem TemplatedInstanceStatus.overwrites : Overwrites ofJson? toJson :=
  ⟨reads, fun target s => by simp [ofJson?, toJson]⟩

theorem TemplatedBindingStatus.overwrites : Overwrites ofJson? toJson :=
  ⟨reads, fun target s => by simp [ofJson?, toJson]⟩

theorem ServiceInstanceStatus.overwrites : Overwrites ofJson? toJson :=
  ⟨reads, fun target s => by simp [ofJson?, toJson]⟩

theorem ServiceBindingStatus.overwrites : Overwrites ofJson? toJson :=
  ⟨reads, fun target s => by simp [ofJson?, toJson]⟩

/-- **An observed state overwrites whatever it is merged into.** -/
theorem Kind.overwrites_status {k : Kind} {readStatus : Json → Option k.Status}
    (h : k.statusReader? = some readStatus) : Overwrites readStatus k.statusToJson := by
  cases k with
  | templatedInstance => cases h; exact TemplatedInstanceStatus.overwrites
  | templatedBinding => cases h; exact TemplatedBindingStatus.overwrites
  | serviceInstance => cases h; exact ServiceInstanceStatus.overwrites
  | serviceBinding => cases h; exact ServiceBindingStatus.overwrites
  | _ => cases h

end ServiceTemplates
