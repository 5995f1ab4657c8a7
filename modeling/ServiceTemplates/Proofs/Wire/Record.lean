import ServiceTemplates.SortedMap.Lemmas
import ServiceTemplates.Wire.Metadata

/-!
# Reading written records

A record is written as a list of fields, some of them left out, and read field by field. So its
round trip comes down to one fact about looking a field up (`find?_written`) and one about each
way of reading a field: a value that is there is read back, and one that is left out, or written
as null, is read as the value for which it is left out (`readOptional_map`,
`readOptional_ofOption`, `readWithDefault_nonempty`, `readWithDefault_nonemptyTexts`).

What a field holds enters by the pair of its writer and its reader (`Reads`). The pairs are
closed under lists and maps.
-/

namespace ServiceTemplates

/-- What `toJson` writes, `read` takes back; and null, which stands for an absent value, is never
written. -/
structure Reads {α : Type} (read : Json → Option α) (toJson : α → Json) : Prop where
  read_toJson : ∀ a, read (toJson a) = some a
  toJson_ne_null : ∀ a, toJson a ≠ .null

variable {α : Type} {read : Json → Option α} {toJson : α → Json}

/-! ### Values -/

namespace Json

@[simp] theorem reads_text : Reads text? .string := ⟨fun _ => rfl, by rintro s ⟨⟩⟩

@[simp] theorem reads_bool : Reads bool? .bool := ⟨fun _ => rfl, by rintro b ⟨⟩⟩

@[simp] theorem text?_string (s : String) : text? (.string s) = some s := rfl

@[simp] theorem bool?_bool (b : Bool) : bool? (.bool b) = some b := rfl

/-- The bounds of the reader are those of the type. -/
@[simp] theorem int64?_ofInt (n : Int64) : int64? (.ofInt n.toInt) = some n := by
  have hbounds : -0x8000000000000000 ≤ n.toInt ∧ n.toInt < 0x8000000000000000 :=
    ⟨n.le_toInt, n.toInt_lt⟩
  show (if _ then some (Int64.ofInt n.toInt) else none) = some n
  rw [if_pos hbounds, Int64.ofInt_toInt]

@[simp] theorem reads_int64 : Reads int64? fun n => .ofInt n.toInt :=
  ⟨int64?_ofInt, fun _ => nofun⟩

/-- A reader that takes back every item takes back the list. -/
theorem mapM_map_eq_some {β γ : Type} (read : γ → Option β) (write : β → γ)
    (h : ∀ b, read (write b) = some b) (items : List β) :
    (items.map write).mapM read = some items := by
  induction items with
  | nil => rfl
  | cons b rest ih => simp [h b, ih]

/-- Lists of what is read back are read back. -/
theorem reads_list (h : Reads read toJson) : Reads (list? read) (ofList toJson) :=
  ⟨mapM_map_eq_some read toJson h.read_toJson, fun _ => nofun⟩

@[simp] theorem list?_ofList (h : Reads read toJson) (items : List α) :
    list? read (ofList toJson items) = some items :=
  (reads_list h).read_toJson items

/-- A map is written entry by entry and read back from its entries. -/
theorem map?_entries (h : ∀ a, read (toJson a) = some a) (m : SortedMap String α) :
    map? read (.object (m.entries.map fun e => (e.1, toJson e.2))) = some m := by
  have hentry : ∀ e : String × α, (read (toJson e.2)).map (fun x => (e.1, x)) = some e := by
    intro e
    rw [h e.2, Option.map_some]
  have hsorted : SortedMap.ofList m.entries = m :=
    SortedMap.ext_entries (Entries.ofList_eq_self m.sorted)
  have hread := mapM_map_eq_some (fun e => (read e.2).map fun x => (e.1, x))
    (fun e => (e.1, toJson e.2)) hentry m.entries
  rw [map?, hread, Option.map_some, hsorted]

@[simp] theorem texts?_ofTexts (m : SortedMap String String) : texts? (ofTexts m) = some m :=
  map?_entries text?_string m

@[simp] theorem reads_texts : Reads texts? ofTexts := ⟨texts?_ofTexts, fun _ => nofun⟩

end Json

/-! ### Looking a field up -/

namespace Record

/-- The fields of a written record. -/
def written (fields : List (Option (String × Json))) : List (String × Json) :=
  Entries.ofList (fields.filterMap id)

/-- What the fields to be written have under a key, the last of them counting. -/
def lookup? (key : String) : List (Option (String × Json)) → Option Json
  | [] => none
  | field :: rest =>
    (lookup? key rest).or (field.bind fun e => if e.1 = key then some e.2 else none)

/-- The fields are entered one after the other, so that the last one under a key prevails, which is
the first one of the reversed list. -/
theorem find?_reverse_filterMap (key : String) (fields : List (Option (String × Json))) :
    Entries.find? key (fields.filterMap id).reverse = lookup? key fields := by
  induction fields with
  | nil => rfl
  | cons field rest ih =>
    cases field with
    | none =>
      -- A field that is not there changes neither side.
      rw [List.filterMap_cons_none (by rfl), ih]
      simp [lookup?]
    | some e =>
      obtain ⟨k, j⟩ := e
      have hcons : (some (k, j) :: rest).filterMap id = (k, j) :: rest.filterMap id := rfl
      rw [hcons, List.reverse_cons, Entries.find?_append, ih, lookup?]
      by_cases hk : k = key
      · simp [hk]
      · rw [Entries.find?_cons_of_ne (Ne.symm hk)]
        simp [hk]

/-- **A written record has under a key what the last of its fields there has.** -/
theorem find?_written (key : String) (fields : List (Option (String × Json))) :
    Entries.find? key (written fields) = lookup? key fields := by
  rw [written, Entries.ofList, Entries.find?_foldl_insert, find?_reverse_filterMap]
  simp

@[simp] theorem fields?_ofPresent (fields : List (Option (String × Json))) :
    (Json.ofPresent fields).fields? = some (written fields) := rfl

@[simp] theorem record?_ofPresent (layout : Layout) (fields : List (Option (String × Json))) :
    (Json.ofPresent fields).record? layout = some (written fields) := rfl

@[simp] theorem lookup?_nil (key : String) : lookup? key [] = none := rfl

@[simp] theorem lookup?_append (key : String) (left right : List (Option (String × Json))) :
    lookup? key (left ++ right) = (lookup? key right).or (lookup? key left) := by
  induction left with
  | nil => simp
  | cons field rest ih => simp [lookup?, ih, Option.or_assoc]

section Fields

variable (key k : String) (rest : List (Option (String × Json)))

@[simp] theorem lookup?_always (j : Json) :
    lookup? key (always k j :: rest) =
      (lookup? key rest).or (if k = key then some j else none) := rfl

/-- A field that is left out counts as none under its key. -/
@[simp] theorem lookup?_present (x : Option α) :
    lookup? key (present k toJson x :: rest) =
      (lookup? key rest).or (if k = key then x.map toJson else none) := by
  cases x with
  | none => simp [lookup?, present]
  | some a => rfl

/-- An empty list is not written. -/
@[simp] theorem lookup?_nonempty (items : List α) :
    lookup? key (nonempty k toJson items :: rest) =
      (lookup? key rest).or
        (if k = key then (if items = [] then none else some (.ofList toJson items))
        else none) := by
  cases items with
  | nil => simp [lookup?, nonempty]
  | cons a rest => rfl

/-- Nor is an empty map. -/
@[simp] theorem lookup?_nonemptyTexts (m : SortedMap String String) :
    lookup? key (nonemptyTexts k m :: rest) =
      (lookup? key rest).or
        (if k = key then (if m.isEmpty then none else some (.ofTexts m)) else none) := by
  rw [lookup?, nonemptyTexts]
  split
  · simp
  · rfl

end Fields

/-! ### Reading a field -/

/-- How an optional field is read, once it is looked up. -/
def readOptional (read : Json → Option α) : Option Json → Option (Option α)
  | none => some none
  | some .null => some none
  | some j => (read j).map some

/-- How a field with a default is read, once it is looked up. -/
def readWithDefault (read : Json → Option α) (absent : α) : Option Json → Option α
  | none => some absent
  | some j => read j

section Written

variable (fields : List (Option (String × Json))) (key : String)

/-- The ways of reading a field come down to looking it up. -/
@[simp] theorem required_written :
    required (written fields) key read = (lookup? key fields).bind read := by
  rw [required, find?_written]

@[simp] theorem optional_written :
    optional (written fields) key read = readOptional read (lookup? key fields) := by
  rw [← find?_written]
  rfl

@[simp] theorem withDefault_written (absent : α) :
    withDefault (written fields) key read absent =
      readWithDefault read absent (lookup? key fields) := by
  rw [← find?_written]
  rfl

end Written

/-- Only null is taken for an absent value. -/
theorem readOptional_of_ne_null {j : Json} (h : j ≠ .null) :
    readOptional read (some j) = (read j).map some := by
  cases j with
  | null => exact absurd rfl h
  | _ => rfl

/-- An optional value is read back if it is left out where it is absent. -/
@[simp] theorem readOptional_map (h : Reads read toJson) (x : Option α) :
    readOptional read (x.map toJson) = some x := by
  cases x with
  | none => rfl
  | some a =>
    rw [Option.map_some, readOptional_of_ne_null (h.toJson_ne_null a), h.read_toJson]
    rfl

/-- It is read back also if it is written as null then. -/
@[simp] theorem readOptional_ofOption (h : Reads read toJson) (x : Option α) :
    readOptional read (some (.ofOption toJson x)) = some x := by
  cases x with
  | none => rfl
  | some a => exact readOptional_map h (some a)

@[simp] theorem readOptional_text (s : String) :
    readOptional Json.text? (some (.string s)) = some (some s) := rfl

@[simp] theorem readWithDefault_some (absent : α) (j : Json) :
    readWithDefault read absent (some j) = read j := rfl

/-- A list that is left out where it is empty is read back. -/
@[simp] theorem readWithDefault_nonempty (h : Reads read toJson) (items : List α) :
    readWithDefault (Json.list? read) []
      (if items = [] then none else some (.ofList toJson items)) = some items := by
  cases items with
  | nil => rfl
  | cons a rest => exact Json.list?_ofList h (a :: rest)

/-- So is a map. -/
@[simp] theorem readWithDefault_nonemptyTexts (m : SortedMap String String) :
    readWithDefault Json.texts? ∅ (if m.isEmpty then none else some (.ofTexts m)) = some m := by
  split
  · next h =>
    have hempty : m.entries = [] := List.isEmpty_iff.1 h
    exact congrArg some (SortedMap.ext_entries hempty.symm)
  · exact Json.texts?_ofTexts m

end Record

end ServiceTemplates
