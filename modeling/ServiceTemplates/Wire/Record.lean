import ServiceTemplates.Json.Basic

/-!
# Reading records

How a record is found in a JSON value. Its fields stand in an object under their
names, and fields that the record does not know are passed over. A record that is
not spread over an enclosing one may also stand in an array, its fields by position;
then the fields without a default have to be there and no further items may follow.

A field is read in one of three ways: `required` fields have to be there,
`optional` ones may be absent or null, and those `withDefault` may be absent, but
null is not a value of theirs.
-/

namespace ServiceTemplates

/-- The order of a record's fields in positional form. -/
structure Layout where
  names : List String
  /-- How many leading fields have to be there. -/
  needed : Nat

namespace Json

/-- The fields of a record by name, whichever form it stands in. -/
def record? (layout : Layout) : Json → Option (List (String × Json))
  | .object fields => some fields
  | .array items =>
    if layout.needed ≤ items.length ∧ items.length ≤ layout.names.length then
      some (layout.names.zip items)
    else none
  | _ => none

def list? {α : Type} (read : Json → Option α) : Json → Option (List α)
  | .array items => items.mapM read
  | _ => none

def map? {α : Type} (read : Json → Option α) : Json → Option (SortedMap String α)
  | .object fields =>
    (fields.mapM fun e => (read e.2).map fun x => (e.1, x)).map SortedMap.ofList
  | _ => none

def texts? (j : Json) : Option (SortedMap String String) := j.map? text?

def bool? : Json → Option Bool
  | .bool b => some b
  | _ => none

def int? : Json → Option Int
  | .number (.int n) => some n
  | _ => none

def int64? (j : Json) : Option Int64 := do
  let n ← j.int?
  if -0x8000000000000000 ≤ n ∧ n < 0x8000000000000000 then some (Int64.ofInt n) else none

def natBelow? (bound : Nat) (j : Json) : Option Nat := do
  let n ← j.int?
  if 0 ≤ n ∧ n < bound then some n.toNat else none

def document? (j : Json) : Option Document := some (Document.ofJson j)

end Json

namespace Record

/-- A field that has to be there. -/
def required {α : Type} (fields : List (String × Json)) (key : String)
    (read : Json → Option α) : Option α :=
  (Entries.find? key fields).bind read

/-- A field that may be absent or null. -/
def optional {α : Type} (fields : List (String × Json)) (key : String)
    (read : Json → Option α) : Option (Option α) :=
  match Entries.find? key fields with
  | none => some none
  | some .null => some none
  | some j => (read j).map some

/-- A field that may be absent and then has the value `absent`. -/
def withDefault {α : Type} (fields : List (String × Json)) (key : String)
    (read : Json → Option α) (absent : α) : Option α :=
  match Entries.find? key fields with
  | none => some absent
  | some j => read j

/-- A field that, if it is there, has to be the given text. -/
def mark? (fields : List (String × Json)) (key value : String) : Option Unit :=
  match Entries.find? key fields with
  | none => some ()
  | some j => if j = .string value then some () else none

/-- The field of a value that is there. -/
def present {α : Type} (key : String) (toJson : α → Json) (x : Option α) :
    Option (String × Json) :=
  x.map fun x => (key, toJson x)

def always (key : String) (j : Json) : Option (String × Json) := some (key, j)

/-- The field of a list, left out when the list is empty. -/
def nonempty {α : Type} (key : String) (toJson : α → Json) (items : List α) :
    Option (String × Json) :=
  if items.isEmpty then none else some (key, Json.ofList toJson items)

/-- The field of a map of texts, left out when the map is empty. -/
def nonemptyTexts (key : String) (m : SortedMap String String) : Option (String × Json) :=
  if m.isEmpty then none else some (key, Json.ofTexts m)

end Record

end ServiceTemplates
