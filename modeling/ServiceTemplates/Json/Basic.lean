import ServiceTemplates.SortedMap
import ServiceTemplates.Json.Binary64

/-!
# JSON values

The tree of a JSON document. An object is a list of fields; the trees that the
library builds and reads keep the fields in key order, each key once, and
`Json.Canonical` says so at every level of a tree. A `Document` is a canonical
tree, the form in which parameter documents are held, so that two documents with
the same contents are the same value.

An integer of 64 bits and a floating-point number are different values even where
they denote the same number, since they are written differently.

Traversals of a tree go by structural recursion, with a companion for the list of
items and one for the list of fields; `normalize_canonical` and
`normalize_eq_self` say that normalising makes a tree canonical and leaves a
canonical tree alone.
-/

namespace ServiceTemplates

namespace Json

/-- A JSON number: an integer of 64 bits, signed or not, or else a
floating-point number. -/
inductive Number where
  | int (value : Int)
  | float (value : Binary64)
deriving DecidableEq

/-- Equality of numbers as values: the two floating zeros are equal, an integer
never equals a floating-point number. -/
def Number.sameValue : Number → Number → Bool
  | .int a, .int b => a == b
  | .float a, .float b => a.sameValue b
  | _, _ => false

end Json

/-- A JSON value. -/
inductive Json where
  | null
  | bool (value : Bool)
  | number (value : Json.Number)
  | string (value : String)
  | array (items : List Json)
  | object (fields : List (String × Json))
deriving Inhabited

namespace Json

def ofInt (n : Int) : Json := .number (.int n)

def ofNat (n : Nat) : Json := .number (.int n)

/-- A list of values as a JSON array. -/
def ofList {α : Type} (toJson : α → Json) (items : List α) : Json :=
  .array (items.map toJson)

/-- A value that may be absent, written as null when it is. -/
def ofOption {α : Type} (toJson : α → Json) : Option α → Json
  | none => .null
  | some x => toJson x

/-- An object with the given fields, in key order. -/
def ofFields (fields : List (String × Json)) : Json := .object (Entries.ofList fields)

/-- An object with those of the given fields that are present, in key order. -/
def ofPresent (fields : List (Option (String × Json))) : Json :=
  ofFields (fields.filterMap id)

def ofTexts (m : SortedMap String String) : Json :=
  .object (m.entries.map fun e => (e.1, .string e.2))

def fields? : Json → Option (List (String × Json))
  | .object fields => some fields
  | _ => none

def field? (key : String) : Json → Option Json
  | .object fields => Entries.find? key fields
  | _ => none

def text? : Json → Option String
  | .string s => some s
  | _ => none

/-! ### Equality -/

mutual

def decEq : (a b : Json) → Decidable (a = b)
  | .null, b => by
    cases b with
    | null => exact isTrue rfl
    | _ => exact isFalse nofun
  | .bool x, b => by
    cases b with
    | bool y =>
      exact if h : x = y then isTrue (by rw [h]) else isFalse fun e => h (by injection e)
    | _ => exact isFalse nofun
  | .number x, b => by
    cases b with
    | number y =>
      exact if h : x = y then isTrue (by rw [h]) else isFalse fun e => h (by injection e)
    | _ => exact isFalse nofun
  | .string x, b => by
    cases b with
    | string y =>
      exact if h : x = y then isTrue (by rw [h]) else isFalse fun e => h (by injection e)
    | _ => exact isFalse nofun
  | .array x, b => by
    cases b with
    | array y =>
      exact match decEqItems x y with
        | isTrue h => isTrue (by rw [h])
        | isFalse h => isFalse fun e => h (by injection e)
    | _ => exact isFalse nofun
  | .object x, b => by
    cases b with
    | object y =>
      exact match decEqFields x y with
        | isTrue h => isTrue (by rw [h])
        | isFalse h => isFalse fun e => h (by injection e)
    | _ => exact isFalse nofun

def decEqItems : (a b : List Json) → Decidable (a = b)
  | [], [] => isTrue rfl
  | [], _ :: _ => isFalse nofun
  | _ :: _, [] => isFalse nofun
  | x :: xs, y :: ys =>
    match decEq x y, decEqItems xs ys with
    | isTrue h, isTrue h' => isTrue (by rw [h, h'])
    | isFalse h, _ => isFalse fun e => h (by injection e)
    | _, isFalse h => isFalse fun e => h (by injection e)

def decEqFields : (a b : List (String × Json)) → Decidable (a = b)
  | [], [] => isTrue rfl
  | [], _ :: _ => isFalse nofun
  | _ :: _, [] => isFalse nofun
  | (k, x) :: xs, (l, y) :: ys =>
    match decEq x y, decEqFields xs ys with
    | isTrue h, isTrue h' =>
      if hk : k = l then isTrue (by rw [h, h', hk])
      else isFalse fun e => hk (by injection e with e _; injection e)
    | isFalse h, _ => isFalse fun e => h (by injection e with e _; injection e)
    | _, isFalse h => isFalse fun e => h (by injection e)

end

instance : DecidableEq Json := decEq

mutual

/-- Equality of documents as values: like equality of trees, the floating zeros
being equal. -/
def sameValue : Json → Json → Bool
  | .null, .null => true
  | .bool a, .bool b => a == b
  | .number a, .number b => a.sameValue b
  | .string a, .string b => a == b
  | .array a, .array b => sameItems a b
  | .object a, .object b => sameFields a b
  | _, _ => false

def sameItems : List Json → List Json → Bool
  | [], [] => true
  | a :: as, b :: bs => sameValue a b && sameItems as bs
  | _, _ => false

def sameFields : List (String × Json) → List (String × Json) → Bool
  | [], [] => true
  | (k, a) :: as, (l, b) :: bs => k == l && sameValue a b && sameFields as bs
  | _, _ => false

end

/-! ### Canonical trees -/

mutual

/-- Every object of the tree lists its fields in key order, each key once. -/
def Canonical : Json → Prop
  | .array items => CanonicalItems items
  | .object fields => Entries.Sorted fields ∧ CanonicalFields fields
  | _ => True

def CanonicalItems : List Json → Prop
  | [] => True
  | x :: xs => Canonical x ∧ CanonicalItems xs

def CanonicalFields : List (String × Json) → Prop
  | [] => True
  | (_, x) :: xs => Canonical x ∧ CanonicalFields xs

end

mutual

/-- The tree with the fields of every object in key order; of several fields under
one key the last stays. -/
def normalize : Json → Json
  | .array items => .array (normalizeItems items)
  | .object fields => .object (Entries.ofList (normalizeFields fields))
  | other => other

def normalizeItems : List Json → List Json
  | [] => []
  | x :: xs => normalize x :: normalizeItems xs

def normalizeFields : List (String × Json) → List (String × Json)
  | [] => []
  | (k, x) :: xs => (k, normalize x) :: normalizeFields xs

end

theorem canonicalFields_iff :
    ∀ fields : List (String × Json), CanonicalFields fields ↔ ∀ e ∈ fields, Canonical e.2
  | [] => by simp [CanonicalFields]
  | (k, x) :: xs => by
    simp [CanonicalFields, canonicalFields_iff xs]

theorem CanonicalFields.insert {fields : List (String × Json)} (h : CanonicalFields fields)
    (k : String) {v : Json} (hv : Canonical v) : CanonicalFields (Entries.insert k v fields) := by
  rw [canonicalFields_iff] at h ⊢
  intro e he
  rcases Entries.mem_insert he with rfl | he
  · exact hv
  · exact h e he

theorem CanonicalFields.ofList {fields : List (String × Json)} (h : CanonicalFields fields) :
    CanonicalFields (Entries.ofList fields) := by
  suffices ∀ acc : List (String × Json), CanonicalFields acc →
      CanonicalFields (fields.foldl (fun acc e => Entries.insert e.1 e.2 acc) acc) from
    this [] (by simp [CanonicalFields])
  induction fields with
  | nil => exact fun _ h => h
  | cons e rest ih =>
    obtain ⟨hv, hrest⟩ := h
    exact fun acc hacc => ih hrest _ (hacc.insert e.1 hv)

mutual

theorem normalize_canonical : ∀ j : Json, (normalize j).Canonical
  | .null => by simp [normalize, Canonical]
  | .bool _ => by simp [normalize, Canonical]
  | .number _ => by simp [normalize, Canonical]
  | .string _ => by simp [normalize, Canonical]
  | .array items => by
    simpa [normalize, Canonical] using normalizeItems_canonical items
  | .object fields => by
    simp only [normalize, Canonical]
    exact ⟨Entries.sorted_ofList _, (normalizeFields_canonical fields).ofList⟩

theorem normalizeItems_canonical : ∀ items : List Json, CanonicalItems (normalizeItems items)
  | [] => by simp [normalizeItems, CanonicalItems]
  | x :: xs => by
    simpa [normalizeItems, CanonicalItems] using
      ⟨normalize_canonical x, normalizeItems_canonical xs⟩

theorem normalizeFields_canonical :
    ∀ fields : List (String × Json), CanonicalFields (normalizeFields fields)
  | [] => by simp [normalizeFields, CanonicalFields]
  | (_, x) :: xs => by
    simpa [normalizeFields, CanonicalFields] using
      ⟨normalize_canonical x, normalizeFields_canonical xs⟩

end

end Json

/-- Lists of entries that are already in order are rebuilt unchanged. -/
theorem Entries.ofList_eq_self {V : Type} {entries : List (String × V)}
    (h : Entries.Sorted entries) : Entries.ofList entries = entries := by
  suffices ∀ acc : List (String × V), Entries.Sorted (acc ++ entries) →
      entries.foldl (fun acc e => Entries.insert e.1 e.2 acc) acc = acc ++ entries from
    this [] h
  clear h
  induction entries with
  | nil => intro acc _; simp
  | cons e rest ih =>
    intro acc hs
    have happ : Entries.insert e.1 e.2 acc = acc ++ [e] := by
      have hlt : ∀ a ∈ acc, compare a.1 e.1 = .lt := fun a ha =>
        (List.pairwise_append.1 hs).2.2 a ha e List.mem_cons_self
      clear hs ih
      induction acc with
      | nil => rfl
      | cons a acc ih =>
        have ha := hlt a List.mem_cons_self
        have hgt : compare e.1 a.1 = .gt := Std.OrientedCmp.gt_of_lt ha
        simp only [Entries.insert, hgt, List.cons_append]
        rw [ih fun b hb => hlt b (List.mem_cons_of_mem _ hb)]
    rw [List.foldl_cons, happ, ih (acc ++ [e]) (by simpa using hs)]
    simp

namespace Json

mutual

/-- A canonical tree is its own normal form. -/
theorem normalize_eq_self : ∀ {j : Json}, j.Canonical → normalize j = j
  | .null, _ => rfl
  | .bool _, _ => rfl
  | .number _, _ => rfl
  | .string _, _ => rfl
  | .array items, h => by
    simp only [Canonical] at h
    rw [normalize, normalizeItems_eq_self h]
  | .object fields, h => by
    simp only [Canonical] at h
    rw [normalize, normalizeFields_eq_self h.2, Entries.ofList_eq_self h.1]

theorem normalizeItems_eq_self :
    ∀ {items : List Json}, CanonicalItems items → normalizeItems items = items
  | [], _ => rfl
  | x :: xs, h => by
    simp only [CanonicalItems] at h
    rw [normalizeItems, normalize_eq_self h.1, normalizeItems_eq_self h.2]

theorem normalizeFields_eq_self :
    ∀ {fields : List (String × Json)}, CanonicalFields fields → normalizeFields fields = fields
  | [], _ => rfl
  | (_, x) :: xs, h => by
    simp only [CanonicalFields] at h
    rw [normalizeFields, normalize_eq_self h.1, normalizeFields_eq_self h.2]

end

end Json

/-! ### Documents -/

/-- A JSON document, held in canonical form. -/
structure Document where
  json : Json
  /-- Every object of the tree is in key order. -/
  canonical : json.Canonical
deriving DecidableEq

namespace Document

/-- The document that a tree denotes. -/
def ofJson (j : Json) : Document := ⟨j.normalize, Json.normalize_canonical j⟩

def sameValue (a b : Document) : Bool := a.json.sameValue b.json

@[ext] theorem ext_json {a b : Document} (h : a.json = b.json) : a = b := by
  cases a; cases b; cases h; rfl

theorem ofJson_json (d : Document) : ofJson d.json = d :=
  ext_json (Json.normalize_eq_self d.canonical)

end Document

end ServiceTemplates
