/-!
# Maps kept in key order

Labels, renames, secret data, JSON objects and the object stores are all finite
maps whose order of enumeration is the order of their keys. The type fixes that
order: a `SortedMap` is a list of entries with strictly increasing keys, so two
maps with the same bindings are the same value (`SortedMap.ext_find?`) and
equality of maps is equality of contents.

The module has two layers. `Entries` holds the operations on bare entry lists;
JSON objects use them directly, since a JSON tree has to mention the list type
itself. `SortedMap` bundles an entry list with its order.

Main statements: `Entries.find?_insert` says what an insertion does to every
look-up and needs no order at all, and `Entries.eq_of_find?_eq` says that an
ordered list is determined by its look-ups.
-/

namespace ServiceTemplates

variable {κ : Type} {V W : Type} [Ord κ]

/-! ### Entry lists -/

namespace Entries

/-- The value of the first entry under `k`. -/
def find? (k : κ) : List (κ × V) → Option V
  | [] => none
  | (k', v) :: rest => if compare k k' = .eq then some v else find? k rest

/-- Binds `k` to `v`: an entry under `k` is replaced where it stands, a new one
goes in front of the first greater key. -/
def insert (k : κ) (v : V) : List (κ × V) → List (κ × V)
  | [] => [(k, v)]
  | (k', v') :: rest =>
    match compare k k' with
    | .lt => (k, v) :: (k', v') :: rest
    | .eq => (k, v) :: rest
    | .gt => (k', v') :: insert k v rest

def erase (k : κ) (entries : List (κ × V)) : List (κ × V) :=
  entries.filter fun e => compare k e.1 ≠ .eq

/-- Inserts the entries of a list one after another, so that of two entries under
one key the later stays. -/
def ofList (entries : List (κ × V)) : List (κ × V) :=
  entries.foldl (fun acc e => insert e.1 e.2 acc) []

/-- Keys strictly increase along the list. -/
def Sorted (entries : List (κ × V)) : Prop :=
  entries.Pairwise fun a b => compare a.1 b.1 = .lt

instance (entries : List (κ × V)) : Decidable (Sorted entries) :=
  inferInstanceAs (Decidable (List.Pairwise _ _))

@[simp] theorem find?_nil (k : κ) : find? k ([] : List (κ × V)) = none := rfl

theorem sorted_nil : Sorted ([] : List (κ × V)) := List.Pairwise.nil

/-! ### Look-up after an insertion -/

section Lawful

variable [Std.TransOrd κ] [Std.LawfulEqOrd κ]

omit [Std.TransOrd κ] in
@[simp] theorem find?_insert_self (k : κ) (v : V) :
    ∀ entries : List (κ × V), find? k (insert k v entries) = some v
  | [] => by simp [insert, find?]
  | (k', v') :: rest => by
    have ih := find?_insert_self k v rest
    simp only [insert]
    split
    · simp [find?]
    · simp [find?]
    · next h => simp [find?, h, ih]

omit [Std.TransOrd κ] in
theorem find?_insert_of_ne {k k' : κ} (h : k' ≠ k) (v : V) :
    ∀ entries : List (κ × V), find? k' (insert k v entries) = find? k' entries
  | [] => by
    have : compare k' k ≠ .eq := fun e => h (Std.LawfulEqOrd.eq_of_compare e)
    simp [insert, find?, this]
  | (k'', v'') :: rest => by
    have hne : compare k' k ≠ .eq := fun e => h (Std.LawfulEqOrd.eq_of_compare e)
    have ih := find?_insert_of_ne h v rest
    simp only [insert]
    split
    · simp [find?, hne]
    · next hk =>
      have : k = k'' := Std.LawfulEqOrd.eq_of_compare hk
      subst this
      simp [find?, hne]
    · simp [find?, ih]

omit [Std.TransOrd κ] in
theorem find?_insert [DecidableEq κ] (k k' : κ) (v : V) (entries : List (κ × V)) :
    find? k' (insert k v entries) = if k' = k then some v else find? k' entries := by
  split
  · next h => subst h; simp
  · next h => exact find?_insert_of_ne h v entries

/-! ### Order -/

omit [Std.TransOrd κ] [Std.LawfulEqOrd κ] in
theorem mem_insert {k : κ} {v : V} {e : κ × V} :
    ∀ {entries : List (κ × V)}, e ∈ insert k v entries → e = (k, v) ∨ e ∈ entries
  | [], h => by simpa [insert] using h
  | (k', v') :: rest, h => by
    simp only [insert] at h
    split at h
    · simpa using h
    · rcases List.mem_cons.1 h with h | h
      · exact Or.inl h
      · exact Or.inr (List.mem_cons_of_mem _ h)
    · rcases List.mem_cons.1 h with h | h
      · exact Or.inr (h ▸ List.mem_cons_self)
      · rcases mem_insert h with h | h
        · exact Or.inl h
        · exact Or.inr (List.mem_cons_of_mem _ h)

theorem Sorted.insert {entries : List (κ × V)} (h : Sorted entries) (k : κ) (v : V) :
    Sorted (Entries.insert k v entries) := by
  induction entries with
  | nil => exact List.pairwise_singleton ..
  | cons e rest ih =>
    obtain ⟨k', v'⟩ := e
    have ⟨hhead, htail⟩ := List.pairwise_cons.1 h
    simp only [Entries.insert]
    split
    · next hlt =>
      refine List.pairwise_cons.2 ⟨fun e he => ?_, h⟩
      rcases List.mem_cons.1 he with rfl | he
      · exact hlt
      · exact Std.TransCmp.lt_trans hlt (hhead e he)
    · next heq =>
      have : k = k' := Std.LawfulEqOrd.eq_of_compare heq
      subst this
      exact List.pairwise_cons.2 ⟨hhead, htail⟩
    · next hgt =>
      refine List.pairwise_cons.2 ⟨fun e he => ?_, ih htail⟩
      rcases mem_insert he with rfl | he
      · exact Std.OrientedCmp.lt_of_gt hgt
      · exact hhead e he

omit [Std.TransOrd κ] [Std.LawfulEqOrd κ] in
theorem Sorted.erase {entries : List (κ × V)} (h : Sorted entries) (k : κ) :
    Sorted (Entries.erase k entries) :=
  List.Pairwise.filter _ h

theorem sorted_ofList (entries : List (κ × V)) : Sorted (ofList entries) := by
  suffices ∀ acc : List (κ × V), Sorted acc →
      Sorted (entries.foldl (fun acc e => Entries.insert e.1 e.2 acc) acc) from
    this [] sorted_nil
  induction entries with
  | nil => exact fun _ h => h
  | cons e rest ih => exact fun acc h => ih _ (h.insert e.1 e.2)

omit [Std.TransOrd κ] [Std.LawfulEqOrd κ] in
/-- Below the first key of an ordered list nothing is bound. -/
theorem find?_eq_none_of_lt {k : κ} :
    ∀ {entries : List (κ × V)}, (∀ e ∈ entries, compare k e.1 = .lt) → find? k entries = none
  | [], _ => rfl
  | (k', v') :: rest, h => by
    have hk := h (k', v') List.mem_cons_self
    have ih := find?_eq_none_of_lt fun e he => h e (List.mem_cons_of_mem _ he)
    simp [find?, hk, ih]

/-- An ordered list is determined by its look-ups. -/
theorem eq_of_find?_eq :
    ∀ {left right : List (κ × V)}, Sorted left → Sorted right →
      (∀ k, find? k left = find? k right) → left = right
  | [], [], _, _, _ => rfl
  | [], (k, v) :: r, _, _, h => by simpa [find?] using h k
  | (k, v) :: l, [], _, _, h => by simpa [find?] using h k
  | (k, v) :: l, (k', v') :: r, hl, hr, h => by
    have ⟨hl0, hl1⟩ := List.pairwise_cons.1 hl
    have ⟨hr0, hr1⟩ := List.pairwise_cons.1 hr
    have hk : k = k' := by
      cases hc : compare k k' with
      | eq => exact Std.LawfulEqOrd.eq_of_compare hc
      | lt =>
        have hnone : find? k r = none :=
          find?_eq_none_of_lt fun e he => Std.TransCmp.lt_trans hc (hr0 e he)
        have := h k
        simp [find?, hc, hnone] at this
      | gt =>
        have hc' : compare k' k = .lt := Std.OrientedCmp.lt_of_gt hc
        have hnone : find? k' l = none :=
          find?_eq_none_of_lt fun e he => Std.TransCmp.lt_trans hc' (hl0 e he)
        have := h k'
        simp [find?, hc', hnone] at this
    subst hk
    have hv : v = v' := by
      have := h k
      simpa [find?] using this
    subst hv
    have htail : ∀ x, find? x l = find? x r := fun x => by
      by_cases hx : compare x k = .eq
      · have : x = k := Std.LawfulEqOrd.eq_of_compare hx
        subst this
        rw [find?_eq_none_of_lt hl0, find?_eq_none_of_lt hr0]
      · have := h x
        simpa [find?, hx] using this
    rw [eq_of_find?_eq hl1 hr1 htail]

end Lawful

end Entries

/-! ### Bundled maps -/

/-- A finite map enumerated in the order of its keys. -/
structure SortedMap (κ V : Type) [Ord κ] where
  entries : List (κ × V)
  sorted : Entries.Sorted entries
deriving DecidableEq

namespace SortedMap

def empty : SortedMap κ V := ⟨[], Entries.sorted_nil⟩

instance : EmptyCollection (SortedMap κ V) := ⟨empty⟩
instance : Inhabited (SortedMap κ V) := ⟨empty⟩

def find? (m : SortedMap κ V) (k : κ) : Option V := Entries.find? k m.entries

def contains (m : SortedMap κ V) (k : κ) : Bool := (m.find? k).isSome

def isEmpty (m : SortedMap κ V) : Bool := m.entries.isEmpty

def keys (m : SortedMap κ V) : List κ := m.entries.map (·.1)

/-- The bound values, by increasing key. -/
def values (m : SortedMap κ V) : List V := m.entries.map (·.2)

def erase (m : SortedMap κ V) (k : κ) : SortedMap κ V :=
  ⟨Entries.erase k m.entries, m.sorted.erase k⟩

@[ext] theorem ext_entries {a b : SortedMap κ V} (h : a.entries = b.entries) : a = b := by
  cases a; cases b; cases h; rfl

section Lawful

variable [Std.TransOrd κ] [Std.LawfulEqOrd κ]

/-- Binds `k` to `v`, in place of what `k` was bound to. -/
def insert (m : SortedMap κ V) (k : κ) (v : V) : SortedMap κ V :=
  ⟨Entries.insert k v m.entries, m.sorted.insert k v⟩

/-- The bindings of a list; of several under one key the last counts. -/
def ofList (entries : List (κ × V)) : SortedMap κ V :=
  ⟨Entries.ofList entries, Entries.sorted_ofList entries⟩

/-- All bindings of both maps; where both bind a key, `upper` wins. -/
def union (base upper : SortedMap κ V) : SortedMap κ V :=
  upper.entries.foldl (fun acc e => acc.insert e.1 e.2) base

/-- Two maps with the same look-ups are the same map. -/
theorem ext_find? {a b : SortedMap κ V} (h : ∀ k, a.find? k = b.find? k) : a = b :=
  ext_entries (Entries.eq_of_find?_eq a.sorted b.sorted h)

omit [Std.TransOrd κ] [Std.LawfulEqOrd κ] in
@[simp] theorem find?_empty (k : κ) : (∅ : SortedMap κ V).find? k = none := rfl

theorem find?_insert [DecidableEq κ] (m : SortedMap κ V) (k k' : κ) (v : V) :
    (m.insert k v).find? k' = if k' = k then some v else m.find? k' :=
  Entries.find?_insert k k' v m.entries

end Lawful

end SortedMap

end ServiceTemplates
