import ServiceTemplates.SortedMap

/-!
# Look-ups in derived maps

What erasing a key, building from a list and uniting two maps do to look-ups. Main
statements: `SortedMap.find?_erase`, `SortedMap.find?_ofList` and
`SortedMap.find?_union`; `SortedMap.mem_entries_iff` turns a look-up into membership.
-/

namespace ServiceTemplates

variable {κ : Type} {V : Type} [Ord κ] [Std.TransOrd κ] [Std.LawfulEqOrd κ]

/-! ### Entry lists -/

namespace Entries

omit [Std.TransOrd κ] in
theorem find?_cons_of_ne {k k' : κ} (h : k ≠ k') (v : V) (rest : List (κ × V)) :
    find? k ((k', v) :: rest) = find? k rest := by
  have : compare k k' ≠ .eq := fun e => h (Std.LawfulEqOrd.eq_of_compare e)
  simp [find?, this]

omit [Std.TransOrd κ] in
@[simp] theorem find?_cons_self (k : κ) (v : V) (rest : List (κ × V)) :
    find? k ((k, v) :: rest) = some v := by
  simp [find?]

omit [Std.TransOrd κ] in
/-- An erased key is gone, and no other. -/
theorem find?_erase [DecidableEq κ] (k k' : κ) (entries : List (κ × V)) :
    find? k' (erase k entries) = if k' = k then none else find? k' entries := by
  induction entries with
  | nil => simp [erase]
  | cons e rest ih =>
    obtain ⟨x, v⟩ := e
    have ih : find? k' (rest.filter fun e => compare k e.1 ≠ .eq) = _ := ih
    by_cases hx : compare k x = .eq
    · obtain rfl : k = x := Std.LawfulEqOrd.eq_of_compare hx
      rw [erase, List.filter_cons_of_neg (by simp), ih]
      by_cases hk : k' = k
      · simp [hk]
      · rw [find?_cons_of_ne hk]
    · rw [erase, List.filter_cons_of_pos (by simpa using hx)]
      by_cases hk : k' = x
      · subst hk
        have : k' ≠ k := fun e => hx (e ▸ Std.ReflCmp.compare_self)
        simp [this]
      · rw [find?_cons_of_ne hk, find?_cons_of_ne hk, ih]

omit [Std.TransOrd κ] [Std.LawfulEqOrd κ] in
/-- The first list goes before the second. -/
theorem find?_append (k : κ) (left right : List (κ × V)) :
    find? k (left ++ right) = (find? k left).or (find? k right) := by
  induction left with
  | nil => rfl
  | cons e rest ih =>
    obtain ⟨x, v⟩ := e
    by_cases hx : compare k x = .eq
    · simp [find?, hx]
    · simp [find?, hx, ih]

omit [Std.TransOrd κ] [Std.LawfulEqOrd κ] in
theorem find?_map_snd {W : Type} (f : V → W) (k : κ) (entries : List (κ × V)) :
    find? k (entries.map fun e => (e.1, f e.2)) = (find? k entries).map f := by
  induction entries with
  | nil => rfl
  | cons e rest ih =>
    obtain ⟨x, v⟩ := e
    by_cases hx : compare k x = .eq
    · simp [find?, hx]
    · simp [find?, hx, ih]

omit [Std.TransOrd κ] in
/-- After the insertion of some entries the last one under a key counts, then what was
there before. -/
theorem find?_foldl_insert [DecidableEq κ] (k : κ) (entries acc : List (κ × V)) :
    find? k (entries.foldl (fun acc e => insert e.1 e.2 acc) acc)
      = (find? k entries.reverse).or (find? k acc) := by
  induction entries generalizing acc with
  | nil => rfl
  | cons e rest ih =>
    obtain ⟨x, v⟩ := e
    rw [List.foldl_cons, ih, List.reverse_cons, find?_append, Option.or_assoc, find?_insert]
    by_cases hk : k = x
    · simp [hk]
    · rw [if_neg hk, find?_cons_of_ne hk]
      rfl

omit [Std.TransOrd κ] in
/-- A key that has an entry is found. -/
theorem find?_isSome_of_mem {k : κ} {v : V} {entries : List (κ × V)} (h : (k, v) ∈ entries) :
    (find? k entries).isSome := by
  induction entries with
  | nil => simp at h
  | cons e rest ih =>
    obtain ⟨x, w⟩ := e
    rcases List.mem_cons.1 h with he | he
    · cases he
      simp
    · by_cases hx : compare k x = .eq
      · simp [find?, hx]
      · simpa [find?, hx] using ih he

omit [Std.TransOrd κ] in
/-- What is found is among the entries. -/
theorem mem_of_find? {k : κ} {v : V} {entries : List (κ × V)} (h : find? k entries = some v) :
    (k, v) ∈ entries := by
  induction entries with
  | nil => simp at h
  | cons e rest ih =>
    obtain ⟨x, w⟩ := e
    by_cases hx : compare k x = .eq
    · obtain rfl : k = x := Std.LawfulEqOrd.eq_of_compare hx
      simp_all
    · exact List.mem_cons_of_mem _ (ih (by simpa [find?, hx] using h))

omit [Std.TransOrd κ] in
/-- In an ordered list each key stands once, so that every entry is found. -/
theorem Sorted.find?_of_mem {entries : List (κ × V)} (hs : Sorted entries) {k : κ} {v : V}
    (h : (k, v) ∈ entries) : find? k entries = some v := by
  induction entries with
  | nil => simp at h
  | cons e rest ih =>
    obtain ⟨x, w⟩ := e
    have ⟨hhead, htail⟩ := List.pairwise_cons.1 hs
    rcases List.mem_cons.1 h with he | he
    · cases he
      simp
    · have hne : k ≠ x := by
        rintro rfl
        have := hhead (k, v) he
        simp at this
      rw [find?_cons_of_ne hne, ih htail he]

omit [Std.TransOrd κ] in
/-- An ordered list read from its end gives the same look-ups. -/
theorem Sorted.find?_reverse {entries : List (κ × V)} (hs : Sorted entries) (k : κ) :
    find? k entries.reverse = find? k entries := by
  cases h : find? k entries with
  | some v =>
    have hmem : (k, v) ∈ entries.reverse := List.mem_reverse.2 (mem_of_find? h)
    obtain ⟨w, hw⟩ := Option.isSome_iff_exists.1 (find?_isSome_of_mem hmem)
    have := hs.find?_of_mem (List.mem_reverse.1 (mem_of_find? hw))
    rw [hw, ← this, h]
  | none =>
    cases hr : find? k entries.reverse with
    | none => rfl
    | some w =>
      have := find?_isSome_of_mem (List.mem_reverse.1 (mem_of_find? hr))
      simp [h] at this

end Entries

/-! ### Maps -/

namespace SortedMap

omit [Std.TransOrd κ] in
theorem find?_erase [DecidableEq κ] (m : SortedMap κ V) (k k' : κ) :
    (m.erase k).find? k' = if k' = k then none else m.find? k' :=
  Entries.find?_erase k k' m.entries

/-- Of several entries with one key the last one counts. -/
theorem find?_ofList [DecidableEq κ] (entries : List (κ × V)) (k : κ) :
    (ofList entries).find? k = Entries.find? k entries.reverse := by
  show Entries.find? k (entries.foldl (fun acc e => Entries.insert e.1 e.2 acc) []) = _
  rw [Entries.find?_foldl_insert]
  simp

theorem entries_foldl_insert (base : SortedMap κ V) (upper : List (κ × V)) :
    (upper.foldl (fun acc e => acc.insert e.1 e.2) base).entries
      = upper.foldl (fun acc e => Entries.insert e.1 e.2 acc) base.entries := by
  induction upper generalizing base with
  | nil => rfl
  | cons e rest ih => exact ih (base.insert e.1 e.2)

/-- **A union shows the upper map, and the base where that has nothing.** -/
theorem find?_union [DecidableEq κ] (base upper : SortedMap κ V) (k : κ) :
    (base.union upper).find? k = (upper.find? k).or (base.find? k) := by
  show Entries.find? k (base.union upper).entries = _
  rw [union, entries_foldl_insert, Entries.find?_foldl_insert, upper.sorted.find?_reverse]
  rfl

omit [Std.TransOrd κ] in
/-- The entries of a map are what is found in it. -/
theorem mem_entries_iff {m : SortedMap κ V} {k : κ} {v : V} :
    (k, v) ∈ m.entries ↔ m.find? k = some v :=
  ⟨m.sorted.find?_of_mem, Entries.mem_of_find?⟩

end SortedMap

end ServiceTemplates
