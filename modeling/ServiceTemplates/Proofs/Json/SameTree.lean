import ServiceTemplates.Proofs.Json.Numeral
import ServiceTemplates.SortedMap.Lemmas

/-!
# When two values are the same tree

A tree may list the fields of its objects in any order. `Json.SameTree` compares trees level by
level and asks of two objects only that they bind the same keys, and each key to the same value;
numbers are compared as they are written. Main statement: `Json.sameTree_iff`, by which the same
tree is what normalising makes the same value.
-/

namespace ServiceTemplates.Json

/-- What the fields of an object bind a key to: of several under one key the last counts. -/
def bound? (key : String) (fields : List (String × Json)) : Option Json :=
  Entries.find? key fields.reverse

/-- Two values are the same tree, in whatever order their objects list the fields. -/
inductive SameTree : Json → Json → Prop
  | null : SameTree .null .null
  | bool (value : Bool) : SameTree (.bool value) (.bool value)
  | number {m n : Number} (text : m.toText = n.toText) : SameTree (.number m) (.number n)
  | string (value : String) : SameTree (.string value) (.string value)
  | array {xs ys : List Json} (lengths : xs.length = ys.length)
      (items : ∀ (i : Nat) x y, xs[i]? = some x → ys[i]? = some y → SameTree x y) :
      SameTree (.array xs) (.array ys)
  | object {fs gs : List (String × Json)}
      (keys : ∀ k, (bound? k fs).isSome = (bound? k gs).isSome)
      (values : ∀ k x y, bound? k fs = some x → bound? k gs = some y → SameTree x y) :
      SameTree (.object fs) (.object gs)

/-! ## Normal forms -/

theorem normalizeItems_eq_map (items : List Json) : normalizeItems items = items.map normalize := by
  induction items with
  | nil => rfl
  | cons x xs ih => rw [normalizeItems, ih, List.map_cons]

theorem normalizeFields_eq_map (fields : List (String × Json)) :
    normalizeFields fields = fields.map fun e => (e.1, e.2.normalize) := by
  induction fields with
  | nil => rfl
  | cons e rest ih =>
    obtain ⟨k, x⟩ := e
    rw [normalizeFields, ih, List.map_cons]

theorem mem_of_bound? {k : String} {x : Json} {fields : List (String × Json)}
    (h : bound? k fields = some x) : (k, x) ∈ fields :=
  List.mem_reverse.1 (Entries.mem_of_find? h)

/-- A normalized object binds each key to the normal form of what it was bound to. -/
theorem find?_normalizeFields (k : String) (fields : List (String × Json)) :
    Entries.find? k (Entries.ofList (normalizeFields fields)) = (bound? k fields).map normalize := by
  have hlast := SortedMap.find?_ofList (normalizeFields fields) k
  rw [normalizeFields_eq_map, ← List.map_reverse, Entries.find?_map_snd] at hlast
  rw [normalizeFields_eq_map]
  exact hlast

/-! ## The same tree has one normal form -/

theorem SameTree.normalize_eq {a b : Json} (h : SameTree a b) : a.normalize = b.normalize := by
  induction h with
  | null => rfl
  | bool value => rfl
  | number text => rw [Number.toText_injective text]
  | string value => rfl
  | @array xs ys lengths items ih =>
    rw [normalize, normalize, normalizeItems_eq_map, normalizeItems_eq_map]
    congr 1
    apply List.ext_getElem (by simpa using lengths)
    intro i hi hi'
    rw [List.length_map] at hi hi'
    rw [List.getElem_map, List.getElem_map]
    exact ih i _ _ (List.getElem?_eq_getElem hi) (List.getElem?_eq_getElem hi')
  | @object fs gs keys values ih =>
    rw [normalize, normalize]
    congr 1
    apply Entries.eq_of_find?_eq (Entries.sorted_ofList _) (Entries.sorted_ofList _)
    intro k
    rw [find?_normalizeFields, find?_normalizeFields]
    cases hf : bound? k fs with
    | none =>
      have hg : bound? k gs = none := by simpa [hf] using (keys k).symm
      rw [hg]
    | some x =>
      obtain ⟨y, hg⟩ : ∃ y, bound? k gs = some y := by
        rw [← Option.isSome_iff_exists, ← keys k, hf, Option.isSome_some]
      rw [hg, Option.map_some, Option.map_some, ih k x y hf hg]

/-! ## One normal form is of the same tree -/

mutual

theorem sameTree_of_normalize_eq : ∀ {a b : Json}, a.normalize = b.normalize → SameTree a b
  | .null, b, h => by
    cases b <;> cases h
    exact .null
  | .bool value, b, h => by
    cases b <;> cases h
    exact .bool value
  | .number n, b, h => by
    cases b <;> cases h
    exact .number rfl
  | .string value, b, h => by
    cases b <;> cases h
    exact .string value
  | .array xs, b, h => by
    cases b with
    | array ys =>
      rw [normalize, normalize, normalizeItems_eq_map, normalizeItems_eq_map] at h
      have hitems := Json.array.inj h
      apply SameTree.array
      · simpa using congrArg List.length hitems
      · intro i x y hx hy
        have hi := congrArg (·[i]?) hitems
        simp only [List.getElem?_map, hx, hy, Option.map_some, Option.some.injEq] at hi
        exact sameTree_of_mem_items xs (List.mem_of_getElem? hx) hi
    | _ => cases h
  | .object fs, b, h => by
    cases b with
    | object gs =>
      rw [normalize, normalize] at h
      have hbound (k : String) : (bound? k fs).map normalize = (bound? k gs).map normalize := by
        rw [← find?_normalizeFields, ← find?_normalizeFields, Json.object.inj h]
      apply SameTree.object
      · intro k
        simpa using congrArg Option.isSome (hbound k)
      · intro k x y hx hy
        -- What a key is bound to is among the fields, so that it is a smaller tree.
        have hk := hbound k
        rw [hx, hy, Option.map_some, Option.map_some] at hk
        exact sameTree_of_mem_fields fs (mem_of_bound? hx) (Option.some.inj hk)
    | _ => cases h

theorem sameTree_of_mem_items : ∀ (items : List Json) {x y : Json}, x ∈ items →
    x.normalize = y.normalize → SameTree x y
  | z :: zs, x, y, hx, h => by
    rcases List.mem_cons.1 hx with hx | hx
    · rw [hx] at h ⊢
      exact sameTree_of_normalize_eq h
    · exact sameTree_of_mem_items zs hx h

theorem sameTree_of_mem_fields : ∀ (fields : List (String × Json)) {k : String} {x y : Json},
    (k, x) ∈ fields → x.normalize = y.normalize → SameTree x y
  | (l, z) :: rest, k, x, y, hx, h => by
    rcases List.mem_cons.1 hx with hx | hx
    · cases hx
      exact sameTree_of_normalize_eq h
    · exact sameTree_of_mem_fields rest hx h

end

/-- **The same tree is what has the same normal form.** -/
theorem sameTree_iff {a b : Json} : SameTree a b ↔ a.normalize = b.normalize :=
  ⟨SameTree.normalize_eq, sameTree_of_normalize_eq⟩

end ServiceTemplates.Json
