import ServiceTemplates.Json.Parser
import ServiceTemplates.Proofs.Json.Numeral

/-!
# What the text of a value says of it

A text between quotes is read back by the reader, and the text of a value shows where it ends, so
that a value is determined by its text. Main statements: `readText?_quoted`,
`chars_append_injective` and `render_injective`.
-/

namespace ServiceTemplates.Json

/-! ## Texts -/

/-- A hexadecimal digit is read as its value. -/
theorem hexValue?_hexDigit {n : Nat} (h : n < 16) : hexValue? (hexDigit n) = some n := by
  have hall : ∀ k : Fin 16, hexValue? (hexDigit k) = some (k : Nat) := by decide
  exact hall ⟨n, h⟩

/-- The escaped form of a control character is read as that character. -/
theorem readEscapedUnit?_control {c : Char} (h : c.toNat < 32) (rest : List Char) :
    readEscapedUnit? ('0' :: '0' :: hexDigit (c.toNat / 16) :: hexDigit (c.toNat % 16) :: rest) =
      some (c, rest) := by
  have hzero : hexValue? '0' = some 0 := rfl
  have hhigh := hexValue?_hexDigit (show c.toNat / 16 < 16 by omega)
  have hlow := hexValue?_hexDigit (show c.toNat % 16 < 16 by omega)
  have hunit : ((0 * 16 + 0) * 16 + c.toNat / 16) * 16 + c.toNat % 16 = c.toNat := by omega
  simp only [readEscapedUnit?, readUnit?, hzero, hhigh, hlow, Option.bind_eq_bind,
    Option.bind_some, Option.pure_def, hunit]
  rw [if_neg (by omega), if_neg (by omega), Char.ofNat_toNat]

/-- What stands for a character is read as that character. -/
theorem readText?_escape (steps : Nat) (acc : List Char) (c : Char) (rest : List Char) :
    readText? (steps + 1) acc (escape c ++ rest) = readText? steps (c :: acc) rest := by
  unfold escape
  split
  · next h => rw [h]; rfl
  split
  · next h => rw [h]; rfl
  split
  · next h => rw [h]; rfl
  split
  · next h => rw [h]; rfl
  split
  · next h => rw [h]; rfl
  split
  · next h => rw [h]; rfl
  split
  · next h => rw [h]; rfl
  split
  · next h =>
    simp only [List.cons_append, List.nil_append, readText?, readEscape?,
      readEscapedUnit?_control h, Option.bind_eq_bind, Option.bind_some]
  · next hquote hbackslash _ _ _ _ _ hcontrol =>
    rw [List.singleton_append, readText?, if_neg hcontrol]
    · exact hquote
    · exact hbackslash

/-- **A text between quotes is read back**, whatever follows. -/
theorem readText?_quoted (steps : Nat) (text acc rest : List Char) :
    readText? (steps + 1 + text.length) acc (text.flatMap escape ++ '"' :: rest) =
      some (String.ofList (acc.reverse ++ text), rest) := by
  induction text generalizing acc with
  | nil => simp [readText?]
  | cons c text ih =>
    rw [List.flatMap_cons, List.append_assoc, List.length_cons, ← Nat.add_assoc,
      readText?_escape, ih]
    simp

/-- A quoted text shows where it ends. -/
theorem quoted_append_injective {s t : String} {r r' : List Char}
    (h : quoted s ++ r = quoted t ++ r') : s = t ∧ r = r' := by
  -- Both texts are read with the same number of steps, which is enough for either.
  have hread (s : String) (steps : Nat) (r : List Char) :
      readText? (steps + 1 + s.toList.length) [] (quoted s ++ r).tail = some (s, r) := by
    have hquoted := readText?_quoted steps s.toList [] r
    rw [List.reverse_nil, List.nil_append, String.ofList_toList] at hquoted
    rw [← hquoted, quoted]
    simp
  have hs := hread s t.toList.length r
  have ht := hread t s.toList.length r'
  have hsteps : t.toList.length + 1 + s.toList.length = s.toList.length + 1 + t.toList.length := by
    omega
  rw [h, hsteps, ht] at hs
  obtain ⟨rfl, rfl⟩ := Prod.mk.inj (Option.some.inj hs)
  exact ⟨rfl, rfl⟩

/-! ## Numbers -/

def isNumberChar (c : Char) : Bool := c.isDigit || c = '-' || c = '.' || c = 'e'

theorem isNumberChar_of_isDigit {c : Char} (h : c.isDigit) : isNumberChar c := by
  simp [isNumberChar, h]

/-- A numeral has nothing but digits, signs, a point and the letter of a power. -/
theorem Numeral.isNumberChar_of_mem_text (n : Numeral) {c : Char} (h : c ∈ n.text) :
    isNumberChar c := by
  have hsign : ∀ {negative : Bool}, c ∈ sign negative → isNumberChar c := by
    intro negative hc
    cases negative with
    | false => cases hc
    | true => rw [List.mem_singleton.1 hc]; decide
  simp only [text, List.mem_append] at h
  -- In the sign, before the point, behind it, or in the power of ten.
  rcases h with hc | hc | hc | hc
  · exact hsign hc
  · exact isNumberChar_of_isDigit (n.isDigit_of_mem_whole hc)
  · cases hfraction : n.fraction with
    | nil =>
      rw [hfraction] at hc
      cases hc
    | cons d fraction =>
      rw [hfraction] at hc
      rcases List.mem_cons.1 hc with rfl | hc
      · decide
      · exact isNumberChar_of_isDigit (n.isDigit_of_mem_fraction (hfraction ▸ hc))
  · cases hexponent : n.exponent with
    | none =>
      rw [hexponent] at hc
      cases hc
    | some e =>
      rw [hexponent] at hc
      rcases List.mem_cons.1 hc with rfl | hc
      · decide
      · rw [toList_toString_int, List.mem_append] at hc
        rcases hc with hc | hc
        · exact hsign hc
        · exact isNumberChar_of_isDigit (isDigit_of_mem_toDigits hc)

/-- So has every number. -/
theorem Number.isNumberChar_of_mem_toText (n : Number) {c : Char} (h : c ∈ n.toText.toList) :
    isNumberChar c := by
  obtain ⟨m, hm⟩ := n.exists_numeral
  exact m.isNumberChar_of_mem_text (hm ▸ h)

theorem Number.toText_ne_nil (n : Number) : n.toText.toList ≠ [] := by
  obtain ⟨m, hm⟩ := n.exists_numeral
  rw [hm, Numeral.text]
  simp [m.whole_ne_nil]

/-! ## Values -/

inductive Shape where
  | null | bool | number | string | array | object
deriving DecidableEq

/-- The kind of value that begins with a character. -/
def Shape.ofChar? (c : Char) : Option Shape :=
  if isNumberChar c then some .number
  else if c = 'n' then some .null
  else if c = 't' || c = 'f' then some .bool
  else if c = '"' then some .string
  else if c = '[' then some .array
  else if c = '\x7b' then some .object
  else none

def shape : Json → Shape
  | .null => .null
  | .bool _ => .bool
  | .number _ => .number
  | .string _ => .string
  | .array _ => .array
  | .object _ => .object

/-- The first character of a value's text says what kind of value it is. -/
theorem chars_first (j : Json) :
    ∃ c rest, j.chars = c :: rest ∧ Shape.ofChar? c = some j.shape := by
  cases j with
  | null => exact ⟨'n', _, rfl, rfl⟩
  | bool value =>
    cases value with
    | false => exact ⟨'f', _, rfl, rfl⟩
    | true => exact ⟨'t', _, rfl, rfl⟩
  | number n =>
    obtain ⟨c, rest, htext⟩ := List.exists_cons_of_ne_nil n.toText_ne_nil
    have hc := n.isNumberChar_of_mem_toText (htext ▸ List.mem_cons_self)
    exact ⟨c, rest, htext, if_pos hc⟩
  | string s => exact ⟨'"', _, rfl, rfl⟩
  | array items => exact ⟨'[', _, rfl, rfl⟩
  | object fields => exact ⟨'\x7b', _, rfl, rfl⟩

/-- Values that begin alike are of one kind. -/
theorem shape_eq_of_chars {a b : Json} {r r' : List Char} (h : a.chars ++ r = b.chars ++ r') :
    a.shape = b.shape := by
  obtain ⟨c, rest, ha, hc⟩ := a.chars_first
  obtain ⟨c', rest', hb, hc'⟩ := b.chars_first
  rw [ha, hb] at h
  rw [(List.cons.inj h).1, hc'] at hc
  exact (Option.some.inj hc).symm

/-- No value begins with a closing bracket. -/
theorem chars_ne_of_shapeless {j : Json} {c : Char} (hc : Shape.ofChar? c = none)
    {r r' : List Char} : j.chars ++ r ≠ c :: r' := by
  intro h
  obtain ⟨c', rest, hj, hc'⟩ := j.chars_first
  rw [hj] at h
  rw [(List.cons.inj h).1, hc] at hc'
  cases hc'

/-- Whether what follows a value cannot go on with a number. -/
abbrev Closes (rest : List Char) : Prop := EndsRun isNumberChar rest

/-- What follows an item of an array, closing bracket included. -/
def itemTail : List Json → List Char
  | [] => [']']
  | x :: rest => ',' :: itemChars (x :: rest)

theorem itemChars_cons (x : Json) (rest : List Json) :
    itemChars (x :: rest) = x.chars ++ itemTail rest := by
  cases rest <;> rfl

/-- What follows an item cannot go on with a number. -/
theorem closes_itemTail (items : List Json) (r : List Char) : Closes (itemTail items ++ r) := by
  cases items with
  | nil => exact endsRun_cons rfl _
  | cons x rest => exact endsRun_cons rfl _

/-- What follows a field of an object, closing brace included. -/
def fieldTail : List (String × Json) → List Char
  | [] => ['\x7d']
  | e :: rest => ',' :: fieldChars (e :: rest)

theorem fieldChars_cons (k : String) (x : Json) (rest : List (String × Json)) :
    fieldChars ((k, x) :: rest) = quoted k ++ ':' :: (x.chars ++ fieldTail rest) := by
  cases rest with
  | nil => simp [fieldChars, fieldTail]
  | cons e rest => simp [fieldChars, fieldTail]

/-- What follows a field cannot either. -/
theorem closes_fieldTail (fields : List (String × Json)) (r : List Char) :
    Closes (fieldTail fields ++ r) := by
  cases fields with
  | nil => exact endsRun_cons rfl _
  | cons e rest => exact endsRun_cons rfl _

mutual

/-- **The text of a value shows what the value is and where it ends.** -/
theorem chars_append_injective : ∀ {a b : Json} {r r' : List Char}, Closes r → Closes r' →
    a.chars ++ r = b.chars ++ r' → a = b ∧ r = r'
  | .null, b, r, r', _, _, h => by
    cases b <;> cases shape_eq_of_chars h
    exact ⟨rfl, List.append_cancel_left h⟩
  | .bool x, b, r, r', _, _, h => by
    cases b <;> cases shape_eq_of_chars h
    next y =>
      cases x <;> cases y
      · exact ⟨rfl, List.append_cancel_left h⟩
      · cases (List.cons.inj h).1
      · cases (List.cons.inj h).1
      · exact ⟨rfl, List.append_cancel_left h⟩
  | .number m, b, r, r', hr, hr', h => by
    cases b <;> cases shape_eq_of_chars h
    next n =>
      obtain ⟨htext, hrest⟩ := append_inj_of_endsRun (fun _ => m.isNumberChar_of_mem_toText)
        (fun _ => n.isNumberChar_of_mem_toText) hr hr' h
      rw [Number.toText_injective (String.toList_inj.1 htext)]
      exact ⟨rfl, hrest⟩
  | .string s, b, r, r', _, _, h => by
    cases b <;> cases shape_eq_of_chars h
    next t =>
      obtain ⟨rfl, hrest⟩ := quoted_append_injective h
      exact ⟨rfl, hrest⟩
  | .array items, b, r, r', _, _, h => by
    cases b <;> cases shape_eq_of_chars h
    next items' =>
      obtain ⟨rfl, hrest⟩ := itemChars_append_injective (List.cons.inj h).2
      exact ⟨rfl, hrest⟩
  | .object fields, b, r, r', _, _, h => by
    cases b <;> cases shape_eq_of_chars h
    next fields' =>
      obtain ⟨rfl, hrest⟩ := fieldChars_append_injective (List.cons.inj h).2
      exact ⟨rfl, hrest⟩

/-- The items of an array are told apart one by one. -/
theorem itemChars_append_injective : ∀ {a b : List Json} {r r' : List Char},
    itemChars a ++ r = itemChars b ++ r' → a = b ∧ r = r'
  | [], [], _, _, h => ⟨rfl, List.append_cancel_left h⟩
  | [], y :: ys, r, r', h => by
    rw [itemChars_cons, List.append_assoc] at h
    exact absurd h.symm (chars_ne_of_shapeless rfl)
  | x :: xs, [], r, r', h => by
    rw [itemChars_cons, List.append_assoc] at h
    exact absurd h (chars_ne_of_shapeless rfl)
  | x :: xs, y :: ys, r, r', h => by
    rw [itemChars_cons, itemChars_cons, List.append_assoc, List.append_assoc] at h
    obtain ⟨rfl, htail⟩ := chars_append_injective (closes_itemTail xs r) (closes_itemTail ys r') h
    cases xs with
    | nil =>
      cases ys with
      | nil => exact ⟨rfl, List.append_cancel_left htail⟩
      | cons y ys => cases (List.cons.inj htail).1
    | cons x' xs =>
      cases ys with
      | nil => cases (List.cons.inj htail).1
      | cons y ys =>
        obtain ⟨hitems, hrest⟩ := itemChars_append_injective (List.cons.inj htail).2
        rw [hitems]
        exact ⟨rfl, hrest⟩

/-- So are the fields of an object, each by its key first. -/
theorem fieldChars_append_injective : ∀ {a b : List (String × Json)} {r r' : List Char},
    fieldChars a ++ r = fieldChars b ++ r' → a = b ∧ r = r'
  | [], [], _, _, h => ⟨rfl, List.append_cancel_left h⟩
  | [], (l, y) :: ys, r, r', h => by
    rw [fieldChars_cons, List.append_assoc] at h
    cases (List.cons.inj h).1
  | (k, x) :: xs, [], r, r', h => by
    rw [fieldChars_cons, List.append_assoc] at h
    cases (List.cons.inj h).1
  | (k, x) :: xs, (l, y) :: ys, r, r', h => by
    rw [fieldChars_cons, fieldChars_cons, List.append_assoc, List.append_assoc, List.cons_append,
      List.cons_append, List.append_assoc, List.append_assoc] at h
    obtain ⟨rfl, hvalue⟩ := quoted_append_injective h
    obtain ⟨rfl, htail⟩ := chars_append_injective (closes_fieldTail xs r) (closes_fieldTail ys r')
      (List.cons.inj hvalue).2
    cases xs with
    | nil =>
      cases ys with
      | nil => exact ⟨rfl, List.append_cancel_left htail⟩
      | cons y ys => cases (List.cons.inj htail).1
    | cons x' xs =>
      cases ys with
      | nil => cases (List.cons.inj htail).1
      | cons y ys =>
        obtain ⟨hfields, hrest⟩ := fieldChars_append_injective (List.cons.inj htail).2
        rw [hfields]
        exact ⟨rfl, hrest⟩

end

/-- **A value is determined by its text.** -/
theorem render_injective {a b : Json} (h : a.render = b.render) : a = b := by
  have hchars : a.chars ++ [] = b.chars ++ [] := by
    rw [List.append_nil, List.append_nil]
    exact String.ofList_injective h
  exact (chars_append_injective (endsRun_nil _) (endsRun_nil _) hchars).1

end ServiceTemplates.Json
