import Mathlib.Data.List.DropRight
import ServiceTemplates.Proofs.Text.Run
import ServiceTemplates.Text.Blank
import ServiceTemplates.Text.Numeral

/-!
# Reading numerals

A number is denoted by its decimal digits, at least one, with any number of zeros in front,
perhaps after a plus sign and with white space around. Exactly the texts that denote a number
within the range are read, and as that number. Main statement: `numeral?_trim_eq_some_iff`.
-/

namespace ServiceTemplates.Text

/-! ## Digits and a sign -/

/-- Whether characters are the decimal digits of a number. -/
structure AreDigits (digits : List Char) (n : Nat) : Prop where
  ne_nil : digits ≠ []
  isDigit : ∀ c ∈ digits, c.isDigit
  value : Nat.ofDigitChars 10 digits 0 = n

/-- Whether a text is made of the digits of a number, perhaps after a plus sign. -/
inductive IsNumeral : String → Nat → Prop
  | plain {digits n} : AreDigits digits n → IsNumeral (String.ofList digits) n
  | signed {digits n} : AreDigits digits n → IsNumeral (String.ofList ('+' :: digits)) n

/-- The reader evaluates digits as the library does. -/
theorem digitsValue_eq_ofDigitChars (digits : List Char) :
    digitsValue digits = Nat.ofDigitChars 10 digits 0 := by
  rw [Nat.ofDigitChars_eq_foldl, digitsValue]
  simp only [Nat.mul_comm]

/-- Digits have no sign to lose. -/
theorem AreDigits.unsigned_eq {digits : List Char} {n : Nat} (h : AreDigits digits n) :
    unsigned digits = digits := by
  unfold unsigned
  split
  · -- Digits do not start with a sign.
    exact absurd (h.isDigit '+' List.mem_cons_self) (by decide)
  · rfl

/-- A numeral is digits after at most one plus sign. -/
theorem isNumeral_iff {s : String} {n : Nat} : IsNumeral s n ↔ AreDigits (unsigned s.toList) n := by
  constructor
  · rintro (h | h)
    · rwa [String.toList_ofList, h.unsigned_eq]
    · rwa [String.toList_ofList]
  · intro h
    rw [← String.ofList_toList (s := s)]
    unfold unsigned at h
    split at h
    · next rest heq => exact heq ▸ .signed h
    · exact .plain h

/-- A numeral stands for one number. -/
theorem IsNumeral.unique {s : String} {m n : Nat} (hm : IsNumeral s m) (hn : IsNumeral s n) :
    m = n :=
  (isNumeral_iff.1 hm).value.symm.trans (isNumeral_iff.1 hn).value

theorem isNumeral_toString (n : Nat) : IsNumeral (toString n) n := by
  refine .plain ⟨Nat.toDigits_ne_nil, ?_, ?_⟩
  · exact fun c hc => Nat.isDigit_of_mem_toDigits (by decide) (by decide) hc
  · exact Nat.ofDigitChars_toDigits (by decide) (by decide)

/-- **The reader takes exactly the numerals below its bound.** -/
theorem numeral?_eq_some_iff {bound n : Nat} {s : String} :
    numeral? bound s = some n ↔ IsNumeral s n ∧ n < bound := by
  rw [isNumeral_iff]
  unfold numeral?
  dsimp only
  rw [digitsValue_eq_ofDigitChars]
  constructor
  · intro h
    rw [Option.ite_none_left_eq_some, Option.ite_none_right_eq_some, Option.some.injEq] at h
    obtain ⟨hread, hlt, rfl⟩ := h
    have hdigits : unsigned s.toList ≠ [] ∧ ∀ c ∈ unsigned s.toList, c.isDigit := by
      simpa using hread
    exact ⟨⟨hdigits.1, hdigits.2, rfl⟩, hlt⟩
  · rintro ⟨⟨hne, hdigits, rfl⟩, hlt⟩
    rw [if_neg, if_pos hlt]
    simpa using And.intro hne hdigits

theorem numeral?_lt {bound n : Nat} {s : String} (h : numeral? bound s = some n) : n < bound :=
  (numeral?_eq_some_iff.1 h).2

/-- A number is read back as it was written if it is within the range. -/
theorem numeral?_toString (bound n : Nat) :
    numeral? bound (toString n) = if n < bound then some n else none := by
  split
  · next hlt => exact numeral?_eq_some_iff.2 ⟨isNumeral_toString n, hlt⟩
  · next hge =>
    apply Option.eq_none_iff_forall_ne_some.2
    intro m hm
    obtain ⟨hnumeral, hlt⟩ := numeral?_eq_some_iff.1 hm
    rw [hnumeral.unique (isNumeral_toString n)] at hlt
    exact hge hlt

/-! ## White space -/

def IsBlankText (s : String) : Prop := ∀ c ∈ s.toList, isBlank c

/-- Trimming takes away white space only. -/
theorem exists_eq_append_trim (s : String) :
    ∃ before after, IsBlankText before ∧ IsBlankText after ∧ s = before ++ trim s ++ after := by
  -- White space is taken from the front, and then from the end of what is left.
  let rest := s.toList.dropWhile isBlank
  refine ⟨String.ofList (s.toList.takeWhile isBlank), String.ofList (rest.rtakeWhile isBlank),
    ?_, ?_, ?_⟩
  · intro c hc
    exact List.all_eq_true.1 List.all_takeWhile c (String.toList_ofList ▸ hc)
  · intro c hc
    exact List.mem_rtakeWhile_imp (String.toList_ofList ▸ hc)
  · have hrest : (trim s).toList = rest.rdropWhile isBlank := String.toList_ofList
    rw [← String.toList_inj, String.toList_append, String.toList_append, String.toList_ofList,
      String.toList_ofList, hrest, List.append_assoc, List.rdropWhile_append_rtakeWhile,
      List.takeWhile_append_dropWhile]

/-- White space goes where it stands around a text without any. -/
theorem trim_append {before core after : String} (hbefore : IsBlankText before)
    (hafter : IsBlankText after) (hne : core ≠ "")
    (hcore : ∀ c ∈ core.toList, isBlank c = false) :
    trim (before ++ core ++ after) = core := by
  have hnil : core.toList ≠ [] := by simpa using hne
  have hfront : (before ++ core ++ after).toList.dropWhile isBlank = core.toList ++ after.toList := by
    rw [String.toList_append, String.toList_append, List.append_assoc]
    apply dropWhile_append_of_endsRun hbefore
    intro c hc
    rw [List.head?_append_of_ne_nil _ hnil] at hc
    exact hcore c (List.mem_of_head? hc)
  have hback : (core.toList ++ after.toList).reverse.dropWhile isBlank = core.toList.reverse := by
    rw [List.reverse_append]
    apply dropWhile_append_of_endsRun
    · exact fun c hc => hafter c (List.mem_reverse.1 hc)
    · exact fun c hc => hcore c (List.mem_reverse.1 (List.mem_of_head? hc))
  rw [trim, hfront, hback, List.reverse_reverse, String.ofList_toList]

/-! ## Numerals among white space -/

theorem isBlank_of_isDigit {c : Char} (h : c.isDigit) : isBlank c = false := by
  have hrange : 48 ≤ c.toNat ∧ c.toNat ≤ 57 := Char.isDigit_iff_toNat.1 h
  simp only [isBlank, inRanges, blankRanges, List.any_cons, List.any_nil, Bool.or_false,
    Bool.or_eq_false_iff, Bool.and_eq_false_iff, decide_eq_false_iff_not]
  omega

namespace IsNumeral

variable {s : String} {n : Nat}

/-- There is no white space in a numeral. -/
theorem isBlank_eq_false (h : IsNumeral s n) : ∀ c ∈ s.toList, isBlank c = false := by
  cases h with
  | plain h =>
    rw [String.toList_ofList]
    exact fun c hc => isBlank_of_isDigit (h.isDigit c hc)
  | signed h =>
    rw [String.toList_ofList]
    refine List.forall_mem_cons.2 ⟨by decide, ?_⟩
    exact fun c hc => isBlank_of_isDigit (h.isDigit c hc)

theorem ne_empty (h : IsNumeral s n) : s ≠ "" := by
  cases h with
  | plain h => simpa using h.ne_nil
  | signed h => simp

end IsNumeral

/-- Whether a text denotes a number, perhaps with white space around it. -/
def Denotes (s : String) (n : Nat) : Prop :=
  ∃ before numeral after, IsBlankText before ∧ IsNumeral numeral n ∧ IsBlankText after ∧
    s = before ++ numeral ++ after

/-- **A text is read as the number that it denotes**, if that is within the range. -/
theorem numeral?_trim_eq_some_iff {bound n : Nat} {s : String} :
    numeral? bound (trim s) = some n ↔ Denotes s n ∧ n < bound := by
  rw [numeral?_eq_some_iff]
  apply and_congr_left'
  constructor
  · intro h
    obtain ⟨before, after, hbefore, hafter, hs⟩ := exists_eq_append_trim s
    exact ⟨before, trim s, after, hbefore, h, hafter, hs⟩
  · rintro ⟨before, numeral, after, hbefore, h, hafter, rfl⟩
    rwa [trim_append hbefore hafter h.ne_empty h.isBlank_eq_false]

end ServiceTemplates.Text
