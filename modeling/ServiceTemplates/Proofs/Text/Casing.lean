import Mathlib
import ServiceTemplates.Text.LowerCase

/-!
# Words in any case

The lower-case form of a text is a word of small ASCII letters exactly if the text is that word
with some of its letters as capitals. This depends on the whole table of lower-case letters: the
Kelvin sign has the lower-case form k, and that of a capital I with a dot above starts with an i,
so words with one of these two letters are left out. Main statement: `lowerCase_eq_iff`.
-/

namespace ServiceTemplates.Text

/-- Whether a text is a word, apart from letters of it that are capitals. -/
def IsWordInAnyCase (word s : String) : Prop :=
  List.Forall₂ (fun w c => c = w ∨ c = w.toUpper) word.toList s.toList

/-! ## Capitals of ASCII -/

theorem toLower_eq_iff {w c : Char} (hw : w.toLower = w) :
    c.toLower = w ↔ c = w ∨ c = w.toUpper := by
  constructor
  · rintro rfl
    rw [Char.toUpper_toLower_eq_toUpper]
    by_cases h : c.isUpper
    · exact Or.inr (Char.toUpper_eq_of_not_isLower (Char.not_isLower_of_isUpper h)).symm
    · exact Or.inl (Char.toLower_eq_of_not_isUpper h).symm
  · rintro (rfl | rfl)
    · exact hw
    · rwa [Char.toLower_toUpper_eq_toLower]

theorem toNat_toUpper_le (w : Char) : w.toUpper.toNat ≤ w.toNat := by
  by_cases h : w.isLower
  · rw [Char.toUpper_eq_of_isLower h, Char.toNat_ofNat]
    split <;> omega
  · rw [Char.toUpper_eq_of_not_isLower h]

/-! ## Letters beyond ASCII -/

/-- Whether the lower-case form of a letter beyond ASCII can begin with `c`. -/
def IsForeign (c : Char) : Prop := 128 ≤ c.toNat ∨ c = 'i' ∨ c = 'k'

/-- No run of letters beyond ASCII leads into ASCII, except that of the Kelvin sign, and none
leads to what is no character. -/
theorem lowerCaseRuns_shift : ∀ r ∈ lowerCaseRuns,
    r.last < 128 ∨ r.first = 0x212A ∧ r.last = 0x212A ∨
      128 ≤ r.first + r.shift ∧
        (r.last + r.shift < 0xD800 ∨ 0xDFFF < r.first + r.shift ∧ r.last + r.shift < 0x110000) := by
  decide +kernel

theorem lowerCaseChar_foreign {c : Char} (hc : 128 ≤ c.toNat) :
    ∃ d rest, lowerCaseChar c = d :: rest ∧ IsForeign d := by
  by_cases hkelvin : c = Char.ofNat 0x212A
  · rw [hkelvin]
    exact ⟨'k', [], by decide +kernel, Or.inr (Or.inr rfl)⟩
  unfold lowerCaseChar
  rw [if_neg (Nat.not_lt.2 hc)]
  split
  · exact ⟨_, _, rfl, Or.inr (Or.inl rfl)⟩
  dsimp only
  split
  · next r hr =>
    refine ⟨_, _, rfl, Or.inl ?_⟩
    have hrange := List.find?_some hr
    simp only [Bool.and_eq_true, decide_eq_true_eq] at hrange
    obtain ⟨⟨hfirst, hlast⟩, -⟩ := hrange
    rcases lowerCaseRuns_shift r (List.mem_of_find?_eq_some hr) with h | ⟨h, h'⟩ | ⟨hshift, hvalid⟩
    · omega
    · -- The run of the Kelvin sign has no other letter.
      have hcode : c.toNat = 0x212A := by omega
      rw [← hcode, Char.ofNat_toNat] at hkelvin
      exact absurd rfl hkelvin
    · have hchar : (c.toNat + r.shift).toNat.isValidChar := by
        unfold Nat.isValidChar
        omega
      rw [Char.toNat_ofNat, if_pos hchar]
      omega
  · exact ⟨_, _, rfl, Or.inl hc⟩

/-! ## One step -/

theorem lowerCaseFrom_ascii {c : Char} (hc : c.toNat < 128) (before rest : List Char) :
    lowerCaseFrom before (c :: rest) = c.toLower :: lowerCaseFrom (c :: before) rest := by
  have hsigma : c ≠ 'Σ' := by
    rintro rfl
    exact absurd hc (by decide)
  have hlowered : lowerCaseChar c = [c.toLower] := if_pos hc
  rw [lowerCaseFrom, if_neg hsigma, hlowered, List.singleton_append]

theorem lowerCaseFrom_foreign {c : Char} (hc : 128 ≤ c.toNat) (before rest : List Char) :
    ∃ d ds, lowerCaseFrom before (c :: rest) = d :: ds ∧ IsForeign d := by
  rw [lowerCaseFrom]
  split
  · refine ⟨_, _, rfl, Or.inl ?_⟩
    split <;> decide
  · obtain ⟨d, ds, hlowered, hd⟩ := lowerCaseChar_foreign hc
    rw [hlowered]
    exact ⟨d, _, rfl, hd⟩

/-! ## Words -/

/-- The characters of words that no text beyond ASCII has for its lower-case form. -/
structure IsPlainSmall (w : Char) : Prop where
  ascii : w.toNat < 128
  small : w.toLower = w
  ne_i : w ≠ 'i'
  ne_k : w ≠ 'k'

instance (w : Char) : Decidable (IsPlainSmall w) :=
  decidable_of_iff (w.toNat < 128 ∧ w.toLower = w ∧ w ≠ 'i' ∧ w ≠ 'k')
    ⟨fun ⟨ha, hs, hi, hk⟩ => ⟨ha, hs, hi, hk⟩, fun ⟨ha, hs, hi, hk⟩ => ⟨ha, hs, hi, hk⟩⟩

theorem IsPlainSmall.not_isForeign {w : Char} (hw : IsPlainSmall w) : ¬ IsForeign w := by
  rintro (h | h | h)
  · exact absurd hw.ascii (Nat.not_lt.2 h)
  · exact hw.ne_i h
  · exact hw.ne_k h

theorem lowerCaseFrom_eq_iff {word : List Char} (hword : ∀ w ∈ word, IsPlainSmall w)
    (before cs : List Char) :
    lowerCaseFrom before cs = word ↔
      List.Forall₂ (fun w c => c = w ∨ c = w.toUpper) word cs := by
  -- The characters before matter to a sigma only, which no word has: they are left open.
  induction cs generalizing before word with
  | nil => rw [lowerCaseFrom, List.forall₂_nil_right_iff, eq_comm]
  | cons c rest ih =>
    by_cases hc : c.toNat < 128
    · rw [lowerCaseFrom_ascii hc]
      cases word with
      | nil => simp
      | cons w word =>
        obtain ⟨hw, hword⟩ := List.forall_mem_cons.1 hword
        rw [List.cons.injEq, List.forall₂_cons, toLower_eq_iff hw.small, ih hword]
    · -- Nothing beyond ASCII stands for a letter of the word, and no capital of it is beyond ASCII.
      obtain ⟨d, ds, hlowered, hd⟩ := lowerCaseFrom_foreign (Nat.not_lt.1 hc) before rest
      rw [hlowered]
      constructor
      · rintro rfl
        exact absurd hd (hword d List.mem_cons_self).not_isForeign
      · rintro (_ | ⟨hw, -⟩)
        have hascii := (hword _ List.mem_cons_self).ascii
        rcases hw with rfl | rfl
        · exact absurd hascii hc
        · exact absurd (Nat.lt_of_le_of_lt (toNat_toUpper_le _) hascii) hc

/-- **The lower-case form of a text is a word exactly if the text is the word in any case.** -/
theorem lowerCase_eq_iff {word : String} (hword : ∀ w ∈ word.toList, IsPlainSmall w) (s : String) :
    lowerCase s = word ↔ IsWordInAnyCase word s := by
  rw [lowerCase, ← String.toList_inj, String.toList_ofList]
  exact lowerCaseFrom_eq_iff hword [] s.toList

/-- The word k is an exception: its letter is the lower-case form of the Kelvin sign too. -/
example : lowerCase (String.ofList [Char.ofNat 0x212A]) = "k" := by decide +kernel

end ServiceTemplates.Text
