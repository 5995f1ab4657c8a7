import ServiceTemplates.Json.Printer
import ServiceTemplates.Proofs.Json.Shortest
import ServiceTemplates.Proofs.Text.Run

/-!
# Numerals

Every number of a document is written as a numeral: a sign, digits before and after a point, and
a power of ten. A numeral is determined by its text, and a number by its numeral, so that two
numbers are written alike only if they are the same. Main statement: `Number.toText_injective`.
-/

namespace ServiceTemplates.Json

/-! ## Signs and digits -/

def sign (negative : Bool) : List Char := if negative then ['-'] else []

theorem isDigit_of_mem_toDigits {n : Nat} {c : Char} (h : c ∈ Nat.toDigits 10 n) : c.isDigit :=
  Nat.isDigit_of_mem_toDigits (by decide) (by decide) h

theorem isDigit_of_mem_zeros {n : Nat} {c : Char} (h : c ∈ List.replicate n '0') : c.isDigit := by
  rw [List.eq_of_mem_replicate h]
  decide

/-- A natural number is determined by its digits. -/
theorem toDigits_injective {m n : Nat} (h : Nat.toDigits 10 m = Nat.toDigits 10 n) : m = n := by
  have hvalue := congrArg (Nat.ofDigitChars 10 · 0) h
  rwa [Nat.ofDigitChars_toDigits (by decide) (by decide),
    Nat.ofDigitChars_toDigits (by decide) (by decide)] at hvalue

def DigitFirst (text : List Char) : Prop := ∃ c, text.head? = some c ∧ c.isDigit

theorem digitFirst_append {digits : List Char} (hne : digits ≠ [])
    (hdigits : ∀ c ∈ digits, c.isDigit) (rest : List Char) : DigitFirst (digits ++ rest) := by
  obtain ⟨c, digits, rfl⟩ := List.exists_cons_of_ne_nil hne
  exact ⟨c, rfl, hdigits c List.mem_cons_self⟩

/-- A natural number has at least one digit. -/
theorem digitFirst_toDigits (n : Nat) : DigitFirst (Nat.toDigits 10 n) := by
  have hne : Nat.toDigits 10 n ≠ [] := Nat.toDigits_ne_nil
  have hfirst := digitFirst_append hne (fun _ => isDigit_of_mem_toDigits) []
  rwa [List.append_nil] at hfirst

/-- Where a digit follows, the sign is told from it. -/
theorem sign_append_injective {negative negative' : Bool} {r r' : List Char} (hr : DigitFirst r)
    (hr' : DigitFirst r') (h : sign negative ++ r = sign negative' ++ r') :
    negative = negative' ∧ r = r' := by
  have hminus : ∀ {r r' : List Char}, DigitFirst r → r ≠ '-' :: r' := by
    rintro r r' ⟨c, hhead, hc⟩ rfl
    cases hhead
    exact absurd hc (by decide)
  cases negative with
  | false =>
    cases negative' with
    | false => exact ⟨rfl, h⟩
    | true => exact absurd h (hminus hr)
  | true =>
    cases negative' with
    | false => exact absurd h.symm (hminus hr')
    | true => exact ⟨rfl, (List.cons.inj h).2⟩

/-- An integer is written as its sign and the digits of its absolute value. -/
theorem toList_toString_int (i : Int) :
    (toString i).toList = sign (decide (i < 0)) ++ Nat.toDigits 10 i.natAbs := by
  rw [Int.toString_eq_repr, Int.repr_eq_if]
  split
  · next hpos =>
    have habs : i.toNat = i.natAbs := by omega
    rw [Nat.toList_repr, habs, decide_eq_false (by omega)]
    rfl
  · next hneg =>
    have habs : (-i).toNat = i.natAbs := by omega
    rw [String.toList_append, Nat.toList_repr, habs, decide_eq_true (by omega)]
    rfl

/-- An integer is determined by its text. -/
theorem toString_int_injective {i j : Int} (h : (toString i).toList = (toString j).toList) :
    i = j := by
  rw [toList_toString_int, toList_toString_int] at h
  obtain ⟨hsign, hdigits⟩ :=
    sign_append_injective (digitFirst_toDigits i.natAbs) (digitFirst_toDigits j.natAbs) h
  have habs := toDigits_injective hdigits
  rw [decide_eq_decide] at hsign
  omega

/-! ## Numerals -/

/-- A number as it is written. -/
structure Numeral where
  negative : Bool
  /-- The digits before the point. -/
  whole : List Char
  /-- The digits behind the point, which is left out if there are none. -/
  fraction : List Char
  /-- The power of ten. -/
  exponent : Option Int
  whole_ne_nil : whole ≠ []
  digits : ∀ c ∈ whole ++ fraction, c.isDigit

namespace Numeral

def point : List Char → List Char
  | [] => []
  | fraction => '.' :: fraction

theorem point_of_ne_nil {fraction : List Char} (h : fraction ≠ []) :
    point fraction = '.' :: fraction := by
  cases fraction with
  | nil => exact absurd rfl h
  | cons c fraction => rfl

def power : Option Int → List Char
  | none => []
  | some e => 'e' :: (toString e).toList

def text (n : Numeral) : List Char :=
  sign n.negative ++ (n.whole ++ (point n.fraction ++ power n.exponent))

/-- The absolute value that is denoted. -/
def value (n : Numeral) : ℚ :=
  Nat.ofDigitChars 10 (n.whole ++ n.fraction) 0 * 10 ^ (n.exponent.getD 0 - n.fraction.length)

variable (n : Numeral)

theorem isDigit_of_mem_whole {c : Char} (h : c ∈ n.whole) : c.isDigit :=
  n.digits c (List.mem_append_left _ h)

theorem isDigit_of_mem_fraction {c : Char} (h : c ∈ n.fraction) : c.isDigit :=
  n.digits c (List.mem_append_right _ h)

/-- A power of ten begins with its own letter, where a run of digits ends. -/
theorem endsRun_power (exponent : Option Int) : EndsRun Char.isDigit (power exponent) := by
  cases exponent with
  | none => exact endsRun_nil _
  | some e => exact endsRun_cons (by decide) _

/-- A power of ten is determined by its text. -/
theorem power_injective {e e' : Option Int} (h : power e = power e') : e = e' := by
  cases e with
  | none =>
    cases e' with
    | none => rfl
    | some e' => cases h
  | some e =>
    cases e' with
    | none => cases h
    | some e' =>
      exact congrArg some (toString_int_injective (List.cons.inj h).2)

/-- What comes after the digits before the point begins with no digit. -/
theorem endsRun_point (fraction : List Char) (exponent : Option Int) :
    EndsRun Char.isDigit (point fraction ++ power exponent) := by
  cases fraction with
  | nil => exact endsRun_power exponent
  | cons c fraction => exact endsRun_cons (by decide) _

/-- The digits behind the point and the power of ten are determined by what is written of them. -/
theorem point_power_injective {f f' : List Char} {e e' : Option Int} (hf : ∀ c ∈ f, c.isDigit)
    (hf' : ∀ c ∈ f', c.isDigit) (h : point f ++ power e = point f' ++ power e') :
    f = f' ∧ e = e' := by
  -- A point is neither the letter of a power nor the end of the text.
  have hpoint : ∀ {c rest e}, power e ≠ point (c :: rest) ++ power e' := by
    intro c rest e heq
    cases e with
    | none => cases heq
    | some e => exact absurd (List.cons.inj heq).1 (by decide)
  have hpoint' : ∀ {c rest e'}, point (c :: rest) ++ power e ≠ power e' := by
    intro c rest e' heq
    cases e' with
    | none => cases heq
    | some e => exact absurd (List.cons.inj heq).1 (by decide)
  cases f with
  | nil =>
    cases f' with
    | nil => exact ⟨rfl, power_injective h⟩
    | cons c' f' => exact absurd h hpoint
  | cons c f =>
    cases f' with
    | nil => exact absurd h hpoint'
    | cons c' f' =>
      obtain ⟨hfraction, hpower⟩ :=
        append_inj_of_endsRun hf hf' (endsRun_power e) (endsRun_power e') (List.cons.inj h).2
      exact ⟨hfraction, power_injective hpower⟩

/-- **A numeral is determined by its text.** -/
theorem text_injective {n n' : Numeral} (h : n.text = n'.text) : n = n' := by
  obtain ⟨hsign, htail⟩ := sign_append_injective
    (digitFirst_append n.whole_ne_nil (fun _ => n.isDigit_of_mem_whole) _)
    (digitFirst_append n'.whole_ne_nil (fun _ => n'.isDigit_of_mem_whole) _) h
  obtain ⟨hwhole, hrest⟩ := append_inj_of_endsRun (fun _ => n.isDigit_of_mem_whole)
    (fun _ => n'.isDigit_of_mem_whole) (endsRun_point _ _) (endsRun_point _ _) htail
  obtain ⟨hfraction, hexponent⟩ := point_power_injective (fun _ => n.isDigit_of_mem_fraction)
    (fun _ => n'.isDigit_of_mem_fraction) hrest
  cases n
  cases n'
  congr

end Numeral

/-! ## Floating-point numbers -/

namespace Binary64

/-- How a numeral lays out a decimal with a sign: as the given text, which tells it from an
integer. -/
structure Lays (negative : Bool) (s : Decimal) (text : List Char) (n : Numeral) : Prop where
  text_eq : sign negative ++ text = n.text
  negative_eq : n.negative = negative
  value_eq : n.value = s.value
  noInteger : n.fraction ≠ [] ∨ n.exponent ≠ none

section Layouts

variable {negative : Bool} {s : Decimal} {digits : List Char}

/-- Where the digits stand as they are, or behind zeros, the places of the point and the power of
ten have to come out right. -/
theorem layout_value {n : Numeral}
    (hread : Nat.ofDigitChars 10 (n.whole ++ n.fraction) 0 = s.digits)
    (hpower : n.exponent.getD 0 - n.fraction.length = s.power) : n.value = s.value := by
  rw [Numeral.value, hread, hpower, Decimal.value]

variable (hdigits : digits = Nat.toDigits 10 s.digits)
include hdigits

theorem layout_isDigit {c : Char} (hc : c ∈ digits) : c.isDigit :=
  isDigit_of_mem_toDigits (hdigits ▸ hc)

/-- The digits that are laid out denote the digits of the decimal. -/
theorem layout_read : Nat.ofDigitChars 10 digits 0 = s.digits := by
  rw [hdigits]
  exact Nat.ofDigitChars_toDigits (by decide) (by decide)

theorem layout_ne_nil : digits ≠ [] := hdigits ▸ Nat.toDigits_ne_nil

/-- An integer, with zeros behind the digits. -/
theorem exists_lays_integer (hpower : 0 ≤ s.power) : ∃ n,
    Lays negative s (digits ++ List.replicate s.power.natAbs '0' ++ ['.', '0']) n := by
  have hall : ∀ c ∈ digits ++ List.replicate s.power.natAbs '0' ++ ['0'], c.isDigit := by
    intro c hc
    rw [List.mem_append, List.mem_append, List.mem_singleton] at hc
    rcases hc with (hc | hc) | rfl
    · exact layout_isDigit hdigits hc
    · exact isDigit_of_mem_zeros hc
    · decide
  have hne : digits ++ List.replicate s.power.natAbs '0' ≠ [] := by simp [layout_ne_nil hdigits]
  refine ⟨⟨negative, _, ['0'], none, hne, hall⟩, by simp [Numeral.text, Numeral.point,
    Numeral.power], rfl, ?_, Or.inl nofun⟩
  -- The zeros behind the digits make up for the power of ten.
  have htens : (10 : ℚ) ^ s.power = 10 ^ s.power.natAbs := by
    rw [← zpow_natCast]
    congr 1
    omega
  simp only [Numeral.value, Nat.ofDigitChars_append, layout_read hdigits,
    Nat.ofDigitChars_replicate_zero, Nat.ofDigitChars_cons, Nat.ofDigitChars_nil, Decimal.value,
    htens]
  push_cast
  norm_num
  ring

/-- A point among the digits. -/
theorem exists_lays_among {point : Int} (hpoint : point = digits.length + s.power)
    (hpos : 0 < point) (hpower : s.power < 0) : ∃ n,
    Lays negative s (digits.take point.natAbs ++ '.' :: digits.drop point.natAbs) n := by
  have hwhole : digits.take point.natAbs ≠ [] := by
    rw [ne_eq, List.take_eq_nil_iff, not_or]
    exact ⟨by omega, layout_ne_nil hdigits⟩
  have hfraction : digits.drop point.natAbs ≠ [] := by
    rw [ne_eq, List.drop_eq_nil_iff]
    omega
  have hall : ∀ c ∈ digits.take point.natAbs ++ digits.drop point.natAbs, c.isDigit := by
    rw [List.take_append_drop]
    exact fun c hc => layout_isDigit hdigits hc
  refine ⟨⟨negative, _, _, none, hwhole, hall⟩, ?_, rfl, layout_value ?_ ?_, Or.inl hfraction⟩
  · rw [Numeral.text, Numeral.point_of_ne_nil hfraction]
    simp [Numeral.power]
  · rw [List.take_append_drop]
    exact layout_read hdigits
  · simp only [Option.getD_none, List.length_drop]
    omega

/-- A point before the digits. -/
theorem exists_lays_before {point : Int} (hpoint : point = digits.length + s.power)
    (hnonpos : point ≤ 0) : ∃ n,
    Lays negative s ('0' :: '.' :: List.replicate point.natAbs '0' ++ digits) n := by
  have hfraction : List.replicate point.natAbs '0' ++ digits ≠ [] := by
    simp [layout_ne_nil hdigits]
  have hall : ∀ c ∈ ['0'] ++ (List.replicate point.natAbs '0' ++ digits), c.isDigit := by
    intro c hc
    rw [List.mem_append, List.mem_append, List.mem_singleton] at hc
    rcases hc with rfl | hc | hc
    · decide
    · exact isDigit_of_mem_zeros hc
    · exact layout_isDigit hdigits hc
  refine ⟨⟨negative, ['0'], _, none, nofun, hall⟩, ?_, rfl, layout_value ?_ ?_, Or.inl hfraction⟩
  · rw [Numeral.text, Numeral.point_of_ne_nil hfraction]
    simp [Numeral.power]
  · simp [Nat.ofDigitChars_append, Nat.ofDigitChars_cons, Nat.ofDigitChars_replicate_zero,
      layout_read hdigits]
  · simp only [Option.getD_none, List.length_append, List.length_replicate]
    omega

/-- A point behind the first digit, and a power of ten. -/
theorem exists_lays_exponent {point : Int} (hpoint : point = digits.length + s.power)
    {fraction : List Char} (hfraction : fraction = Numeral.point (digits.drop 1)) : ∃ n,
    Lays negative s (digits.take 1 ++ fraction ++ 'e' :: (toString (point - 1)).toList) n := by
  have hne := layout_ne_nil hdigits
  have hlen : 0 < digits.length := List.length_pos_iff.2 hne
  have hwhole : digits.take 1 ≠ [] := by
    rw [ne_eq, List.take_eq_nil_iff, not_or]
    exact ⟨by decide, hne⟩
  have hall : ∀ c ∈ digits.take 1 ++ digits.drop 1, c.isDigit := by
    rw [List.take_append_drop]
    exact fun c hc => layout_isDigit hdigits hc
  refine ⟨⟨negative, _, _, some (point - 1), hwhole, hall⟩, ?_, rfl, layout_value ?_ ?_,
    Or.inr nofun⟩
  · simp [Numeral.text, Numeral.power, hfraction]
  · rw [List.take_append_drop]
    exact layout_read hdigits
  · simp only [Option.getD_some, List.length_drop]
    omega

end Layouts

/-- Every number but zero is written as its shortest decimal in one of the layouts. -/
theorem exists_lays {x : Binary64} (hx : x.magnitude ≠ 0) : ∃ text n,
    x.toText.toList = sign x.negative ++ text ∧ Lays x.negative x.shortest text n := by
  unfold toText
  extract_lets minus s digits point zeros fraction text
  have hminus : minus.toList = sign x.negative := by
    unfold minus sign
    split <;> rfl
  rw [if_neg hx, String.toList_append, String.toList_ofList, hminus]
  suffices hlays : ∃ n, Lays x.negative s text n by
    obtain ⟨n, hn⟩ := hlays
    exact ⟨text, n, rfl, hn⟩
  -- The layouts are tried in the order of the printer.
  unfold text
  split
  · next hinteger =>
    rw [Bool.and_eq_true, decide_eq_true_eq, decide_eq_true_eq] at hinteger
    exact exists_lays_integer rfl hinteger.1
  · split
    · next hinteger hamong =>
      rw [Bool.and_eq_true, decide_eq_true_eq, decide_eq_true_eq] at hinteger hamong
      exact exists_lays_among rfl rfl hamong.1 (by omega)
    · split
      · next hbefore =>
        rw [Bool.and_eq_true, decide_eq_true_eq, decide_eq_true_eq] at hbefore
        exact exists_lays_before rfl rfl hbefore.2
      · apply exists_lays_exponent rfl rfl
        unfold fraction
        cases digits.drop 1 <;> rfl

/-- How a numeral stands for a floating-point number: it has its sign, is rounded to it and is
told from an integer. -/
structure Spells (x : Binary64) (n : Numeral) : Prop where
  text_eq : x.toText.toList = n.text
  negative_eq : n.negative = x.negative
  rounds : RoundsTo n.value x.magnitude
  noInteger : n.fraction ≠ [] ∨ n.exponent ≠ none

/-- **A floating-point number is written as a numeral that is rounded to it.** -/
theorem exists_spells (x : Binary64) : ∃ n, Spells x n := by
  by_cases hx : x.magnitude = 0
  · have hall : ∀ c ∈ ['0'] ++ ['0'], c.isDigit := fun _ => isDigit_of_mem_zeros (n := 2)
    let n : Numeral := ⟨x.negative, ['0'], ['0'], none, nofun, hall⟩
    have hzero : n.value = 0 := zero_mul _
    refine ⟨n, ?_, rfl, ?_, Or.inl nofun⟩
    · unfold toText
      dsimp only
      rw [if_pos hx, String.toList_append]
      cases hneg : x.negative <;> simp [n, hneg, Numeral.text, sign, Numeral.point, Numeral.power]
    · rw [hx, hzero]
      exact roundsTo_zero
  · obtain ⟨text, n, htext, hlays⟩ := exists_lays hx
    refine ⟨n, htext.trans hlays.text_eq, hlays.negative_eq, ?_, hlays.noInteger⟩
    rw [hlays.value_eq]
    exact shortest_roundsTo hx

end Binary64

/-! ## Numbers -/

namespace Number

/-- An integer is written as a numeral without point and power of ten. -/
theorem int_spelled (i : Int) : ∃ n : Numeral, (Number.int i).toText.toList = n.text ∧
    n.fraction = [] ∧ n.exponent = none := by
  have hall : ∀ c ∈ Nat.toDigits 10 i.natAbs ++ [], c.isDigit := by
    rw [List.append_nil]
    exact fun _ => isDigit_of_mem_toDigits
  refine ⟨⟨decide (i < 0), _, [], none, Nat.toDigits_ne_nil, hall⟩, ?_, rfl, rfl⟩
  rw [toText, toList_toString_int]
  simp [Numeral.text, Numeral.point, Numeral.power]

/-- Every number is written as a numeral. -/
theorem exists_numeral (n : Number) : ∃ m : Numeral, n.toText.toList = m.text := by
  cases n with
  | int i =>
    obtain ⟨m, htext, -⟩ := int_spelled i
    exact ⟨m, htext⟩
  | float x =>
    obtain ⟨m, hm⟩ := x.exists_spells
    exact ⟨m, hm.text_eq⟩

/-- No integer is written like a floating-point number. -/
theorem int_ne_float (i : Int) (x : Binary64) :
    (Number.int i).toText ≠ (Number.float x).toText := by
  intro h
  obtain ⟨m, hm, hfraction, hexponent⟩ := int_spelled i
  obtain ⟨m', hm'⟩ := x.exists_spells
  have htext : m.text = m'.text := by
    rw [← hm, ← hm'.text_eq, h]
    rfl
  obtain rfl := Numeral.text_injective htext
  rcases hm'.noInteger with hpoint | hpower
  · exact hpoint hfraction
  · exact hpower hexponent

/-- **Two numbers are written alike only if they are the same.** -/
theorem toText_injective {m n : Number} (h : m.toText = n.toText) : m = n := by
  cases m with
  | int i =>
    cases n with
    | int j => rw [toString_int_injective (congrArg String.toList h)]
    | float y => exact absurd h (int_ne_float i y)
  | float x =>
    cases n with
    | int j => exact absurd h.symm (int_ne_float j x)
    | float y =>
      obtain ⟨m, hm⟩ := x.exists_spells
      obtain ⟨n, hn⟩ := y.exists_spells
      have htext : m.text = n.text := by
        rw [← hm.text_eq, ← hn.text_eq]
        exact congrArg String.toList h
      obtain rfl := Numeral.text_injective htext
      -- The same numeral is rounded to both magnitudes, and rounding gives one number.
      obtain ⟨negative, magnitude, finite⟩ := x
      obtain ⟨negative', magnitude', finite'⟩ := y
      obtain rfl : negative = negative' := hm.negative_eq.symm.trans hn.negative_eq
      obtain rfl : magnitude = magnitude' := hm.rounds.unique hn.rounds
      rfl

end Number

end ServiceTemplates.Json
