import Mathlib.Data.Nat.Cast.Order.Field
import Mathlib.Tactic.FieldSimp
import Mathlib.Tactic.NormNum
import Mathlib.Tactic.Positivity
import ServiceTemplates.Proofs.Json.Spacing

/-!
# Shortest decimals

The decimal by which a floating-point number is written is rounded to that number again: what
is picked on a grid of decimals lies in the interval of the number, and the finest of the grids
that are tried is finer than every interval is wide. Main statement: `shortest_roundsTo`.
-/

namespace ServiceTemplates.Json.Binary64

/-- The number that a decimal denotes. -/
def Decimal.value (d : Decimal) : ℚ := d.digits * 10 ^ d.power

theorem Decimal.value_carried (digits : Nat) (power : Int) :
    (Decimal.carried digits power).value = digits * 10 ^ power := by
  unfold carried value
  split
  · next hten =>
    rw [hten, zpow_add_one₀ (by norm_num)]
    push_cast
    ring
  · rfl

/-! ## Grids -/

section Grid

variable {low m high d : Nat}

/-- A power and its factors above and below the fraction bar. -/
theorem scale_factors {base : Nat} (hbase : 0 < base) (power : Int) :
    let up : Nat := if power < 0 then Nat.pow base power.natAbs else 1
    let down : Nat := if power < 0 then 1 else Nat.pow base power.natAbs
    0 < up ∧ 0 < down ∧ (up : ℚ) * (base : ℚ) ^ power = down := by
  intro up down
  have hne : (base : ℚ) ≠ 0 := by exact_mod_cast hbase.ne'
  have hpow : 0 < Nat.pow base power.natAbs := Nat.pow_pos hbase
  unfold up down
  split
  · next hneg =>
    refine ⟨hpow, Nat.one_pos, ?_⟩
    have hpower : power = -(power.natAbs : ℤ) := by omega
    rw [hpower, zpow_neg, zpow_natCast, Int.natAbs_neg, Int.natAbs_natCast]
    push_cast [Nat.pow_eq]
    exact mul_inv_cancel₀ (pow_ne_zero _ hne)
  · next hpos =>
    refine ⟨Nat.one_pos, hpow, ?_⟩
    have hpower : power = (power.natAbs : ℤ) := by omega
    rw [hpower, zpow_natCast, Int.natAbs_natCast]
    push_cast [Nat.pow_eq]
    ring

/-- Comparing a point of a grid with a quotient. -/
theorem scaled_le_iff {power : Int} (hd : 0 < d) {up down : Nat} (hup : 0 < up)
    (hscale : (up : ℚ) * 10 ^ power = down) (n k : Nat) :
    (n * up ≤ k * (d * down) ↔ (n : ℚ) / d ≤ k * 10 ^ power) ∧
      (k * (d * down) ≤ n * up ↔ k * 10 ^ power ≤ (n : ℚ) / d) := by
  have hd' : (0 : ℚ) < d := by exact_mod_cast hd
  have hup' : (0 : ℚ) < up := by exact_mod_cast hup
  have hpoint : ((k * (d * down) : Nat) : ℚ) = k * 10 ^ power * d * up := by
    push_cast
    rw [← hscale]
    ring
  have hquotient : ((n * up : Nat) : ℚ) = n * up := by push_cast; rfl
  constructor
  · rw [← Nat.cast_le (α := ℚ), hpoint, hquotient, div_le_iff₀ hd']
    exact mul_le_mul_iff_left₀ hup'
  · rw [← Nat.cast_le (α := ℚ), hpoint, hquotient, le_div_iff₀ hd']
    exact mul_le_mul_iff_left₀ hup'

/-- A grid that is finer than an interval around `v` is wide has a point in it next to `v`. -/
theorem exists_within (closed : Bool) {low v high step : ℚ} {below : Nat} (hlow : low < v)
    (hhigh : v < high) (hbelow : below * step ≤ v) (habove : v < (below + 1 : Nat) * step)
    (hfine : step < high - low) :
    Within closed low high (below * step) ∨ Within closed low high ((below + 1 : Nat) * step) := by
  have hopen : ∀ {q : ℚ}, low < q → q < high → Within closed low high q := by
    intro q hq hq'
    unfold Within
    split
    · exact ⟨hq.le, hq'.le⟩
    · exact ⟨hq, hq'⟩
  push_cast at habove ⊢
  by_cases hnear : low < below * step
  · exact Or.inl (hopen hnear (by linarith))
  · exact Or.inr (hopen (by linarith) (by linarith))

/-- A grid has two points next to `m / d`. One that lies in the interval is picked, and nothing is
picked only if neither does. -/
theorem gridPoint?_cases (low m high : Nat) (closed : Bool) (power : Int) (hd : 0 < d) : ∃ below : Nat,
    (below : ℚ) * 10 ^ power ≤ (m : ℚ) / d ∧ (m : ℚ) / d < (below + 1 : Nat) * 10 ^ power ∧
    ((∃ k : Nat, gridPoint? low m high d closed power = some k ∧
        Within closed ((low : ℚ) / d) ((high : ℚ) / d) (k * 10 ^ power)) ∨
      (gridPoint? low m high d closed power = none ∧
        ¬ Within closed ((low : ℚ) / d) ((high : ℚ) / d) (below * 10 ^ power) ∧
        ¬ Within closed ((low : ℚ) / d) ((high : ℚ) / d) ((below + 1 : Nat) * 10 ^ power))) := by
  unfold gridPoint?
  extract_lets up unit below inside rest
  obtain ⟨down, ⟨hup, hdown, hscale⟩, hunit⟩ : ∃ down : Nat,
      (0 < up ∧ 0 < down ∧ (up : ℚ) * 10 ^ power = down) ∧ unit = d * down :=
    ⟨_, scale_factors (by decide) power, rfl⟩
  have hpos : 0 < unit := hunit ▸ Nat.mul_pos hd hdown
  have hle := scaled_le_iff hd hup hscale
  rw [← hunit] at hle
  have hinside (k : Nat) :
      inside k ↔ Within closed ((low : ℚ) / d) ((high : ℚ) / d) (k * 10 ^ power) := by
    unfold Within inside
    cases closed with
    | true => simp [(hle low k).1, (hle high k).2]
    | false => simp [← not_le, (hle low k).2, (hle high k).1]
  refine ⟨below, (hle m below).2.1 (Nat.div_mul_le_self (m * up) unit), ?_, ?_⟩
  · rw [← not_le, ← (hle m (below + 1)).2, not_le]
    exact Nat.lt_mul_of_div_lt (Nat.lt_succ_self below) hpos
  · simp only [← hinside]
    split
    · next hbelow habove =>
      left
      split
      · exact ⟨below, rfl, hbelow⟩
      · split
        · exact ⟨below + 1, rfl, habove⟩
        · split
          · exact ⟨below, rfl, hbelow⟩
          · exact ⟨below + 1, rfl, habove⟩
    · next hbelow habove => exact Or.inl ⟨below, rfl, hbelow⟩
    · next hbelow habove => exact Or.inl ⟨below + 1, rfl, habove⟩
    · next hbelow habove => exact Or.inr ⟨rfl, by simp [hbelow], by simp [habove]⟩

/-- What is picked on a grid lies in the interval. -/
theorem gridPoint?_within {closed : Bool} {power : Int} (hd : 0 < d) {k : Nat}
    (h : gridPoint? low m high d closed power = some k) :
    Within closed ((low : ℚ) / d) ((high : ℚ) / d) (k * 10 ^ power) := by
  obtain ⟨below, -, -, ⟨k', hk', hwithin⟩ | ⟨hnone, -⟩⟩ :=
    gridPoint?_cases low m high closed power hd
  · obtain rfl := Option.some.inj (h.symm.trans hk')
    exact hwithin
  · rw [hnone] at h
    cases h

/-- Something is picked on a grid that is finer than the interval is wide. -/
theorem exists_gridPoint? (closed : Bool) {power : Int} (hd : 0 < d) (hlow : low < m)
    (hhigh : m < high) (hfine : (10 : ℚ) ^ power < (high : ℚ) / d - (low : ℚ) / d) :
    ∃ k, gridPoint? low m high d closed power = some k := by
  have hd' : (0 : ℚ) < d := by exact_mod_cast hd
  obtain ⟨below, hbelow, habove, ⟨k, hk, -⟩ | ⟨-, houtside, houtside'⟩⟩ :=
    gridPoint?_cases low m high closed power hd
  · exact ⟨k, hk⟩
  · have hlow' : (low : ℚ) / d < (m : ℚ) / d := by
      rw [div_lt_div_iff_of_pos_right hd']
      exact_mod_cast hlow
    have hhigh' : (m : ℚ) / d < (high : ℚ) / d := by
      rw [div_lt_div_iff_of_pos_right hd']
      exact_mod_cast hhigh
    rcases exists_within closed hlow' hhigh' hbelow habove hfine with hwithin | hwithin
    · exact absurd hwithin houtside
    · exact absurd hwithin houtside'

end Grid

/-! ## The leading digit -/

/-- A quotient is at least the power of ten of its leading digit. -/
theorem ten_zpow_leadingPower_le {num den : Nat} (hnum : 0 < num) (hden : 0 < den) :
    (10 : ℚ) ^ leadingPower num den ≤ (num : ℚ) / den := by
  have hnum' : (0 : ℚ) < num := by exact_mod_cast hnum
  have hden' : (0 : ℚ) < den := by exact_mod_cast hden
  unfold leadingPower
  split
  · next hge =>
    have hdiv : 0 < num / den := Nat.div_pos hge hden
    generalize hlen : (Nat.toDigits 10 (num / den)).length = len
    have hlen' : 0 < len := hlen ▸ Nat.length_toDigits_pos
    have hpow : 10 ^ (len - 1) ≤ num / den := by
      by_cases hone : len = 1
      · rw [hone]
        exact hdiv
      · have hlong : ¬ (Nat.toDigits 10 (num / den)).length ≤ len - 1 := by omega
        rwa [Nat.length_toDigits_le_iff (by decide) (by omega), not_lt] at hlong
    have hcast : (len : ℤ) - 1 = (len - 1 : Nat) := by omega
    rw [hcast, zpow_natCast]
    calc (10 : ℚ) ^ (len - 1) ≤ (num / den : Nat) := by exact_mod_cast hpow
      _ ≤ (num : ℚ) / den := Nat.cast_div_le
  · next hlt =>
    generalize hlen : (Nat.toDigits 10 ((den + num - 1) / num - 1)).length = len
    have hlen' : 0 < len := hlen ▸ Nat.length_toDigits_pos
    have hceil : (den + num - 1) / num - 1 < 10 ^ len :=
      (Nat.length_toDigits_le_iff (by decide) hlen').1 hlen.le
    have hpow : den ≤ 10 ^ len * num := by
      have hround : (den + num - 1) / num < 10 ^ len + 1 := by omega
      rw [Nat.div_lt_iff_lt_mul hnum, Nat.add_mul] at hround
      omega
    have htens : (0 : ℚ) < 10 ^ len := by positivity
    rw [zpow_neg, zpow_natCast, inv_le_comm₀ htens (div_pos hnum' hden'), inv_div,
      div_le_iff₀ hnum']
    exact_mod_cast hpow

/-! ## The shortest decimal -/

/-! With seventeen digits the grid is finer than any interval is wide. -/

theorem four_mul_significandAt_lt (magnitude : Nat) :
    4 * significandAt magnitude < (2 + lowerGap magnitude) * 10 ^ 16 := by
  have hsig : significandAt magnitude < 2 * hiddenBit := by
    unfold significandAt hiddenBit
    split <;> omega
  unfold lowerGap
  split
  · next hleast =>
    rw [Bool.and_eq_true, decide_eq_true_eq] at hleast
    rw [hleast.1]
    decide
  · unfold hiddenBit at hsig
    omega

theorem ten_zpow_lt_width {magnitude : Nat} {lead q : ℤ}
    (hlead : (10 : ℚ) ^ lead ≤ (4 * significandAt magnitude : Nat) * 2 ^ q) :
    (10 : ℚ) ^ (lead - (16 : Nat)) < (2 + lowerGap magnitude) * 2 ^ q := by
  have hbound : ((4 * significandAt magnitude : Nat) : ℚ) / 10 ^ 16 < 2 + lowerGap magnitude := by
    rw [div_lt_iff₀ (by norm_num)]
    exact_mod_cast four_mul_significandAt_lt magnitude
  calc (10 : ℚ) ^ (lead - (16 : Nat)) = 10 ^ lead / 10 ^ 16 := by
        rw [zpow_sub₀ (by norm_num), zpow_natCast]
    _ ≤ (4 * significandAt magnitude : Nat) * 2 ^ q / 10 ^ 16 := by gcongr
    _ = (4 * significandAt magnitude : Nat) / 10 ^ 16 * 2 ^ q := by ring
    _ < (2 + lowerGap magnitude) * 2 ^ q := mul_lt_mul_of_pos_right hbound (two_zpow_pos q)

theorem significandAt_succ_pos (magnitude : Nat) : 0 < significandAt (magnitude + 1) := by
  unfold significandAt hiddenBit
  split <;> omega

theorem lowerGap_pos (magnitude : Nat) : 0 < lowerGap magnitude ∧ lowerGap magnitude ≤ 2 := by
  unfold lowerGap
  split <;> decide

/-- **What is written is read as the number it was written for**, as far as reading is rounding to
the nearest number. -/
theorem shortest_roundsTo {x : Binary64} (hx : x.magnitude ≠ 0) :
    RoundsTo x.shortest.value x.magnitude := by
  obtain ⟨previous, hprevious⟩ := Nat.exists_eq_succ_of_ne_zero hx
  unfold shortest
  extract_lets m q up d gap low high middle lead attempts
  have hm : m = significandAt (previous + 1) := congrArg significandAt hprevious
  have hq : q = exponentAt (previous + 1) - 2 := congrArg (exponentAt · - 2) hprevious
  have hgap : gap = lowerGap (previous + 1) := congrArg lowerGap hprevious
  have hmpos : 0 < m := hm ▸ significandAt_succ_pos previous
  have hgappos : 0 < gap ∧ gap ≤ 2 := hgap ▸ lowerGap_pos _
  obtain ⟨hd, hup, hscale⟩ : 0 < d ∧ 0 < up ∧ (d : ℚ) * 2 ^ q = up := scale_factors (by decide) q
  have hd' : (d : ℚ) ≠ 0 := by exact_mod_cast hd.ne'
  have hquotient (n : Nat) : ((n * up : Nat) : ℚ) / d = n * 2 ^ q := by
    rw [Nat.cast_mul, ← hscale]
    field_simp
  have hlow : low < middle := Nat.mul_lt_mul_of_pos_right (by omega) hup
  have hhigh : middle < high := Nat.mul_lt_mul_of_pos_right (by omega) hup
  -- The ends of the interval are the midpoints next to the number.
  have hlowEnd : (low : ℚ) / d = midpoint previous := by
    rw [hquotient, Nat.cast_sub (by omega), ← lower_eq_midpoint, ← hm, ← hq, ← hgap]
    push_cast
    rfl
  have hhighEnd : (high : ℚ) / d = midpoint (previous + 1) := by
    rw [hquotient, ← upper_eq_midpoint, ← hm, ← hq]
    push_cast
    rfl
  cases hattempts : attempts with
  | some found =>
    obtain ⟨n, -, hfound⟩ := List.exists_of_findSome?_eq_some hattempts
    obtain ⟨k, hk, rfl⟩ := Option.map_eq_some_iff.1 hfound
    have hwithin := gridPoint?_within hd hk
    rw [hlowEnd, hhighEnd, ← Decimal.value_carried, hm] at hwithin
    rw [hprevious]
    exact roundsTo_of_within hwithin
  | none =>
    have hlead := ten_zpow_leadingPower_le (Nat.zero_lt_of_lt hlow) hd
    rw [hquotient, hm] at hlead
    have hfine := ten_zpow_lt_width hlead
    have hwidth : (high : ℚ) / d - (low : ℚ) / d = (2 + gap) * 2 ^ q := by
      rw [hquotient, hquotient, Nat.cast_sub (by omega)]
      push_cast
      ring
    rw [← hgap, ← hwidth] at hfine
    obtain ⟨k, hk⟩ := exists_gridPoint? (m % 2 = 0) hd hlow hhigh hfine
    have hnone := List.findSome?_eq_none_iff.1 hattempts 16 (by decide)
    rw [Option.map_eq_none_iff, hk] at hnone
    cases hnone

end ServiceTemplates.Json.Binary64
