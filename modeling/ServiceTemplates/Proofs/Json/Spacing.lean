import Mathlib.Algebra.Order.Field.Power
import Mathlib.Data.Rat.Cast.Order
import Mathlib.Tactic.Linarith
import Mathlib.Tactic.LinearCombination
import Mathlib.Tactic.Ring
import ServiceTemplates.Json.Binary64

/-!
# Floating-point numbers on the rational line

The absolute values of the finite numbers in increasing order, the midpoints between neighbours,
and the rationals that are rounded to a number: those between the midpoints on either side of
it, a midpoint itself going to the even neighbour. Main statement: `RoundsTo.unique`, a rational
is rounded to one number at most.
-/

namespace ServiceTemplates.Json.Binary64

/-- The absolute value at a position. -/
def valueAt (magnitude : Nat) : ℚ := significandAt magnitude * 2 ^ exponentAt magnitude

def midpoint (magnitude : Nat) : ℚ := (valueAt magnitude + valueAt (magnitude + 1)) / 2

/-- Whether the number at a position is the nearest to `q`, a tie going to the even one. -/
structure RoundsTo (q : ℚ) (magnitude : Nat) : Prop where
  above : ∀ below, magnitude = below + 1 →
    midpoint below < q ∨ midpoint below = q ∧ Even magnitude
  under : q < midpoint magnitude ∨ q = midpoint magnitude ∧ Even magnitude

/-! ## Neighbours -/

/-- Between neighbours the significand goes up by one, or the exponent does: after the greatest
significand comes the least one that is not subnormal. -/
theorem succ_cases (magnitude : Nat) :
    (significandAt (magnitude + 1) = significandAt magnitude + 1 ∧
      exponentAt (magnitude + 1) = exponentAt magnitude ∧
      (significandAt (magnitude + 1) = hiddenBit → exponentAt (magnitude + 1) = -1074)) ∨
    (significandAt magnitude + 1 = 2 * hiddenBit ∧ significandAt (magnitude + 1) = hiddenBit ∧
      exponentAt (magnitude + 1) = exponentAt magnitude + 1 ∧
      -1074 < exponentAt (magnitude + 1)) := by
  unfold significandAt exponentAt hiddenBit
  split <;> split <;> omega

theorem two_zpow_succ (e : ℤ) : (2 : ℚ) ^ (e + 1) = 2 ^ e * 2 := zpow_add_one₀ two_ne_zero e

theorem two_zpow_eq_quarters (e : ℤ) : (2 : ℚ) ^ e = 4 * 2 ^ (e - 2) := by
  rw [zpow_sub₀ two_ne_zero]
  ring

theorem two_zpow_pos (e : ℤ) : (0 : ℚ) < 2 ^ e := zpow_pos two_pos e

/-- The next value is one unit of the last bit away. -/
theorem valueAt_succ (magnitude : Nat) :
    valueAt (magnitude + 1) = valueAt magnitude + 2 ^ exponentAt magnitude := by
  unfold valueAt
  rcases succ_cases magnitude with ⟨hm, he, -⟩ | ⟨hlast, hm, he, -⟩
  · rw [hm, he]
    push_cast
    ring
  · have hlast' : (significandAt magnitude : ℚ) + 1 = 2 * hiddenBit := by exact_mod_cast hlast
    rw [hm, he, two_zpow_succ]
    linear_combination (-(2 : ℚ) ^ exponentAt magnitude) * hlast'

theorem valueAt_lt_succ (magnitude : Nat) : valueAt magnitude < valueAt (magnitude + 1) := by
  rw [valueAt_succ]
  exact lt_add_of_pos_right _ (two_zpow_pos _)

/-- Values grow with their magnitudes. -/
theorem valueAt_strictMono : StrictMono valueAt := strictMono_nat_of_lt_succ valueAt_lt_succ

/-- So do the midpoints between them. -/
theorem midpoint_strictMono : StrictMono midpoint := by
  apply strictMono_nat_of_lt_succ
  intro magnitude
  have hvalues := valueAt_strictMono (show magnitude < magnitude + 1 + 1 by omega)
  unfold midpoint
  linarith

/-- A tie goes to the even significand, which is the even magnitude. -/
theorem even_significandAt_iff (magnitude : Nat) :
    Even (significandAt magnitude) ↔ Even magnitude := by
  unfold significandAt hiddenBit
  rw [Nat.even_iff, Nat.even_iff]
  split <;> omega

/-! ## The ends of an interval -/

/-- The upper end of the interval of a number is the midpoint to the next one. -/
theorem upper_eq_midpoint (magnitude : Nat) :
    (4 * significandAt magnitude + 2) * (2 : ℚ) ^ (exponentAt magnitude - 2) =
      midpoint magnitude := by
  have hquarters := two_zpow_eq_quarters (exponentAt magnitude)
  rw [midpoint, valueAt_succ, valueAt]
  linear_combination (-(significandAt magnitude : ℚ) - 1 / 2) * hquarters

/-- Below a power of two the numbers lie twice as close. -/
def lowerGap (magnitude : Nat) : Nat :=
  if significandAt magnitude = hiddenBit && exponentAt magnitude > -1074 then 1 else 2

/-- The lower end is the midpoint from the one before, also where the spacing changes. -/
theorem lower_eq_midpoint (magnitude : Nat) :
    (4 * significandAt (magnitude + 1) - lowerGap (magnitude + 1)) *
      (2 : ℚ) ^ (exponentAt (magnitude + 1) - 2) = midpoint magnitude := by
  have hquarters := two_zpow_eq_quarters (exponentAt (magnitude + 1))
  rw [midpoint, valueAt_succ, valueAt]
  rcases succ_cases magnitude with ⟨hm, he, hleast⟩ | ⟨hlast, hm, he, hnormal⟩
  · have hgap : lowerGap (magnitude + 1) = 2 := by
      unfold lowerGap
      rw [if_neg]
      simp only [Bool.and_eq_true, decide_eq_true_eq, not_and]
      intro hhidden
      rw [hleast hhidden]
      omega
    rw [he] at hquarters
    rw [hgap, hm, he]
    push_cast
    linear_combination (-(significandAt magnitude : ℚ) - 1 / 2) * hquarters
  · have hgap : lowerGap (magnitude + 1) = 1 := by
      unfold lowerGap
      rw [if_pos]
      simp only [Bool.and_eq_true, decide_eq_true_eq]
      exact ⟨hm, hnormal⟩
    have hlast' : (significandAt magnitude : ℚ) = 2 * hiddenBit - 1 := by
      rw [eq_sub_iff_add_eq]
      exact_mod_cast hlast
    have hhalf : (2 : ℚ) ^ exponentAt (magnitude + 1) = 2 * 2 ^ exponentAt magnitude := by
      rw [he, two_zpow_succ]
      ring
    rw [hgap, hm, hlast']
    push_cast
    linear_combination (hiddenBit - 1 / 4 : ℚ) * (hhalf - hquarters)

/-! ## Rounding -/

/-- Whether `q` lies between two bounds, which count themselves iff `closed`. -/
def Within (closed : Bool) (low high q : ℚ) : Prop :=
  if closed then low ≤ q ∧ q ≤ high else low < q ∧ q < high

/-- What lies between the midpoints is rounded to the number between them. -/
theorem roundsTo_of_within {q : ℚ} {magnitude : Nat}
    (h : Within (significandAt (magnitude + 1) % 2 = 0) (midpoint magnitude)
      (midpoint (magnitude + 1)) q) : RoundsTo q (magnitude + 1) := by
  by_cases heven : significandAt (magnitude + 1) % 2 = 0
  · rw [Within, if_pos (decide_eq_true heven)] at h
    have hposition := (even_significandAt_iff _).1 (Nat.even_iff.2 heven)
    refine ⟨?_, ?_⟩
    · rintro below ⟨⟩
      exact h.1.lt_or_eq.imp_right fun heq => ⟨heq, hposition⟩
    · exact h.2.lt_or_eq.imp_right fun heq => ⟨heq, hposition⟩
  · rw [Within, if_neg (by simpa using heven)] at h
    refine ⟨?_, Or.inl h.2⟩
    rintro below ⟨⟩
    exact Or.inl h.1

/-- Zero is rounded to zero. -/
theorem roundsTo_zero : RoundsTo 0 0 where
  above _ h := nomatch h
  under := by
    have hpos : 0 < midpoint 0 := by
      rw [← upper_eq_midpoint]
      have := two_zpow_pos (exponentAt 0 - 2)
      positivity
    exact Or.inl hpos

namespace RoundsTo

variable {q : ℚ} {a b : Nat}

/-- Nothing is rounded to two numbers. -/
theorem not_lt (ha : RoundsTo q a) (hb : RoundsTo q b) : ¬ a < b := by
  intro hlt
  obtain ⟨c, rfl⟩ := Nat.exists_eq_succ_of_ne_zero (Nat.ne_zero_of_lt hlt)
  have hmid : midpoint a ≤ midpoint c := midpoint_strictMono.monotone (Nat.lt_succ_iff.1 hlt)
  rcases ha.under, hb.above c rfl with ⟨hlow | ⟨hlow, heven⟩, hhigh | ⟨hhigh, heven'⟩⟩
  · linarith
  · linarith
  · linarith
  · -- A midpoint has two neighbours, one of which is odd.
    have hac : a = c := midpoint_strictMono.injective (hlow.symm.trans hhigh.symm)
    rw [hac] at heven
    exact Nat.even_add_one.1 heven' heven

/-- **A rational is rounded to one number at most.** -/
theorem unique (ha : RoundsTo q a) (hb : RoundsTo q b) : a = b := by
  apply le_antisymm
  · exact Nat.not_lt.1 (not_lt hb ha)
  · exact Nat.not_lt.1 (not_lt ha hb)

end RoundsTo

end ServiceTemplates.Json.Binary64
