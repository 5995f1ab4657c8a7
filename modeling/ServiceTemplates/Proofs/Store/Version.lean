import ServiceTemplates.Proofs.Text.Numeral
import ServiceTemplates.Store.Memory

/-!
# Versions move on

The version after a given one is another one, and so is the next. Main statements:
`nextVersion_ne` and `nextVersion_nextVersion_ne`.
-/

namespace ServiceTemplates

/-- The number of a version, where what is no number counts as zero. -/
def versionNumber (version : Option String) : Nat :=
  (version.bind (Text.numeral? 0x10000000000000000)).getD 0

theorem versionNumber_lt (version : Option String) :
    versionNumber version < 0x10000000000000000 := by
  unfold versionNumber
  cases h : version.bind (Text.numeral? 0x10000000000000000) with
  | none => decide
  | some n =>
    obtain ⟨s, -, hs⟩ := Option.bind_eq_some_iff.1 h
    exact Text.numeral?_lt hs

/-- The next version is written so that its number can be read back. -/
theorem versionNumber_nextVersion_eq_mod (current : Option String) :
    versionNumber (some (nextVersion current)) =
      (versionNumber current + 1) % 0x10000000000000000 := by
  have hlt : (versionNumber current + 1) % 0x10000000000000000 < 0x10000000000000000 :=
    Nat.mod_lt _ (by decide)
  have hread : versionNumber (some (nextVersion current)) = (Text.numeral? 0x10000000000000000
      (toString ((versionNumber current + 1) % 0x10000000000000000))).getD 0 := rfl
  rw [hread, Text.numeral?_toString, if_pos hlt]
  rfl

/-- Numbers go up by one until they are out of range, and start again then. -/
theorem versionNumber_nextVersion (current : Option String) :
    versionNumber (some (nextVersion current)) = versionNumber current + 1 ∨
      (versionNumber (some (nextVersion current)) = 0 ∧
        versionNumber current + 1 = 0x10000000000000000) := by
  have hlt := versionNumber_lt current
  rw [versionNumber_nextVersion_eq_mod]
  omega

theorem nextVersion_ne (current : Option String) : some (nextVersion current) ≠ current := by
  intro h
  have hstep := versionNumber_nextVersion current
  rw [h] at hstep
  omega

theorem nextVersion_nextVersion_ne (current : Option String) :
    some (nextVersion (some (nextVersion current))) ≠ current := by
  intro h
  have hstep := versionNumber_nextVersion current
  have hstep' := versionNumber_nextVersion (some (nextVersion current))
  rw [h] at hstep'
  omega

end ServiceTemplates
