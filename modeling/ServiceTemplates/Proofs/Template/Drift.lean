import ServiceTemplates.Proofs.Json.SameTree
import ServiceTemplates.Proofs.Json.Text
import ServiceTemplates.Template.Merge

/-!
# Drift of parameters

Parameters are compared by their text. The text of a document determines it and is never empty,
so that the comparison is exact: parameters are written alike if and only if they are the same,
and absent ones are not like any document. Main statements: `sameParameters_iff`, and
`sameParameters_exact`, which says level by level which documents are the same.
-/

namespace ServiceTemplates

theorem Json.render_ne_empty (j : Json) : j.render ≠ "" := by
  intro h
  obtain ⟨c, rest, hchars, -⟩ := j.chars_first
  have htext := congrArg String.toList h
  rw [Json.render, String.toList_ofList, hchars] at htext
  cases htext

theorem parameterText_injective {a b : Option Document} (h : parameterText a = parameterText b) :
    a = b := by
  cases a with
  | none =>
    cases b with
    | none => rfl
    | some b => exact absurd h.symm (Json.render_ne_empty b.json)
  | some a =>
    cases b with
    | none => exact absurd h (Json.render_ne_empty a.json)
    | some b => exact congrArg some (Document.ext_json (Json.render_injective h))

/-- **The comparison by text is exact.** -/
theorem sameParameters_iff {a b : Option Document} : sameParameters a b ↔ a = b := by
  rw [sameParameters, beq_iff_eq]
  exact ⟨parameterText_injective, congrArg parameterText⟩

/-! ## The documents that are the same -/

theorem Document.ofJson_eq_iff {x y : Json} : ofJson x = ofJson y ↔ x.SameTree y := by
  rw [Document.ext_json_iff, Json.sameTree_iff]
  rfl

theorem Document.eq_iff_sameTree {x y : Document} : x = y ↔ x.json.SameTree y.json := by
  rw [← ofJson_eq_iff, ofJson_json, ofJson_json]

/-- **Parameters are like others exactly when both are absent or both are the same tree**, and
the order in which the fields of an object were given makes no difference. -/
theorem sameParameters_exact :
    (∀ a b : Option Document, sameParameters a b ↔
      (a = none ∧ b = none) ∨ ∃ x y, a = some x ∧ b = some y ∧ x.json.SameTree y.json) ∧
    ∀ x y : Json, sameParameters (some (.ofJson x)) (some (.ofJson y)) ↔ x.SameTree y := by
  constructor
  · intro a b
    rw [sameParameters_iff]
    cases a with
    | none => cases b <;> simp
    | some x =>
      cases b with
      | none => simp
      | some y => simp [← Document.eq_iff_sameTree]
  · intro x y
    rw [sameParameters_iff, Option.some.injEq, Document.ofJson_eq_iff]

/-- Absent parameters are not like a present null. -/
example : sameParameters none (some (.ofJson .null)) = false := by decide

end ServiceTemplates
