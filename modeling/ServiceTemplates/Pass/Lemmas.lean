import ServiceTemplates.Pass.Run

/-!
# Running composed passes

How the run of a composed pass follows from the runs of its parts. Main statement:
`Pass.run_bind`, a pass that goes on with another runs the other from where the first
one stopped, or ends with its failure.
-/

namespace ServiceTemplates.Pass

variable {α β σ : Type} (answer : Answerer σ)

@[simp] theorem run_pure (a : α) (s : σ) : (pure a : Pass α).run answer s = (.ok a, s) := rfl

@[simp] theorem run_fail (e : Error) (s : σ) : (fail e : Pass α).run answer s = (.error e, s) := rfl

@[simp] theorem run_ofExcept (result : Except Error α) (s : σ) :
    (ofExcept result).run answer s = (result, s) := rfl

@[simp] theorem run_request (r : Request) (s : σ) :
    (request r).run answer s = (.ok (answer r s).1, (answer r s).2) := rfl

@[simp] theorem run_attempt (r : Request) (reply : r.Reply → Except Error α) (s : σ) :
    (attempt r reply).run answer s = (reply (answer r s).1, (answer r s).2) := rfl

/-- A pass that goes on with another runs the other from where the first one stopped. -/
theorem run_bind (p : Pass α) (f : α → Pass β) (s : σ) :
    (p >>= f).run answer s =
      match p.run answer s with
      | (.ok a, s) => (f a).run answer s
      | (.error e, s) => (.error e, s) := by
  show (p.bind f).run answer s = _
  induction p generalizing s with
  | done result => cases result <;> rfl
  | ask r next ih => exact ih (answer r s).1 (answer r s).2

/-- A pass with its failure as a result ends the same way and never fails. -/
theorem run_outcome (p : Pass α) (s : σ) :
    p.outcome.run answer s = (.ok (p.run answer s).1, (p.run answer s).2) := by
  induction p generalizing s with
  | done result => rfl
  | ask r next ih => exact ih (answer r s).1 (answer r s).2

end ServiceTemplates.Pass
