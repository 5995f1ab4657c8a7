import ServiceTemplates.Pass.Basic

/-!
# Touching an instance

Raising the counter of a templated instance makes the broker look at it again. The
instance is read afresh before each attempt, and a write that meets a newer version
is tried again, five attempts in all.
-/

namespace ServiceTemplates

/-- How often a touch writes at most. -/
def maxTouchAttempts : Nat := 5

def TemplatedInstance.touched (inst : TemplatedInstance) : TemplatedInstance :=
  let spec : TemplatedInstanceSpec := inst.spec
  { inst with spec := { spec with updateRequests := spec.updateRequests + 1 } }

/-- One attempt; `refused` is what follows a refused write. -/
def touchOnce (ns name : String) (refused : Error → Pass TemplatedInstance) :
    Pass TemplatedInstance := do
  match ← Pass.fetch .templatedInstance ns name with
  | none => .fail (.notFound Kind.templatedInstance.name (ns ++ "/" ++ name))
  | some inst =>
    match ← Pass.tryUpdate (TemplatedInstance.touched inst) with
    | .ok updated => return updated
    | .error e => refused e

/-- Raises the counter of an instance, with as many attempts left after this one. -/
def touchWith (ns name : String) : (left : Nat) → Pass TemplatedInstance
  | 0 => touchOnce ns name .fail
  | left + 1 => touchOnce ns name fun e =>
    if e.isConflict then touchWith ns name left else .fail e

def touch (ns name : String) : Pass TemplatedInstance := touchWith ns name (maxTouchAttempts - 1)

end ServiceTemplates
