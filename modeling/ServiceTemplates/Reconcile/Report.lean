import ServiceTemplates.Ownership
import ServiceTemplates.Pass.Basic
import ServiceTemplates.Store.Key

/-!
# What passes have in common

How a pass reads its key, and what it does when it finds a provisioned object that
something else controls: such an object is counted, warned about and left alone.
-/

namespace ServiceTemplates

/-- Namespace and name of a key; a malformed key is no failure but nothing to do. -/
def wellFormedKey? (key : String) : Option (String × String) := (splitKey key).toOption

/-- The cause given in a warning about an object under another controller. -/
def unmanagedReason : String := "ErrUnmanagedResource"

/-- Ends the pass because `provisioned` is not controlled by `templated`. -/
def rejectUnmanaged {k l : Kind} {α : Type} (templated : Object k) (provisioned : Object l) :
    Pass α := do
  Pass.count (.unmanagedConflicts l)
  let cause := Error.unmanagedResource l.name provisioned.nsOrEmpty provisioned.displayName
  Pass.warn templated.reference unmanagedReason (cause.message?.getD "")
  .fail cause

/-- Writes the observed state of `obj`. If the object is gone by now, there is nothing
to record and the object stands as it was to be written. -/
def recordStatus {k : Kind} (obj : Object k) : Pass (Object k) := do
  match ← .tryUpdateStatus obj with
  | .ok written => return written
  | .error e => if e.isNotFound then return obj else .fail e

end ServiceTemplates
