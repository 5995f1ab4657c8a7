import ServiceTemplates.Reconcile.Requeue

/-!
# Agendas

An agenda says which objects are to be looked at, and when. Each object is on it at
most once, with the earliest time that was asked for; of two objects that are due at
the same time, the one that was put down first comes first.
-/

namespace ServiceTemplates

structure Item where
  queue : QueueKind
  key : ObjectKey
deriving DecidableEq, Inhabited

/-- Objects with the times at which they are due. -/
abbrev Agenda := List (Nat × Item)

namespace Agenda

def remove (a : Agenda) (item : Item) : Agenda := a.filter fun e => e.2 ≠ item

def due? (a : Agenda) (item : Item) : Option Nat := (a.find? fun e => e.2 = item).map (·.1)

/-- The agenda on which an item is due at a time at the latest. -/
def schedule (a : Agenda) (time : Nat) (item : Item) : Agenda :=
  match a.due? item with
  | none => a ++ [(time, item)]
  | some due => if due ≤ time then a else a.remove item ++ [(time, item)]

/-- The item that is due first. -/
def next? : Agenda → Option (Nat × Item)
  | [] => none
  | e :: rest =>
    match next? rest with
    | none => some e
    | some f => if e.1 ≤ f.1 then some e else some f

end Agenda

end ServiceTemplates
