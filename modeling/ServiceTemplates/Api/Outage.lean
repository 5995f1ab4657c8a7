import ServiceTemplates.Error

/-!
# Outages

Requests that the API server refuses for a while. An outage refuses the next requests
of one verb on one kind of resource, a given number of them, with one answer. While a
kind cannot be listed, its watch is started again and again after growing delays.
-/

namespace ServiceTemplates

/-- What a request does with resources. -/
inductive Verb where
  | get
  | list
  | watch
  | create
  | update
  | patch
deriving DecidableEq, Inhabited

/-- Requests that are going to be refused. -/
structure Outage where
  verb : Verb
  resource : String
  answer : ApiStatus
  times : Nat
deriving DecidableEq, Inhabited

namespace Outage

def refuses (o : Outage) (verb : Verb) (resource : String) : Bool :=
  o.verb == verb && o.resource == resource && 0 < o.times

/-- The answer by which a request is refused, if it is, and the outages that are left. -/
def take? (verb : Verb) (resource : String) : List Outage → Option (ApiStatus × List Outage)
  | [] => none
  | o :: rest =>
    if o.refuses verb resource then some (o.answer, { o with times := o.times - 1 } :: rest)
    else (take? verb resource rest).map fun (answer, left) => (answer, o :: left)

def count (verb : Verb) (resource : String) (outages : List Outage) : Nat :=
  ((outages.filter (·.refuses verb resource)).map Outage.times).foldl Nat.add 0

/-- How long a watch takes to start after a number of refusals, in milliseconds. The
delay between two attempts doubles from 0.8 seconds and stays at 30 seconds from the
seventh on. -/
def watchDelay (refusals : Nat) : Nat :=
  800 * (Nat.pow 2 (Nat.min refusals 6) - 1) + 30000 * (refusals - 6)

end Outage

end ServiceTemplates
