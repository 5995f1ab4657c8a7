import ServiceTemplates.Pass.Run

/-!
# Passes among other writers

A cluster on which a pass is not alone. Others write an object again right after the pass
has read it, and writes are refused for reasons of their own. How often the pass reads
and writes is counted.
-/

namespace ServiceTemplates

/-- What gets in the way of a pass. -/
structure Interference where
  /-- How many reads are still followed by a write of somebody else. -/
  races : Nat := 0
  /-- The causes for which the next writes are refused. -/
  failures : List Error := []
deriving Inhabited

/-- How often a pass read and wrote. -/
structure Calls where
  gets : Nat := 0
  updates : Nat := 0
deriving DecidableEq, Inhabited

namespace Interference

/-- The state of a cluster on which others interfere. -/
structure World where
  cluster : Cluster
  notes : List Note := []
  /-- What is still to get in the way. -/
  ahead : Interference
  calls : Calls := {}

/-- Reads an object; while races are ahead, somebody else then writes it back
unchanged. -/
def World.fetch (w : World) (k : Kind) (ns name : String) : Option (Object k) × World :=
  let found := (w.cluster.store k).get? (some ns) name
  let cluster :=
    match found with
    | some obj => if w.ahead.races = 0 then w.cluster else (w.cluster.replace obj).2
    | none => w.cluster
  (found, { w with
    cluster := cluster
    ahead := { w.ahead with races := w.ahead.races - 1 }
    calls := { w.calls with gets := w.calls.gets + 1 } })

/-- Replaces an object, unless a failure is ahead. -/
def World.update {k : Kind} (w : World) (obj : Object k) : Except Error (Object k) × World :=
  let w := { w with calls := { w.calls with updates := w.calls.updates + 1 } }
  match w.ahead.failures with
  | e :: rest => (.error e, { w with ahead := { w.ahead with failures := rest } })
  | [] =>
    let (reply, cluster) := w.cluster.replace obj
    (reply, { w with cluster := cluster })

/-- Answers the requests of a pass among other writers. -/
def answer : Answerer World
  | .fetch k ns name, w => let (found, w) := w.fetch k ns name; (.ok found, w)
  | .update _ obj, w => w.update obj
  | r, w =>
    let (reply, cluster, notes) := Cluster.answer r (w.cluster, w.notes)
    (reply, { w with cluster := cluster, notes := notes })

end Interference

end ServiceTemplates
