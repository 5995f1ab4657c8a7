import ServiceTemplates.Pass.Interference
import ServiceTemplates.Reconcile.Requeue
import ServiceTemplates.Reconcile.Touch
import ServiceTemplates.Reconcile.Trigger
import ServiceTemplates.Store.Change

/-!
# Sessions

A session is the controller between two events: the stores that it reads and writes,
its plan resolver, its retry policy, and what it has let known so far. The stores that
are written may be others than those that are read, as when a cache lags behind; the
identities given out are numbered across all of them.

Each event is a function from sessions to sessions with an answer beside it.
-/

namespace ServiceTemplates

/-- One of the two clusters of a session. -/
inductive Side where
  | cache
  | live
deriving DecidableEq, Inhabited

/-- The state of a controller. -/
structure Session where
  cache : Cluster
  /-- What passes write; none if that is the cache itself. -/
  written : Option Cluster
  plans : PlanResolver
  policy : RetryPolicy
  time : String
  notes : List Note := []

namespace Session

variable {α : Type}

def cluster (s : Session) : Side → Cluster
  | .cache => s.cache
  | .live => s.written.getD s.cache

/-- The session with another cluster on one side. The other side goes on with the
identities where that one stopped. -/
def setCluster (s : Session) (side : Side) (c : Cluster) : Session :=
  match s.written, side with
  | none, _ => { s with cache := c }
  | some written, .cache =>
    { s with cache := c, written := some { written with issued := c.issued } }
  | some _, .live => { s with cache := { s.cache with issued := c.issued }, written := some c }

/-- Changes the cluster of a side. -/
def onSide (s : Session) (side : Side) (act : Cluster → α × Cluster) : α × Session :=
  let (answer, c) := act (s.cluster side)
  (answer, s.setCluster side c)

/-- Adds to what was let known. -/
def note (s : Session) (notes : List Note) : Session := { s with notes := s.notes ++ notes }

def run (s : Session) (p : Pass α) : Except Error α × Session :=
  let outcome :=
    match s.written with
    | none => p.runOn s.cache
    | some written => p.runBeside s.cache.listers written
  (outcome.result, (s.setCluster .live outcome.cluster).note outcome.notes)

/-- What follows the failure of a pass over an object. -/
def afterFailure (s : Session) (k : Kind) (m : Metadata) (e : Error) : Action × Session :=
  let (action, policy, counters) := s.policy.afterFailure k m e
  (action, { s with policy := policy }.note (counters.map .counted))

/-- Runs the pass for an object of a queue: its failure, if it fails, and what
follows. -/
def reconcile (s : Session) (q : QueueKind) (m : Metadata) : Option Error × Action × Session :=
  match s.run (ServiceTemplates.reconcile q s.plans s.time m) with
  | (.ok synced, s) =>
    let (action, policy) := s.policy.afterSuccess q.kind m synced
    (none, action, { s with policy := policy })
  | (.error e, s) => (some e, s.afterFailure q.kind m e)

/-- Touches an instance while others interfere. -/
def touch (s : Session) (ns name : String) (ahead : Interference) :
    Except Error TemplatedInstance × Calls × Session :=
  let world : Interference.World := { cluster := s.cluster .live, ahead := ahead }
  let (result, world) := (ServiceTemplates.touch ns name).run Interference.answer world
  (result, world.calls, (s.setCluster .live world.cluster).note world.notes)

/-- What changed on one side between two sessions. -/
def changes (before after : Session) (side : Side) : List Change :=
  (before.cluster side).changes (after.cluster side)

/-- How often each counter was counted, by its label. -/
def counts (s : Session) : SortedMap String Nat :=
  (Note.counters s.notes).foldl
    (fun counts c => counts.insert c.label ((counts.find? c.label).getD 0 + 1)) ∅

end Session

end ServiceTemplates
