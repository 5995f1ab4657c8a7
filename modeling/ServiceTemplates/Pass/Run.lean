import ServiceTemplates.Pass.Basic
import ServiceTemplates.Store.Cluster

/-!
# Running passes

Ways to answer the requests of a pass. `Pass.run` takes any answerer with a state;
`Pass.runOn` answers from a cluster and writes to it, and `Pass.runBeside` answers
reads from listers that may lag behind the cluster that is written. What a pass counts
and warns about is noted in the order in which it happens.
-/

namespace ServiceTemplates

structure Warning where
  about : ObjectReference
  reason : String
  note : String
deriving DecidableEq, Inhabited

/-- What a pass lets others know. -/
inductive Note where
  | warned (warning : Warning)
  | counted (counter : Counter)
deriving DecidableEq, Inhabited

def Note.warnings (notes : List Note) : List Warning :=
  notes.filterMap fun
    | .warned w => some w
    | .counted _ => none

def Note.counters (notes : List Note) : List Counter :=
  notes.filterMap fun
    | .warned _ => none
    | .counted c => some c

/-- A way to answer requests, given a state and leaving one. -/
abbrev Answerer (σ : Type) := (r : Request) → σ → r.Reply × σ

namespace Pass

variable {α σ : Type}

/-- Runs a pass to its end. -/
def run (answer : Answerer σ) : Pass α → σ → Except Error α × σ
  | done result, s => (result, s)
  | ask r next, s =>
    let (reply, s) := answer r s
    (next reply).run answer s

end Pass

namespace Cluster

/-- Answers reads from `listers`, everything else from a cluster, and notes what is
let known. -/
def answerBeside (listers : Listers) : Answerer (Cluster × List Note)
  | .cached k ns name, s => (listers.get? k ns name, s)
  | .cachedList k ns filter, s => (listers.list k ns filter, s)
  | .fetch k ns name, s => (.ok ((s.1.store k).get? (some ns) name), s)
  | .create _ obj, s => let (reply, c) := s.1.create obj; (reply, c, s.2)
  | .update _ obj, s => let (reply, c) := s.1.replace obj; (reply, c, s.2)
  | .updateStatus _ obj, s => let (reply, c) := s.1.replace obj; (reply, c, s.2)
  | .warn about reason note, s => ((), s.1, s.2 ++ [.warned ⟨about, reason, note⟩])
  | .count counter, s => ((), s.1, s.2 ++ [.counted counter])

/-- Answers everything from a cluster, reads from its present state. -/
def answer : Answerer (Cluster × List Note) := fun r s => answerBeside s.1.listers r s

end Cluster

/-- How a pass ended, what it left and what it let known. -/
structure Outcome (α : Type) where
  result : Except Error α
  cluster : Cluster
  /-- What was counted and warned about, in order. -/
  notes : List Note

namespace Pass

variable {α : Type}

/-- Runs a pass that reads `listers` and writes a cluster. -/
def runBeside (p : Pass α) (listers : Listers) (c : Cluster) : Outcome α :=
  let (result, c, notes) := p.run (Cluster.answerBeside listers) (c, [])
  ⟨result, c, notes⟩

/-- Runs a pass that reads and writes one cluster. -/
def runOn (p : Pass α) (c : Cluster) : Outcome α :=
  let (result, c, notes) := p.run Cluster.answer (c, [])
  ⟨result, c, notes⟩

/-- The result of a pass that only reads. -/
def readFrom (p : Pass α) (listers : Listers) : Except Error α :=
  (p.runBeside listers .empty).result

end Pass

end ServiceTemplates
