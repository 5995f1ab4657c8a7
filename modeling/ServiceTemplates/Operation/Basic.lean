import ServiceTemplates.Api.Client
import ServiceTemplates.Api.Outage
import ServiceTemplates.Cache.Basic
import ServiceTemplates.Operation.Intervention
import ServiceTemplates.Operation.Wake
import ServiceTemplates.Pass.Run
import ServiceTemplates.Settings

/-!
# Operation

The controller at work on a cluster over time. It starts when its cache is filled, or
not at all. From then on every object that is due has its pass, what a pass or somebody
else changes wakes further objects, and the retry policy puts an object down again.
Passes take no time; time goes from one due object to the next.

The caches follow the cluster at once, within the watched namespace. Writes may meet
outages of the API server.
-/

namespace ServiceTemplates

/-- The controller and its cluster at a moment. -/
structure Operation where
  cluster : Cluster
  /-- The only namespace that is watched; none stands for all. -/
  scope : Option String
  identity : Identity
  plans : PlanResolver
  policy : RetryPolicy
  time : String
  /-- What the API server is going to refuse. -/
  outages : List Outage
  /-- The time from which the objects of a kind are known, in nanoseconds. -/
  listedAt : Kind → Nat
  /-- Why the controller did not start; none if it runs. -/
  failure : Option CacheError := none
  /-- The time, in nanoseconds. -/
  clock : Nat := 0
  agenda : Agenda := []
  notes : List Note := []

namespace Operation

/-! ### Reading -/

/-- What the API server lists for a watch. -/
def lister (c : Cluster) : Cache.Lister := fun k ns => some ((c.store k).list ns .everything)

/-- The replica that the queue of a kind keeps. -/
def replica (o : Operation) (k : Kind) : Replica k :=
  if o.clock < o.listedAt k then .empty
  else
    let scope := if k.isNamespaced then o.scope else none
    Replica.empty.relist ((o.cluster.store k).list scope .everything)

/-- The caches as they are now. -/
def listers (o : Operation) : Listers :=
  let cache : Cache := { ns := o.scope }
  (cache.start (lister o.cluster)).2.listers (o.replica .templatedInstance)
    (o.replica .templatedBinding) (o.replica .secret)

/-! ### Writing -/

def create {k : Kind} (o : Operation) (obj : Object k) : Except Error (Object k) × Operation :=
  let key := ObjectKey.ofMetadata obj.metadata
  let (reply, store) := (o.cluster.store k).create (o.identity k key) obj
  (reply, { o with cluster := o.cluster.setStore store })

def replace {k : Kind} (o : Operation) (obj : Object k) : Except Error (Object k) × Operation :=
  let (reply, cluster) := o.cluster.replace obj
  (reply, { o with cluster := cluster })

/-- Serves a request for the object of a name, unless it meets an outage. -/
def serve {α : Type} (o : Operation) (verb : Verb) (k : Kind) (name : String)
    (act : Operation → Except Error α × Operation) : Except Error α × Operation :=
  match Outage.take? verb k.name o.outages with
  | some (status, left) => (.error (status.cause k name), { o with outages := left })
  | none => act o

def eventResource : String := "Event"

/-- Records a warning; an outage loses it. -/
def warn (o : Operation) (w : Warning) : Operation :=
  match Outage.take? .create eventResource o.outages with
  | some (_, left) => { o with outages := left }
  | none => { o with notes := o.notes ++ [.warned w] }

/-- Answers the requests of a pass. -/
def answer : Answerer Operation
  | .cached k ns name, o => (o.listers.get? k ns name, o)
  | .cachedList k ns filter, o => (o.listers.list k ns filter, o)
  | .fetch k ns name, o =>
    o.serve .get k name fun o => (.ok ((o.cluster.store k).get? (some ns) name), o)
  | .create k obj, o => o.serve .create k obj.displayName (·.create obj)
  | .update k obj, o => o.serve .update k obj.displayName (·.replace obj)
  | .updateStatus k obj, o => o.serve .patch k obj.displayName (·.replace obj)
  | .warn about reason note, o => ((), o.warn ⟨about, reason, note⟩)
  | .count counter, o => ((), { o with notes := o.notes ++ [.counted counter] })

/-! ### Time -/

def watches (o : Operation) (k : Kind) (key : ObjectKey) : Bool :=
  !k.isNamespaced || o.scope.isNone || o.scope == some key.ns

/-- Puts an item down for a time, or for when its kind is known. -/
def schedule (o : Operation) (time : Nat) (item : Item) : Operation :=
  { o with agenda := o.agenda.schedule (Nat.max time (o.listedAt item.queue.kind)) item }

/-- Puts down what the changes since an earlier cluster wake. -/
def wake (o : Operation) (before : Cluster) : Operation :=
  let changes := (before.changes o.cluster).filter fun c => o.watches c.kind c.key
  let listers := o.listers
  (changes.flatMap fun c => c.wakes before listers).foldl (fun o item => o.schedule o.clock item) o

/-- Applies the retry policy after a pass over an object of a queue. -/
def conclude (o : Operation) (item : Item) (m : Metadata) (result : Except Error Bool) : Operation :=
  let (action, policy, counters) :=
    match result with
    | .ok synced =>
      let (action, policy) := o.policy.afterSuccess item.queue.kind m synced
      (action, policy, [])
    | .error e => o.policy.afterFailure item.queue.kind m e
  let o := { o with policy := policy, notes := o.notes ++ counters.map .counted }
  match action with
  | .awaitChange => o
  | .requeue delay => o.schedule (o.clock + delay) item

/-- Runs the pass over an object that is due; an object that is gone has none. -/
def perform (o : Operation) (item : Item) : Operation :=
  let k := item.queue.kind
  match (o.replica k).get? (some item.key.ns) item.key.name with
  | none => o
  | some obj =>
    -- The retry policy judges by the object as it was before the pass.
    let (result, after) :=
      (reconcile item.queue o.plans o.time obj.metadata).run answer o
    (after.wake o.cluster).conclude item obj.metadata result

/-- Goes on to a deadline, with a bound on the number of passes. -/
def advance (o : Operation) (deadline : Nat) : Nat → Operation
  | 0 => o
  | fuel + 1 =>
    match o.agenda.next? with
    | none => { o with clock := Nat.max o.clock deadline }
    | some (due, item) =>
      if deadline < due then { o with clock := Nat.max o.clock deadline }
      else
        -- An item that fell due in the past does not turn the clock back.
        let o := { o with clock := Nat.max o.clock due, agenda := o.agenda.remove item }
        (o.perform item).advance deadline fuel

/-- How long the controller is left alone until nothing more is expected of it: longer
than three resync periods of the default length. -/
def calm : Nat := 1000 * Time.second

/-- The greatest number of passes while the controller is left alone. -/
def passLimit : Nat := 2000

def settle (o : Operation) : Operation :=
  if o.failure.isSome then o else o.advance (o.clock + calm) passLimit

/-! ### Beginning -/

def isReady (o : Operation) : Bool := o.failure.isNone

/-- When the objects of a kind are known to a watch that starts now. -/
def listedAfter (outages : List Outage) (k : Kind) : Nat :=
  Outage.watchDelay (Outage.count .list k.name outages) * Time.millisecond

/-- The first kind that is not listed in time. A kind is waited for, up to a limit, from
the moment on at which the kinds before it are listed. -/
def late? (delay : Kind → Nat) (limit waited : Nat) : List Kind → Option Kind
  | [] => none
  | k :: rest =>
    if waited + limit ≤ delay k then some k
    else late? delay limit (Nat.max waited (delay k)) rest

/-- Starts the controller on a cluster. The objects of the queued kinds are listed when
the cache is filled, and all of them are due then. -/
def start (settings : ControllerSettings) (identity : Identity) (time : String)
    (outages : List Outage) (cluster : Cluster) : Operation :=
  let delay := listedAfter outages
  let limit := settings.cacheSyncTimeout * Time.second
  let filled := (cachedKinds.map delay).foldl Nat.max 0
  let o : Operation := {
    cluster := cluster
    scope := settings.watchNamespace
    identity := identity
    plans := noPlans
    policy := {
      backoff :=
        .ofBounds (settings.backoffStart * Time.millisecond) (settings.backoffMax * Time.millisecond)
      resync := settings.resyncPeriod * Time.second }
    time := time
    outages := outages
    listedAt := fun k => if k ∈ cachedKinds then 0 else filled + delay k
    failure := (late? delay limit 0 cachedKinds).map .timedOut
    clock := filled }
  o.wake .empty

/-! ### Others at work -/

def intervene (o : Operation) (act : Intervention) : Operation :=
  { o with cluster := o.cluster.undergo o.identity act }.wake o.cluster

end Operation

end ServiceTemplates
