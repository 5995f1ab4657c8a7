import ServiceTemplates.Api.Client
import ServiceTemplates.Cache.Replica
import ServiceTemplates.Store.Cluster

/-!
# The cache

The cache holds a replica of every kind that is read but not queued. It is started
once: a watch of each kind begins, those of the namespaced kinds within the watched
namespace if there is one, and the start is over when every kind has been listed. The
kinds are waited for in order, and the first that is not listed in time fails the
start, though the others are listed all the same.

The queued kinds are read from the replicas that their queues keep.
-/

namespace ServiceTemplates

/-- The kinds of the cache, in the order in which they are waited for. -/
def cachedKinds : List Kind :=
  [.instanceTemplate, .clusterInstanceTemplate, .brokerInstanceTemplate, .bindingTemplate,
    .clusterBindingTemplate, .brokerBindingTemplate, .serviceInstance, .serviceBinding]

inductive CacheError where
  | alreadyStarted (kind : Kind)
  | timedOut (kind : Kind)
deriving DecidableEq

def CacheError.message : CacheError → String
  | alreadyStarted kind => kind.name ++ " cache already started"
  | timedOut kind => "timed out syncing " ++ kind.name ++ " cache"

structure Cache where
  /-- The only namespace that is watched; none stands for all. -/
  ns : Option String := none
  isStarted : Bool := false
  replica : (k : Kind) → Replica k := fun _ => .empty

namespace Cache

/-- The namespace within which a kind is watched. -/
def scope (c : Cache) (k : Kind) : Option String := if k.isNamespaced then c.ns else none

/-- Where the objects of a kind are listed and watched. -/
def watchPath (c : Cache) (k : Kind) : String := k.collection (c.scope k)

/-- The objects that the API server lists for a watch; none if it fails. -/
abbrev Lister := (k : Kind) → (ns : Option String) → Option (List (Object k))

/-- The replica of a kind after its watch has begun. -/
def listed (c : Cache) (api : Lister) (k : Kind) : Replica k :=
  match api k (c.scope k) with
  | some objects => (c.replica k).relist objects
  | none => c.replica k

def start (c : Cache) (api : Lister) : Except CacheError Unit × Cache :=
  if c.isStarted then (.error (.alreadyStarted .instanceTemplate), c)
  else
    -- Every watch begins, those after one that fails included.
    let started := { c with
      isStarted := true
      replica := fun k => if k ∈ cachedKinds then c.listed api k else c.replica k }
    match cachedKinds.find? fun k => (api k (c.scope k)).isNone with
    | some k => (.error (.timedOut k), started)
    | none => (.ok (), started)

/-- The reading side of the cache beside the replicas of the queued kinds. -/
def listers (c : Cache) (instances : Replica .templatedInstance)
    (bindings : Replica .templatedBinding) (secrets : Replica .secret) : Listers :=
  let replica : (k : Kind) → Replica k
    | .templatedInstance => instances
    | .templatedBinding => bindings
    | .secret => secrets
    | k => c.replica k
  { get? := fun k ns name => (replica k).get? ns name
    list := fun k ns filter => (replica k).list ns filter }

end Cache

end ServiceTemplates
