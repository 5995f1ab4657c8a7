import ServiceTemplates.Resource.Object
import ServiceTemplates.Store.Key
import ServiceTemplates.Store.Selection

/-!
# Replicas

A replica follows the objects of one kind by the events of a watch. Changes act at
once. A watch that starts anew first lists all objects; they are gathered aside and
take the place of the replica's contents when the list is complete.

Within a replica an empty namespace and none are different. A look-up in a namespace
that finds nothing goes on among the objects without one.
-/

namespace ServiceTemplates

inductive WatchEvent (k : Kind) where
  | applied (obj : Object k)
  | deleted (obj : Object k)
  | started
  /-- An object of the list at the start. -/
  | listed (obj : Object k)
  | complete

/-- Objects under their namespace, if any, and name. -/
abbrev Shelf (k : Kind) := List ((Option String × String) × Object k)

/-- Where a replica keeps an object. -/
def Metadata.place (m : Metadata) : Option String × String := (m.ns, m.displayName)

namespace Shelf

variable {k : Kind}

/-- The shelf without an object of the same place. -/
def remove (s : Shelf k) (obj : Object k) : Shelf k :=
  s.filter fun e => e.1 != obj.metadata.place

def put (s : Shelf k) (obj : Object k) : Shelf k :=
  s.remove obj ++ [(obj.metadata.place, obj)]

def at? (s : Shelf k) (place : Option String × String) : Option (Object k) := s.lookup place

end Shelf

/-- The objects of one kind, as far as a watch has told of them. -/
structure Replica (k : Kind) where
  objects : Shelf k := []
  gathered : Shelf k := []

namespace Replica

variable {k : Kind}

/-- The replica that knows of nothing. -/
def empty : Replica k := {}

def step (r : Replica k) : WatchEvent k → Replica k
  | .applied obj => { r with objects := r.objects.put obj }
  | .deleted obj => { r with objects := r.objects.remove obj }
  | .started => { r with gathered := [] }
  | .listed obj => { r with gathered := r.gathered.put obj }
  | .complete => ⟨r.gathered, []⟩

/-- The replica after a watch started anew and listed some objects. -/
def relist (r : Replica k) (listed : List (Object k)) : Replica k :=
  ((listed.map WatchEvent.listed).foldl step (r.step .started)).step .complete

/-- The object of a namespace, or of none, and a name. -/
def get? (r : Replica k) (ns : Option String) (name : String) : Option (Object k) :=
  match r.objects.at? (ns, name) with
  | some obj => some obj
  | none => r.objects.at? (none, name)

/-- The objects of a namespace, or of all of them, that pass a filter. -/
def list (r : Replica k) (ns : Option String) (filter : LabelFilter) : List (Object k) :=
  (r.objects.map (·.2)).filter fun obj => obj.metadata.inScope ns filter

end Replica

def sortedKeys {k : Kind} (objects : List (Object k)) : List String :=
  (objects.map fun obj => obj.metadata.key).mergeSort fun a b => (compare a b).isLE

end ServiceTemplates
