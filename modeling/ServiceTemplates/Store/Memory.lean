import ServiceTemplates.Resource.Object
import ServiceTemplates.Store.Key
import ServiceTemplates.Store.Selection
import ServiceTemplates.Text.Numeral

/-!
# Stores in memory

A store holds the objects of one kind, at most one per namespace and name. It gives
every object an identity when the object is created and a new version at every write,
and it refuses a write that is based on another version than the present one.

Every operation returns the store as it is afterwards; a refused one leaves no trace.
-/

namespace ServiceTemplates

/-- The version after a given one: the next number, where what is no number counts as
zero. Numbers are words of 64 bits, and zero comes after the last. -/
def nextVersion (current : Option String) : String :=
  let number := (current.bind (Text.numeral? 0x10000000000000000)).getD 0
  toString ((number + 1) % 0x10000000000000000)

/-- The objects of one kind. -/
structure Store (k : Kind) where
  objects : SortedMap ObjectKey (Object k)
  writes : Nat

namespace Store

variable {k : Kind}

def empty : Store k := ⟨∅, 0⟩

instance : Inhabited (Store k) := ⟨empty⟩

/-- The object of a namespace, or of none, and a name. -/
def get? (s : Store k) (ns : Option String) (name : String) : Option (Object k) :=
  s.objects.find? ⟨ns.getD "", name⟩

/-- All objects, by namespace and name. -/
def all (s : Store k) : List (Object k) := s.objects.values

/-- The objects of a namespace, or of all of them, that pass a filter. -/
def list (s : Store k) (ns : Option String) (filter : LabelFilter) : List (Object k) :=
  s.all.filter fun obj => obj.metadata.inScope ns filter

def put (s : Store k) (obj : Object k) : Store k :=
  { s with objects := s.objects.insert (.ofMetadata obj.metadata) obj }

/-- The store with `obj` under its key, as the result of a write. -/
def write (s : Store k) (obj : Object k) : Store k :=
  { s.put obj with writes := s.writes + 1 }

def delete (s : Store k) (key : ObjectKey) : Store k :=
  { s with objects := s.objects.erase key }

/-- An object with an identity and a version. -/
def stamp (obj : Object k) (uid version : String) : Object k :=
  { obj with metadata := { obj.metadata with uid := some uid, resourceVersion := some version } }

/-- An object that is put into a store from outside: it keeps the identity and the
version that it has. -/
def seeded (obj : Object k) (uid : String) : Object k :=
  stamp obj (obj.metadata.uid.getD uid) (obj.metadata.resourceVersion.getD "1")

/-- Creates an object under a new identity. -/
def create (s : Store k) (uid : String) (obj : Object k) : Except Error (Object k) × Store k :=
  if s.objects.contains (.ofMetadata obj.metadata) then
    (.error (.alreadyExists k.name (ObjectKey.ofMetadata obj.metadata).shown), s)
  else (.ok (stamp obj uid "1"), s.write (stamp obj uid "1"))

/-- The words for a write that is based on another version than the present one. -/
def staleMessage (wanted : String) (current : Option String) : String :=
  "resource version " ++ wanted ++ " is stale, current is " ++ current.getD "none"

/-- An object as it stands after it replaced `current`: the identity stays and the
version moves on. -/
def successor (current obj : Object k) : Object k :=
  { obj with
    metadata := { obj.metadata with
      uid := current.metadata.uid
      resourceVersion := some (nextVersion current.metadata.resourceVersion) } }

/-- Why an object may not replace `current`: it names a version that is not the present
one. -/
def staleness? (current obj : Object k) : Option Error :=
  let version := current.metadata.resourceVersion
  match obj.metadata.resourceVersion with
  | none => none
  | some wanted =>
    if version = some wanted then none
    else
      let key := ObjectKey.ofMetadata obj.metadata
      some (.conflict k.name key.shown (staleMessage wanted version))

/-- Replaces an object; a write that names a version has to name the present one. -/
def replace (s : Store k) (obj : Object k) : Except Error (Object k) × Store k :=
  match s.objects.find? (.ofMetadata obj.metadata) with
  | none => (.error (.notFound k.name (ObjectKey.ofMetadata obj.metadata).shown), s)
  | some current =>
    match staleness? current obj with
    | some e => (.error e, s)
    | none => (.ok (successor current obj), s.write (successor current obj))

end Store

end ServiceTemplates
