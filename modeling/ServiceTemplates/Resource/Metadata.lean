import ServiceTemplates.SortedMap

/-!
# Object metadata

What every object carries beside its contents: its name and namespace, the identity
and version that the store gives it, labels and annotations, and the references to
the objects that own it.
-/

namespace ServiceTemplates

structure OwnerReference where
  /-- The API group and version of the owner. -/
  apiVersion : String
  kind : String
  name : String
  uid : String
  /-- Whether the owner is the one that manages the object. -/
  controller : Option Bool := none
  /-- Whether the owner's deletion waits for the object's. -/
  blockOwnerDeletion : Option Bool := none
deriving DecidableEq, Inhabited

/-- The metadata of an object. Left out is what is passed on by every function and read by none:
`creationTimestamp`, `deletionTimestamp`, `deletionGracePeriodSeconds`, `managedFields` and
`selfLink`. -/
structure Metadata where
  name : Option String := none
  generateName : Option String := none
  /-- The namespace of the object, absent for cluster-wide ones. -/
  ns : Option String := none
  /-- The identity that the store gave the object. -/
  uid : Option String := none
  /-- The version that the store gave the object's present state. -/
  resourceVersion : Option String := none
  generation : Option Int64 := none
  labels : Option (SortedMap String String) := none
  annotations : Option (SortedMap String String) := none
  /-- What has to finish before the object can go. -/
  finalizers : Option (List String) := none
  ownerReferences : Option (List OwnerReference) := none
deriving DecidableEq, Inhabited

namespace Metadata

/-- The name, or else what a generated name starts with, or else the empty text. -/
def displayName (m : Metadata) : String :=
  match m.name with
  | some name => name
  | none => m.generateName.getD ""

end Metadata

end ServiceTemplates
