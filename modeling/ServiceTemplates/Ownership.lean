import ServiceTemplates.Resource.Object

/-!
# Ownership

An object that the controller builds refers to the object it was built for as its
controller. Whether an existing object may be touched is decided by that reference:
kind and name have to be right, and the identity too where both sides know it, so
that a leftover of an earlier object of the same name does not count.
-/

namespace ServiceTemplates

variable {k : Kind}

/-- The reference by which a built object names `owner` as its controller. -/
def Object.controllerReference (owner : Object k) : OwnerReference where
  apiVersion := k.apiVersion
  kind := k.name
  name := owner.displayName
  uid := owner.metadata.uid.getD ""
  controller := some true
  blockOwnerDeletion := some true

namespace Metadata

/-- The first owner that is marked as the controller. -/
def controller? (m : Metadata) : Option OwnerReference :=
  (m.ownerReferences.getD []).find? fun r => r.controller == some true

/-- Whether an identity does not contradict the one of a reference; an unknown one
never does. -/
def agreesOnUid (r : OwnerReference) : Option String → Bool
  | some uid => r.uid.isEmpty || r.uid == uid
  | none => true

def isControlledBy (m : Metadata) (owner : Object k) : Bool :=
  match m.controller? with
  | some r =>
    r.kind == k.name && owner.metadata.name == some r.name && agreesOnUid r owner.metadata.uid
  | none => false

def controllerName? (m : Metadata) (k : Kind) : Option String :=
  (m.controller?.filter fun r => r.kind == k.name).map (·.name)

end Metadata

end ServiceTemplates
