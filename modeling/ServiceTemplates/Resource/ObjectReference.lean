import ServiceTemplates.Resource.Object

/-!
# References to objects

The full reference by which a warning names the object that it is about.
-/

namespace ServiceTemplates

structure ObjectReference where
  apiVersion : Option String := none
  /-- The part of the object that is meant. -/
  fieldPath : Option String := none
  kind : Option String := none
  name : Option String := none
  ns : Option String := none
  resourceVersion : Option String := none
  uid : Option String := none
deriving DecidableEq, Inhabited

/-- The reference to an object, whatever its version. -/
def Object.reference {k : Kind} (obj : Object k) : ObjectReference where
  apiVersion := some k.apiVersion
  kind := some k.name
  name := obj.metadata.name
  ns := obj.metadata.ns
  uid := obj.metadata.uid

end ServiceTemplates
