import ServiceTemplates.Store.Cluster

/-!
# Interventions

What others do to a cluster while the controller works: they put objects in place,
whatever was there, and they delete objects. The identity of an object is that of its
place, so that an object that is put back is the same as before.
-/

namespace ServiceTemplates

/-- The identity of the object of a kind under a key. -/
abbrev Identity := Kind → ObjectKey → String

/-- What somebody else does to a cluster. -/
inductive Intervention where
  | put (obj : AnyObject)
  | delete (kind : Kind) (key : ObjectKey)

namespace Cluster

/-- Puts an object in place, under its identity and the next version. -/
def place {k : Kind} (c : Cluster) (identity : Identity) (obj : Object k) : Cluster :=
  let store := c.store k
  let key := ObjectKey.ofMetadata obj.metadata
  let current := (store.objects.find? key).bind (·.metadata.resourceVersion)
  c.setStore (store.put (Store.stamp obj (identity k key) (nextVersion current)))

def undergo (c : Cluster) (identity : Identity) : Intervention → Cluster
  | .put obj => c.place identity obj.2
  | .delete k key => c.delete k key

end Cluster

end ServiceTemplates
