import ServiceTemplates.Store.Cluster

/-!
# Changes

What differs between two states of a cluster: the objects that came, went or are no
longer the same. Where only contents matter, the versions are forgotten first.
-/

namespace ServiceTemplates

/-- An object that is not what it was. -/
structure Change where
  kind : Kind
  key : ObjectKey
  /-- The object as it is now; none if it is gone. -/
  now : Option (Object kind)

/-- The changes from one store to another, by namespace and name. -/
def Store.changes {k : Kind} (before after : Store k) : List Change :=
  (before.objects.union after.objects).keys.filterMap fun key =>
    let now := after.objects.find? key
    if before.objects.find? key = now then none else some ⟨k, key, now⟩

/-- The changes from one cluster to another, kind by kind. -/
def Cluster.changes (before after : Cluster) : List Change :=
  Kind.all.flatMap fun k => (before.store k).changes (after.store k)

def Object.withoutVersion {k : Kind} (obj : Object k) : Object k :=
  { obj with metadata := { obj.metadata with resourceVersion := none } }

/-- The changes from one cluster to another that concern more than versions. -/
def Cluster.contentChanges (before after : Cluster) : List Change :=
  (before.changes after).filterMap fun c =>
    let now := c.now.map Object.withoutVersion
    let was := ((before.store c.kind).objects.find? c.key).map Object.withoutVersion
    if was = now then none else some ⟨c.kind, c.key, now⟩

end ServiceTemplates
