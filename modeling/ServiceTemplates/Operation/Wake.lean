import ServiceTemplates.Operation.Agenda
import ServiceTemplates.Reconcile.Trigger
import ServiceTemplates.Store.Change

/-!
# What a change wakes

The objects that are looked at when some object comes, changes or goes: the object
itself if it is of a queued kind and still there, the owners that it names, and the
objects that a trigger finds for it. An object that goes wakes others as it last was.
-/

namespace ServiceTemplates

/-- The kind of the objects that those of a queue own. -/
def QueueKind.owned : QueueKind → Kind
  | templatedInstance => .serviceInstance
  | templatedBinding => .serviceBinding
  | secret => .secret

def QueueKind.all : List QueueKind := [.templatedInstance, .templatedBinding, .secret]

namespace Object

variable {k : Kind}

/-- The item of an object itself. -/
def ownItem? (obj : Object k) : Option Item :=
  (QueueKind.ofKind? k).map fun q => ⟨q, .ofMetadata obj.metadata⟩

/-- The owners of an object in a queue whose objects own such objects. -/
def ownerItems (obj : Object k) (q : QueueKind) : List Item :=
  if q.owned = k then
    let owners := (obj.metadata.ownerReferences.getD []).filter fun r =>
      r.apiVersion == q.kind.apiVersion && r.kind == q.kind.name
    owners.map fun r => ⟨q, obj.nsOrEmpty, r.name⟩
  else []

end Object

/-- Items of a queue at some namespaces and names. -/
def QueueKind.items (q : QueueKind) (places : List (String × String)) : List Item :=
  places.map fun (ns, name) => ⟨q, ns, name⟩

/-- The items that a trigger finds for an object. -/
def triggeredItems (listers : Listers) : {k : Kind} → Object k → List Item
  | .instanceTemplate, t => QueueKind.items .templatedInstance (instancesForTemplate listers t)
  | .clusterInstanceTemplate, t =>
    QueueKind.items .templatedInstance (instancesForTemplate listers t)
  | .brokerInstanceTemplate, t =>
    QueueKind.items .templatedInstance (instancesForTemplate listers t)
  | .bindingTemplate, t => QueueKind.items .templatedBinding (bindingsForTemplate listers t)
  | .clusterBindingTemplate, t =>
    QueueKind.items .templatedBinding (bindingsForTemplate listers t)
  | .brokerBindingTemplate, t =>
    QueueKind.items .templatedBinding (bindingsForTemplate listers t)
  | .serviceBinding, binding => QueueKind.items .secret (shadowSecretForBinding binding).toList
  | _, _ => []

/-- The items that a change wakes, given the cluster before it. -/
def Change.wakes (c : Change) (before : Cluster) (listers : Listers) : List Item :=
  let related (obj : Object c.kind) : List Item :=
    QueueKind.all.flatMap obj.ownerItems ++ triggeredItems listers obj
  match c.now, (before.store c.kind).objects.find? c.key with
  | some obj, _ => obj.ownItem?.toList ++ related obj
  | none, some obj => related obj
  | none, none => []

end ServiceTemplates
