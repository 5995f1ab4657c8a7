import ServiceTemplates.Resource.Metadata
import ServiceTemplates.Wire.Record

/-!
# Metadata on the wire

Metadata and owner references as JSON. Both are always objects. Of the metadata a
field is written when it holds something, an empty map or list included; of an owner
reference the four texts are always written.
-/

namespace ServiceTemplates

open Record

/-- A text field for which absent and null mean the empty text. -/
def Record.textOrEmpty (fields : List (String × Json)) (key : String) : Option String :=
  (optional fields key Json.text?).map (·.getD "")

namespace OwnerReference

def toJson (r : OwnerReference) : Json :=
  .ofPresent
    [always "apiVersion" (.string r.apiVersion),
      present "blockOwnerDeletion" .bool r.blockOwnerDeletion,
      present "controller" .bool r.controller,
      always "kind" (.string r.kind),
      always "name" (.string r.name),
      always "uid" (.string r.uid)]

def ofJson? (j : Json) : Option OwnerReference := do
  let r ← j.fields?
  return {
    apiVersion := ← textOrEmpty r "apiVersion"
    kind := ← textOrEmpty r "kind"
    name := ← textOrEmpty r "name"
    uid := ← textOrEmpty r "uid"
    controller := ← optional r "controller" Json.bool?
    blockOwnerDeletion := ← optional r "blockOwnerDeletion" Json.bool? }

end OwnerReference

namespace Metadata

def toJson (m : Metadata) : Json :=
  .ofPresent
    [present "annotations" .ofTexts m.annotations,
      present "finalizers" (.ofList .string) m.finalizers,
      present "generateName" .string m.generateName,
      present "generation" (fun n => .ofInt n.toInt) m.generation,
      present "labels" .ofTexts m.labels,
      present "name" .string m.name,
      present "namespace" .string m.ns,
      present "ownerReferences" (.ofList OwnerReference.toJson) m.ownerReferences,
      present "resourceVersion" .string m.resourceVersion,
      present "uid" .string m.uid]

def ofJson? (j : Json) : Option Metadata := do
  let r ← j.fields?
  return {
    name := ← optional r "name" Json.text?
    generateName := ← optional r "generateName" Json.text?
    ns := ← optional r "namespace" Json.text?
    uid := ← optional r "uid" Json.text?
    resourceVersion := ← optional r "resourceVersion" Json.text?
    generation := ← optional r "generation" Json.int64?
    labels := ← optional r "labels" Json.texts?
    annotations := ← optional r "annotations" Json.texts?
    finalizers := ← optional r "finalizers" (Json.list? Json.text?)
    ownerReferences := ← optional r "ownerReferences" (Json.list? OwnerReference.ofJson?) }

end Metadata

end ServiceTemplates
