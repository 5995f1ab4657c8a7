import ServiceTemplates.Resource.ObjectReference
import ServiceTemplates.Wire.Record

/-!
# References on the wire

References to objects as JSON. Only the parts that are there are written.
-/

namespace ServiceTemplates.ObjectReference

open Record

def toJson (r : ObjectReference) : Json :=
  .ofPresent
    [present "apiVersion" .string r.apiVersion,
      present "fieldPath" .string r.fieldPath,
      present "kind" .string r.kind,
      present "name" .string r.name,
      present "namespace" .string r.ns,
      present "resourceVersion" .string r.resourceVersion,
      present "uid" .string r.uid]

def ofJson? (j : Json) : Option ObjectReference := do
  let r ← j.fields?
  return {
    apiVersion := ← optional r "apiVersion" Json.text?
    fieldPath := ← optional r "fieldPath" Json.text?
    kind := ← optional r "kind" Json.text?
    name := ← optional r "name" Json.text?
    ns := ← optional r "namespace" Json.text?
    resourceVersion := ← optional r "resourceVersion" Json.text?
    uid := ← optional r "uid" Json.text? }

end ServiceTemplates.ObjectReference
