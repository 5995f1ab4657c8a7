import ServiceTemplates.Resource.Object
import ServiceTemplates.Wire.Contents
import ServiceTemplates.Wire.Metadata

/-!
# Objects on the wire

Objects of every kind as JSON. Group, version and kind are written from the kind; of
what is read they are passed over, except in a secret, where they have to be right if
they are there. A secret keeps its contents beside its metadata, every other kind in
`spec` and `status`.
-/

namespace ServiceTemplates

open Record

def Kind.specToJson : (k : Kind) → k.Spec → Json
  | .templatedInstance, s => TemplatedInstanceSpec.toJson s
  | .templatedBinding, s => TemplatedBindingSpec.toJson s
  | .instanceTemplate, s => InstanceDefaults.toJson s
  | .clusterInstanceTemplate, s => InstanceDefaults.toJson s
  | .brokerInstanceTemplate, s => BrokerDefaults.toJson InstanceDefaults.presentFields s
  | .bindingTemplate, s => BindingDefaults.toJson s
  | .clusterBindingTemplate, s => BindingDefaults.toJson s
  | .brokerBindingTemplate, s => BrokerDefaults.toJson BindingDefaults.presentFields s
  | .serviceInstance, s => ServiceInstanceSpec.toJson s
  | .serviceBinding, s => ServiceBindingSpec.toJson s
  | .secret, s => .ofPresent (SecretContents.presentFields s)

def Kind.specOfJson? : (k : Kind) → Json → Option k.Spec
  | .templatedInstance, j => TemplatedInstanceSpec.ofJson? j
  | .templatedBinding, j => TemplatedBindingSpec.ofJson? j
  | .instanceTemplate, j => InstanceDefaults.ofJson? j
  | .clusterInstanceTemplate, j => InstanceDefaults.ofJson? j
  | .brokerInstanceTemplate, j => BrokerDefaults.ofJson? InstanceDefaults.ofFields? j
  | .bindingTemplate, j => BindingDefaults.ofJson? j
  | .clusterBindingTemplate, j => BindingDefaults.ofSpreadJson? j
  | .brokerBindingTemplate, j => BrokerDefaults.ofJson? BindingDefaults.ofFields? j
  | .serviceInstance, j => ServiceInstanceSpec.ofJson? j
  | .serviceBinding, j => ServiceBindingSpec.ofJson? j
  | .secret, j => j.fields?.bind SecretContents.ofFields?

def Kind.statusToJson : (k : Kind) → k.Status → Json
  | .templatedInstance, s => TemplatedInstanceStatus.toJson s
  | .templatedBinding, s => TemplatedBindingStatus.toJson s
  | .serviceInstance, s => ServiceInstanceStatus.toJson s
  | .serviceBinding, s => ServiceBindingStatus.toJson s
  | .instanceTemplate, s => s.elim
  | .clusterInstanceTemplate, s => s.elim
  | .brokerInstanceTemplate, s => s.elim
  | .bindingTemplate, s => s.elim
  | .clusterBindingTemplate, s => s.elim
  | .brokerBindingTemplate, s => s.elim
  | .secret, s => s.elim

/-- How the observed state of a kind is read; none for the kinds without one. -/
def Kind.statusReader? : (k : Kind) → Option (Json → Option k.Status)
  | .templatedInstance => some TemplatedInstanceStatus.ofJson?
  | .templatedBinding => some TemplatedBindingStatus.ofJson?
  | .serviceInstance => some ServiceInstanceStatus.ofJson?
  | .serviceBinding => some ServiceBindingStatus.ofJson?
  | _ => none

namespace Object

/-- The fields that name the kind of an object. -/
def kindFields (k : Kind) : List (Option (String × Json)) :=
  [always "apiVersion" (.string k.apiVersion), always "kind" (.string k.name)]

def secretToJson (s : Secret) : Json :=
  .ofPresent
    (kindFields .secret ++ always "metadata" s.metadata.toJson
      :: SecretContents.presentFields s.spec)

def toJson : {k : Kind} → Object k → Json
  | .secret, obj => secretToJson obj
  | k, obj =>
    .ofPresent
      (kindFields k ++
        [always "metadata" obj.metadata.toJson,
          always "spec" (k.specToJson obj.spec),
          present "status" k.statusToJson obj.status])

def secretOfJson? (j : Json) : Option Secret := do
  let r ← j.fields?
  mark? r "apiVersion" Kind.secret.apiVersion
  mark? r "kind" Kind.secret.name
  let metadata ← optional r "metadata" Metadata.ofJson?
  let contents ← SecretContents.ofFields? r
  return { metadata := metadata.getD {}, spec := contents }

/-- Reads an object of one of the kinds other than secrets. -/
def resourceOfJson? (k : Kind) (j : Json) : Option (Object k) :=
  match k.statusReader? with
  | some readStatus => do
    let r ← j.record? ⟨["metadata", "spec", "status"], 3⟩
    return {
      metadata := ← required r "metadata" Metadata.ofJson?
      spec := ← required r "spec" k.specOfJson?
      status := ← optional r "status" readStatus }
  | none => do
    let r ← j.record? ⟨["metadata", "spec"], 2⟩
    return {
      metadata := ← required r "metadata" Metadata.ofJson?
      spec := ← required r "spec" k.specOfJson? }

def ofJson? : (k : Kind) → Json → Option (Object k)
  | .secret, j => secretOfJson? j
  | k, j => resourceOfJson? k j

end Object

end ServiceTemplates
