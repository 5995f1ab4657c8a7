import ServiceTemplates.Resource.Contents
import ServiceTemplates.Text.Base64
import ServiceTemplates.Wire.Record

/-!
# Contents on the wire

The desired and observed states of all kinds as JSON. A class and plan reference
inside a larger record has no field of its own: its identifiers are spread over the
enclosing record, and so are the defaults of a broker template. A record with such
parts is always an object; the others may stand in positional form too.
-/

namespace ServiceTemplates

open Record

/-! ### Shared parts -/

namespace NameReference

def toJson (r : NameReference) : Json := .ofPresent [always "name" (.string r.name)]

def ofJson? (j : Json) : Option NameReference := do
  let r ← j.record? ⟨["name"], 1⟩
  return { name := ← required r "name" Json.text? }

end NameReference

namespace SecretKeyReference

/-- A reference to a secret's key as JSON. -/
def toJson (r : SecretKeyReference) : Json :=
  .ofPresent [always "key" (.string r.key), always "name" (.string r.name)]

def ofJson? (j : Json) : Option SecretKeyReference := do
  let r ← j.record? ⟨["name", "key"], 2⟩
  return { name := ← required r "name" Json.text?, key := ← required r "key" Json.text? }

end SecretKeyReference

namespace ParameterSource

def toJson (s : ParameterSource) : Json :=
  .ofPresent [present "secretKeyRef" SecretKeyReference.toJson s.secretKeyRef]

def ofJson? (j : Json) : Option ParameterSource := do
  let r ← j.record? ⟨["secretKeyRef"], 0⟩
  return { secretKeyRef := ← optional r "secretKeyRef" SecretKeyReference.ofJson? }

end ParameterSource

namespace PlanSelector

def toJson (s : PlanSelector) : Json := .ofPresent [always "matchLabels" (.ofTexts s.matchLabels)]

def ofJson? (j : Json) : Option PlanSelector := do
  let r ← j.record? ⟨["matchLabels"], 0⟩
  return { matchLabels := ← withDefault r "matchLabels" Json.texts? ∅ }

end PlanSelector

namespace Condition

/-- A condition as JSON; what it lacks is written as null. -/
def toJson (c : Condition) : Json :=
  .ofPresent
    [always "lastTransitionTime" (.ofOption .string c.lastTransitionTime),
      always "message" (.ofOption .string c.message),
      always "reason" (.ofOption .string c.reason),
      always "status" (.string c.status),
      always "type" (.string c.type)]

def ofJson? (j : Json) : Option Condition := do
  let r ← j.record? ⟨["type", "status", "lastTransitionTime", "reason", "message"], 2⟩
  return {
    type := ← required r "type" Json.text?
    status := ← required r "status" Json.text?
    lastTransitionTime := ← optional r "lastTransitionTime" Json.text?
    reason := ← optional r "reason" Json.text?
    message := ← optional r "message" Json.text? }

end Condition

/-! ### Class and plan references -/

namespace PlanReference

def presentFields (p : PlanReference) : List (Option (String × Json)) :=
  [present "clusterServiceClassExternalName" .string p.clusterClassExternalName,
    present "clusterServiceClassName" .string p.clusterClassName,
    present "clusterServicePlanExternalName" .string p.clusterPlanExternalName,
    present "clusterServicePlanName" .string p.clusterPlanName,
    present "serviceClassExternalName" .string p.classExternalName,
    present "serviceClassName" .string p.className,
    present "servicePlanExternalName" .string p.planExternalName,
    present "servicePlanName" .string p.planName]

def toJson (p : PlanReference) : Json := .ofPresent p.presentFields

def ofFields? (r : List (String × Json)) : Option PlanReference := do
  return {
    clusterClassExternalName := ← optional r "clusterServiceClassExternalName" Json.text?
    clusterPlanExternalName := ← optional r "clusterServicePlanExternalName" Json.text?
    clusterClassName := ← optional r "clusterServiceClassName" Json.text?
    clusterPlanName := ← optional r "clusterServicePlanName" Json.text?
    classExternalName := ← optional r "serviceClassExternalName" Json.text?
    planExternalName := ← optional r "servicePlanExternalName" Json.text?
    className := ← optional r "serviceClassName" Json.text?
    planName := ← optional r "servicePlanName" Json.text? }

def ofJson? (j : Json) : Option PlanReference := do
  let r ← j.record?
    ⟨["clusterServiceClassExternalName", "clusterServicePlanExternalName",
      "clusterServiceClassName", "clusterServicePlanName", "serviceClassExternalName",
      "servicePlanExternalName", "serviceClassName", "servicePlanName"], 0⟩
  ofFields? r

end PlanReference

/-! ### Templated resources -/

def Record.parameters (r : List (String × Json)) : Option (Option Document) :=
  optional r "parameters" Json.document?

def Record.parameterSources (r : List (String × Json)) : Option (List ParameterSource) :=
  withDefault r "parametersFrom" (Json.list? ParameterSource.ofJson?) []

namespace TemplatedInstanceSpec

def toJson (s : TemplatedInstanceSpec) : Json :=
  .ofPresent
    ([always "externalID" (.string s.externalId),
      present "parameters" Document.json s.parameters,
      nonempty "parametersFrom" ParameterSource.toJson s.parameterSources,
      present "planSelector" PlanSelector.toJson s.planSelector,
      always "serviceType" (.string s.serviceType),
      always "updateRequests" (.ofInt s.updateRequests.toInt)] ++ s.plan.presentFields)

def ofJson? (j : Json) : Option TemplatedInstanceSpec := do
  let r ← j.fields?
  return {
    serviceType := ← withDefault r "serviceType" Json.text? ""
    planSelector := ← optional r "planSelector" PlanSelector.ofJson?
    plan := ← PlanReference.ofFields? r
    parameters := ← Record.parameters r
    parameterSources := ← Record.parameterSources r
    externalId := ← withDefault r "externalID" Json.text? ""
    updateRequests := ← withDefault r "updateRequests" Json.int64? 0 }

end TemplatedInstanceSpec

namespace TemplatedInstanceStatus

/-- The report as JSON; what it lacks is written as null. -/
def toJson (s : TemplatedInstanceStatus) : Json :=
  .ofPresent
    [always "classRef" (.ofOption NameReference.toJson s.classRef),
      always "conditions" (.ofList Condition.toJson s.conditions),
      always "lastSyncTime" (.ofOption .string s.lastSyncTime),
      always "planRef" (.ofOption NameReference.toJson s.planRef),
      always "provisionStatus" (.ofOption .string s.provisionStatus),
      always "synced" (.bool s.synced)]

def ofJson? (j : Json) : Option TemplatedInstanceStatus := do
  let r ← j.record?
    ⟨["classRef", "planRef", "provisionStatus", "conditions", "synced", "lastSyncTime"], 0⟩
  return {
    classRef := ← optional r "classRef" NameReference.ofJson?
    planRef := ← optional r "planRef" NameReference.ofJson?
    provisionStatus := ← optional r "provisionStatus" Json.text?
    conditions := ← withDefault r "conditions" (Json.list? Condition.ofJson?) []
    synced := ← withDefault r "synced" Json.bool? false
    lastSyncTime := ← optional r "lastSyncTime" Json.text? }

end TemplatedInstanceStatus

namespace TemplatedBindingSpec

def toJson (s : TemplatedBindingSpec) : Json :=
  .ofPresent
    [always "externalID" (.string s.externalId),
      always "instanceRef" s.instanceRef.toJson,
      present "parameters" Document.json s.parameters,
      nonempty "parametersFrom" ParameterSource.toJson s.parameterSources,
      nonemptyTexts "secretKeys" s.secretKeys,
      always "secretName" (.string s.secretName)]

def ofJson? (j : Json) : Option TemplatedBindingSpec := do
  let r ← j.record?
    ⟨["instanceRef", "parameters", "parametersFrom", "secretKeys", "secretName", "externalID"], 1⟩
  return {
    instanceRef := ← required r "instanceRef" NameReference.ofJson?
    parameters := ← Record.parameters r
    parameterSources := ← Record.parameterSources r
    secretKeys := ← withDefault r "secretKeys" Json.texts? ∅
    secretName := ← withDefault r "secretName" Json.text? ""
    externalId := ← withDefault r "externalID" Json.text? "" }

end TemplatedBindingSpec

namespace TemplatedBindingStatus

/-- The report as JSON; what it lacks is written as null. -/
def toJson (s : TemplatedBindingStatus) : Json :=
  .ofPresent
    [always "conditions" (.ofList Condition.toJson s.conditions),
      always "lastSyncTime" (.ofOption .string s.lastSyncTime),
      always "secretName" (.ofOption .string s.secretName),
      always "synced" (.bool s.synced)]

def ofJson? (j : Json) : Option TemplatedBindingStatus := do
  let r ← j.record? ⟨["conditions", "secretName", "synced", "lastSyncTime"], 0⟩
  return {
    conditions := ← withDefault r "conditions" (Json.list? Condition.ofJson?) []
    secretName := ← optional r "secretName" Json.text?
    synced := ← withDefault r "synced" Json.bool? false
    lastSyncTime := ← optional r "lastSyncTime" Json.text? }

end TemplatedBindingStatus

/-! ### Templates -/

namespace InstanceDefaults

def presentFields (d : InstanceDefaults) : List (Option (String × Json)) :=
  [present "parameters" Document.json d.parameters,
    nonempty "parametersFrom" ParameterSource.toJson d.parameterSources] ++ d.plan.presentFields

def toJson (d : InstanceDefaults) : Json := .ofPresent d.presentFields

def ofFields? (r : List (String × Json)) : Option InstanceDefaults := do
  return {
    plan := ← PlanReference.ofFields? r
    parameters := ← Record.parameters r
    parameterSources := ← Record.parameterSources r }

def ofJson? (j : Json) : Option InstanceDefaults := do
  let r ← j.fields?
  ofFields? r

end InstanceDefaults

namespace BindingDefaults

def presentFields (d : BindingDefaults) : List (Option (String × Json)) :=
  [present "parameters" Document.json d.parameters,
    nonempty "parametersFrom" ParameterSource.toJson d.parameterSources,
    nonemptyTexts "secretKeys" d.secretKeys]

def toJson (d : BindingDefaults) : Json := .ofPresent d.presentFields

def ofFields? (r : List (String × Json)) : Option BindingDefaults := do
  return {
    parameters := ← Record.parameters r
    parameterSources := ← Record.parameterSources r
    secretKeys := ← withDefault r "secretKeys" Json.texts? ∅ }

def ofJson? (j : Json) : Option BindingDefaults := do
  let r ← j.record? ⟨["parameters", "parametersFrom", "secretKeys"], 0⟩
  ofFields? r

/-- Reads binding defaults that are spread over an enclosing record. -/
def ofSpreadJson? (j : Json) : Option BindingDefaults := do
  let r ← j.fields?
  ofFields? r

end BindingDefaults

namespace BrokerDefaults

variable {Defaults : Type}

def toJson (spread : Defaults → List (Option (String × Json))) (d : BrokerDefaults Defaults) : Json :=
  .ofPresent (always "brokerName" (.string d.brokerName) :: spread d.defaults)

def ofJson? (read : List (String × Json) → Option Defaults) (j : Json) :
    Option (BrokerDefaults Defaults) := do
  let r ← j.fields?
  return { brokerName := ← required r "brokerName" Json.text?, defaults := ← read r }

end BrokerDefaults

/-! ### Provisioned resources -/

namespace ServiceInstanceSpec

def toJson (s : ServiceInstanceSpec) : Json :=
  .ofPresent
    ([present "clusterServiceClassRef" NameReference.toJson s.classRef,
      present "clusterServicePlanRef" NameReference.toJson s.planRef,
      always "externalID" (.string s.externalId),
      present "parameters" Document.json s.parameters,
      nonempty "parametersFrom" ParameterSource.toJson s.parameterSources,
      always "updateRequests" (.ofInt s.updateRequests.toInt)] ++ s.plan.presentFields)

def ofJson? (j : Json) : Option ServiceInstanceSpec := do
  let r ← j.fields?
  return {
    plan := ← PlanReference.ofFields? r
    classRef := ← optional r "clusterServiceClassRef" NameReference.ofJson?
    planRef := ← optional r "clusterServicePlanRef" NameReference.ofJson?
    parameters := ← Record.parameters r
    parameterSources := ← Record.parameterSources r
    externalId := ← withDefault r "externalID" Json.text? ""
    updateRequests := ← withDefault r "updateRequests" Json.int64? 0 }

end ServiceInstanceSpec

namespace ServiceInstanceStatus

/-- The catalog's report as JSON; what it lacks is written as null. -/
def toJson (s : ServiceInstanceStatus) : Json :=
  .ofPresent
    [always "asyncOpInProgress" (.bool s.asyncOpInProgress),
      always "conditions" (.ofList Condition.toJson s.conditions),
      always "dashboardURL" (.ofOption .string s.dashboardUrl),
      always "provisionStatus" (.ofOption .string s.provisionStatus)]

def ofJson? (j : Json) : Option ServiceInstanceStatus := do
  let r ← j.record? ⟨["conditions", "provisionStatus", "asyncOpInProgress", "dashboardURL"], 0⟩
  return {
    conditions := ← withDefault r "conditions" (Json.list? Condition.ofJson?) []
    provisionStatus := ← optional r "provisionStatus" Json.text?
    asyncOpInProgress := ← withDefault r "asyncOpInProgress" Json.bool? false
    dashboardUrl := ← optional r "dashboardURL" Json.text? }

end ServiceInstanceStatus

namespace ServiceBindingSpec

def toJson (s : ServiceBindingSpec) : Json :=
  .ofPresent
    [always "externalID" (.string s.externalId),
      always "instanceRef" s.instanceRef.toJson,
      present "parameters" Document.json s.parameters,
      nonempty "parametersFrom" ParameterSource.toJson s.parameterSources,
      always "secretName" (.string s.secretName)]

def ofJson? (j : Json) : Option ServiceBindingSpec := do
  let r ← j.record? ⟨["instanceRef", "parameters", "parametersFrom", "secretName", "externalID"], 1⟩
  return {
    instanceRef := ← required r "instanceRef" NameReference.ofJson?
    parameters := ← Record.parameters r
    parameterSources := ← Record.parameterSources r
    secretName := ← withDefault r "secretName" Json.text? ""
    externalId := ← withDefault r "externalID" Json.text? "" }

end ServiceBindingSpec

namespace ServiceBindingStatus

def toJson (s : ServiceBindingStatus) : Json :=
  .ofPresent
    [always "asyncOpInProgress" (.bool s.asyncOpInProgress),
      always "conditions" (.ofList Condition.toJson s.conditions)]

def ofJson? (j : Json) : Option ServiceBindingStatus := do
  let r ← j.record? ⟨["conditions", "asyncOpInProgress"], 0⟩
  return {
    conditions := ← withDefault r "conditions" (Json.list? Condition.ofJson?) []
    asyncOpInProgress := ← withDefault r "asyncOpInProgress" Json.bool? false }

end ServiceBindingStatus

/-! ### Secrets -/

def bytesToJson (bytes : List UInt8) : Json := .string (String.ofList (Text.Base64.encode bytes))

/-- Reads secret bytes; null stands for no bytes. -/
def bytesOfJson? : Json → Option (List UInt8)
  | .null => some []
  | .string s => Text.Base64.decode? s.toList
  | _ => none

def secretDataToJson (data : SortedMap String (List UInt8)) : Json :=
  .object (data.entries.map fun e => (e.1, bytesToJson e.2))

def secretDataOfJson? (j : Json) : Option (SortedMap String (List UInt8)) := j.map? bytesOfJson?

namespace SecretContents

def presentFields (s : SecretContents) : List (Option (String × Json)) :=
  [present "data" secretDataToJson s.data,
    present "immutable" .bool s.immutable,
    present "stringData" .ofTexts s.stringData,
    present "type" .string s.type]

def ofFields? (r : List (String × Json)) : Option SecretContents := do
  return {
    data := ← optional r "data" secretDataOfJson?
    stringData := ← optional r "stringData" Json.texts?
    type := ← optional r "type" Json.text?
    immutable := ← optional r "immutable" Json.bool? }

end SecretContents

end ServiceTemplates
