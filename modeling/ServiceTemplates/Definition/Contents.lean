import ServiceTemplates.Definition.Schema

/-!
# Schemas of the contents

The properties of what users ask for, what templates offer, what the catalog
provisions, and what is reported back, with their descriptions.
-/

namespace ServiceTemplates

open Presence Shape

/-! ### Shared parts -/

def describe (lines : List String) : String := "\n".intercalate lines

def nameProperties : List Property := [.mk "name" required text "Object name"]

def planProperties : List Property :=
  [.mk "clusterServiceClassExternalName" nullable text
      "External name of a cluster-scoped service class",
    .mk "clusterServicePlanExternalName" nullable text
      "External name of a cluster-scoped service plan",
    .mk "clusterServiceClassName" nullable text
      "Kubernetes name of a cluster-scoped service class",
    .mk "clusterServicePlanName" nullable text
      "Kubernetes name of a cluster-scoped service plan",
    .mk "serviceClassExternalName" nullable text
      "External name of a namespaced service class",
    .mk "servicePlanExternalName" nullable text
      "External name of a namespaced service plan",
    .mk "serviceClassName" nullable text "Kubernetes name of a namespaced service class",
    .mk "servicePlanName" nullable text "Kubernetes name of a namespaced service plan"]

def parametersProperty (about : String) : Property := .mk "parameters" optional document about

def sourcesProperty (about : String) : Property :=
  .mk "parametersFrom" optional
    (records "Indirection to a parameter value held in a secret"
      [.mk "secretKeyRef" nullable
        (record
          [.mk "name" required text "Secret name",
            .mk "key" required text "Key within the secret"])
        "Secret key whose value is a JSON object of parameters"])
    about

def conditionsProperty (about : String) : Property :=
  .mk "conditions" defaulted
    (records
      (describe
        ["Condition represents a status condition for the resource",
          "",
          "Conditions reported by the service catalog are copied onto templated resources."])
      [.mk "type" required text "Type of condition",
        .mk "status" required text "Status of condition (True, False, Unknown)",
        .mk "lastTransitionTime" nullable text "Last transition time",
        .mk "reason" nullable text "Reason for condition",
        .mk "message" nullable text "Message describing condition"])
    about

def externalIdProperty (about : String) : Property := .mk "externalID" defaulted text about

/-! ### What users ask for -/

def templatedInstanceProperties : List Property :=
  planProperties ++
    [.mk "serviceType" defaulted text "Service type used to select templates, e.g. \"mysqldb\"",
      .mk "planSelector" nullable
        (record [.mk "matchLabels" defaulted texts "Labels a candidate plan must carry"])
        "Declarative plan filter used instead of a literal class/plan",
      parametersProperty "Provisioning parameters",
      sourcesProperty "Parameters sourced from secrets",
      externalIdProperty "Identifier passed to the broker; immutable once set",
      .mk "updateRequests" defaulted integer
        "Incremented to force the broker to re-evaluate the instance"]

def templatedInstanceStatusProperties : List Property :=
  [.mk "classRef" nullable (record nameProperties)
      "Class the catalog resolved for the provisioned instance",
    .mk "planRef" nullable (record nameProperties)
      "Plan the catalog resolved for the provisioned instance",
    .mk "provisionStatus" nullable text "Provision status reported by the catalog",
    conditionsProperty "Conditions copied from the provisioned instance",
    .mk "synced" defaulted flag "Whether the provisioned instance matches this resource",
    .mk "lastSyncTime" nullable text "Last successful synchronization (RFC3339)"]

def templatedBindingProperties : List Property :=
  [.mk "instanceRef" required (record nameProperties) "TemplatedInstance being bound; immutable",
    parametersProperty "Binding parameters",
    sourcesProperty "Parameters sourced from secrets",
    .mk "secretKeys" optional texts "Renames credential keys: provisioned key -> desired key",
    .mk "secretName" defaulted text "Name of the secret that receives the credentials",
    externalIdProperty "Identifier passed to the broker; immutable once set"]

def templatedBindingStatusProperties : List Property :=
  [conditionsProperty "Conditions copied from the provisioned binding",
    .mk "secretName" nullable text "Secret the credentials are published to",
    .mk "synced" defaulted flag "Whether the provisioned binding matches this resource",
    .mk "lastSyncTime" nullable text "Last successful synchronization (RFC3339)"]

/-! ### What templates offer -/

def instanceDefaultsProperties : List Property :=
  planProperties ++
    [parametersProperty "Default parameters", sourcesProperty "Default parameter sources"]

def bindingDefaultsProperties : List Property :=
  [parametersProperty "Default parameters",
    sourcesProperty "Default parameter sources",
    .mk "secretKeys" optional texts
      "Default credential key renames: provisioned key -> desired key"]

def brokerProperties (defaults : List Property) : List Property :=
  .mk "brokerName" required text "Broker that publishes these defaults" :: defaults

/-! ### What the catalog provisions -/

def serviceInstanceProperties : List Property :=
  planProperties ++
    [.mk "clusterServiceClassRef" nullable (record nameProperties)
        "Class resolved by the catalog",
      .mk "clusterServicePlanRef" nullable (record nameProperties)
        "Plan resolved by the catalog",
      parametersProperty "Provisioning parameters",
      sourcesProperty "Parameters sourced from secrets",
      externalIdProperty "Identifier passed to the broker",
      .mk "updateRequests" defaulted integer "Incremented to force re-evaluation by the broker"]

def serviceInstanceStatusProperties : List Property :=
  [conditionsProperty "Catalog conditions (Ready, Failed, ...)",
    .mk "provisionStatus" nullable text "Provisioned, NotProvisioned, ...",
    .mk "asyncOpInProgress" defaulted flag "Whether a broker operation is running",
    .mk "dashboardURL" nullable text "Dashboard URL returned by the broker"]

def serviceBindingProperties : List Property :=
  [.mk "instanceRef" required (record nameProperties) "ServiceInstance being bound",
    parametersProperty "Binding parameters",
    sourcesProperty "Parameters sourced from secrets",
    .mk "secretName" defaulted text "Secret the catalog writes credentials to",
    externalIdProperty "Identifier passed to the broker"]

def serviceBindingStatusProperties : List Property :=
  [conditionsProperty "Catalog conditions (Ready, Failed, ...)",
    .mk "asyncOpInProgress" defaulted flag "Whether a broker operation is running"]

end ServiceTemplates
