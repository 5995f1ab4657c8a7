import ServiceTemplates.Definition.Contents
import ServiceTemplates.Resource.Kind

/-!
# Resource definitions

What the API server is told about each kind, so that it accepts and lists objects of
the kind: names, scope, the columns of listings, and the schema. Secrets are built in
and need no definition.
-/

namespace ServiceTemplates

structure Column where
  name : String
  type : String
  /-- Where in an object the entry is found. -/
  path : String

/-- A part of the schema: what it is and its properties. -/
structure StateSchema where
  about : String
  properties : List Property

structure Definition where
  shortName : Option String := none
  columns : List Column := []
  spec : StateSchema
  /-- The observed state, for the kinds that have one. -/
  status : Option StateSchema := none

def planColumns : List Column :=
  [⟨"Class", "string", ".spec.clusterServiceClassExternalName"⟩,
    ⟨"Plan", "string", ".spec.clusterServicePlanExternalName"⟩]

def templatedInstanceDefinition : Definition where
  shortName := "ti"
  columns :=
    ⟨"Type", "string", ".spec.serviceType"⟩ :: planColumns ++
      [⟨"Status", "string", ".status.provisionStatus"⟩]
  spec := {
    about := describe
      ["TemplatedInstance Custom Resource Definition",
        "",
        "Requests a service instance by service type. Class, plan and parameters left",
        "unset are filled in from instance templates.",
        "",
        "# Example",
        "",
        "```yaml",
        "apiVersion: templates.servicecatalog.k8s.io/v1alpha1",
        "kind: TemplatedInstance",
        "metadata:",
        "  name: orders-db",
        "  namespace: shop",
        "spec:",
        "  serviceType: mysqldb",
        "  parameters:",
        "    storageGb: 20",
        "```"]
    properties := templatedInstanceProperties }
  status := some ⟨"Status of a TemplatedInstance", templatedInstanceStatusProperties⟩

def templatedBindingDefinition : Definition where
  shortName := "tb"
  columns :=
    [⟨"Instance", "string", ".spec.instanceRef.name"⟩,
      ⟨"Secret", "string", ".spec.secretName"⟩,
      ⟨"Synced", "boolean", ".status.synced"⟩]
  spec := {
    about := describe
      ["TemplatedBinding Custom Resource Definition",
        "",
        "Requests credentials for a TemplatedInstance. Parameters and secret key",
        "renames left unset are filled in from binding templates.",
        "",
        "# Example",
        "",
        "```yaml",
        "apiVersion: templates.servicecatalog.k8s.io/v1alpha1",
        "kind: TemplatedBinding",
        "metadata:",
        "  name: orders-db-creds",
        "  namespace: shop",
        "spec:",
        "  instanceRef:",
        "    name: orders-db",
        "  secretName: orders-db",
        "  secretKeys:",
        "    password: db-password",
        "```"]
    properties := templatedBindingProperties }
  status := some ⟨"Status of a TemplatedBinding", templatedBindingStatusProperties⟩

def instanceTemplateDefinition : Definition where
  shortName := "it"
  columns :=
    ⟨"Type", "string",
      ".metadata.labels.templates\\.servicecatalog\\.k8s\\.io/service-type"⟩ :: planColumns
  spec := {
    about := describe
      ["Instance template payload: plan defaults and parameters",
        "",
        "This is also the shape of an effective (merged) instance template."]
    properties := instanceDefaultsProperties }

def bindingTemplateDefinition : Definition where
  shortName := "bt"
  spec := {
    about := describe
      ["Binding template payload: parameters and secret key renames",
        "",
        "This is also the shape of an effective (merged) binding template."]
    properties := bindingDefaultsProperties }

namespace Kind

def definition? : Kind → Option Definition
  | templatedInstance => some templatedInstanceDefinition
  | templatedBinding => some templatedBindingDefinition
  | instanceTemplate => some instanceTemplateDefinition
  | clusterInstanceTemplate => some {
      shortName := "cit"
      spec := ⟨"Cluster-wide instance defaults", instanceDefaultsProperties⟩ }
  | brokerInstanceTemplate => some {
      shortName := "bit"
      columns := [⟨"Broker", "string", ".spec.brokerName"⟩]
      spec :=
        ⟨"Instance defaults published for one broker",
          brokerProperties instanceDefaultsProperties⟩ }
  | bindingTemplate => some bindingTemplateDefinition
  | clusterBindingTemplate => some {
      shortName := "cbt"
      spec := ⟨"Cluster-wide binding defaults", bindingDefaultsProperties⟩ }
  | brokerBindingTemplate => some {
      shortName := "bbt"
      spec :=
        ⟨"Binding defaults published for one broker",
          brokerProperties bindingDefaultsProperties⟩ }
  | serviceInstance => some {
      spec := ⟨"ServiceInstance: a provisioned service", serviceInstanceProperties⟩
      status := some
        ⟨"Status of a ServiceInstance as reported by the catalog",
          serviceInstanceStatusProperties⟩ }
  | serviceBinding => some {
      spec :=
        ⟨"ServiceBinding: credentials for a provisioned service", serviceBindingProperties⟩
      status := some
        ⟨"Status of a ServiceBinding as reported by the catalog",
          serviceBindingStatusProperties⟩ }
  | secret => none

def scopeName (k : Kind) : String := if k.isNamespaced then "Namespaced" else "Cluster"

end Kind

def Column.toJson (c : Column) : Json :=
  .ofFields [("jsonPath", .string c.path), ("name", .string c.name), ("type", .string c.type)]

namespace Definition

/-- The properties of an object: its desired state and, if the kind has one, its
observed state. -/
def properties (d : Definition) : List Property :=
  .mk "spec" .required (.record d.spec.properties) d.spec.about
    :: (d.status.map fun s => Property.mk "status" .nullable (.record s.properties) s.about).toList

def schema (d : Definition) (k : Kind) : Json :=
  .ofFields
    (("title", .string k.name)
      :: ("description",
          .string ("Auto-generated derived type for " ++ k.name ++ "Spec via `CustomResource`"))
      :: (Shape.record d.properties).facets)

/-- The one version of the kind that is served. -/
def version (d : Definition) (k : Kind) : Json :=
  .ofFields
    [("name", .string k.version),
      ("served", .bool true),
      ("storage", .bool true),
      ("additionalPrinterColumns", .ofList Column.toJson d.columns),
      ("schema", .ofFields [("openAPIV3Schema", d.schema k)]),
      ("subresources", .ofFields (if d.status.isSome then [("status", .object [])] else []))]

/-- The definition of a kind as the API server is given it. -/
def toJson (d : Definition) (k : Kind) : Json :=
  .ofFields
    [("apiVersion", .string "apiextensions.k8s.io/v1"),
      ("kind", .string "CustomResourceDefinition"),
      ("metadata", .ofFields [("name", .string (k.plural ++ "." ++ k.group))]),
      ("spec", .ofFields
        [("group", .string k.group),
          ("names", .ofFields
            [("categories", .array []),
              ("kind", .string k.name),
              ("plural", .string k.plural),
              ("shortNames", .ofList .string d.shortName.toList),
              ("singular", .string k.singular)]),
          ("scope", .string k.scopeName),
          ("versions", .array [d.version k])])]

end Definition

end ServiceTemplates
