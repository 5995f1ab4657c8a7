import ServiceTemplates.Json.Basic

/-!
# Schemas

The shape of the states of an object as the API server is told about it. A schema is a
list of properties, each with a description for readers. What the API server does with
a property that is absent depends on its `Presence`.
-/

namespace ServiceTemplates

inductive Presence where
  | required
  /-- It may be absent or null. -/
  | nullable
  /-- It may be absent; a default is filled in. -/
  | defaulted
  /-- It may be absent and then stays so. -/
  | optional
deriving DecidableEq

mutual

inductive Shape where
  | text
  | integer
  | flag
  | texts
  | document
  | record (properties : List Property)
  /-- A list of records, with what one of them is. -/
  | records (about : String) (properties : List Property)

inductive Property where
  /-- The name of a property, its presence, its shape and what it is for. -/
  | mk (name : String) (presence : Presence) (shape : Shape) (about : String)

end

namespace Property

def name : Property → String
  | mk name _ _ _ => name

def isRequired : Property → Bool
  | mk _ presence _ _ => presence = .required

end Property

/-- The value that stands for an absent one of a shape. -/
def Shape.absent : Shape → Json
  | text => .string ""
  | integer => .ofInt 0
  | flag => .bool false
  | texts => .object []
  | document => .object []
  | record _ => .object []
  | records _ _ => .array []

def Presence.facets (shape : Shape) : Presence → List (String × Json)
  | required => []
  | nullable => [("nullable", .bool true)]
  | defaulted => [("default", shape.absent)]
  | optional => []

def typeFacet (name : String) : String × Json := ("type", .string name)

/-- The names of the properties that have to be there, in order; nothing is said if
there are none. -/
def requiredFacets (properties : List Property) : List (String × Json) :=
  match (properties.filter Property.isRequired).map Property.name with
  | [] => []
  | names =>
    [("required", .ofList .string (SortedMap.ofList (names.map fun n => (n, ()))).keys)]

mutual

def Shape.facets : Shape → List (String × Json)
  | .text => [typeFacet "string"]
  | .integer => [typeFacet "integer", ("format", .string "int64")]
  | .flag => [typeFacet "boolean"]
  | .texts => [typeFacet "object", ("additionalProperties", .ofFields [typeFacet "string"])]
  | .document => [typeFacet "object", ("x-kubernetes-preserve-unknown-fields", .bool true)]
  | .record properties =>
    typeFacet "object" :: ("properties", .ofFields (Property.listFields properties))
      :: requiredFacets properties
  | .records about properties =>
    [typeFacet "array",
      ("items", .ofFields
        (typeFacet "object" :: ("description", .string about)
          :: ("properties", .ofFields (Property.listFields properties))
          :: requiredFacets properties))]

def Property.toJson : Property → Json
  | .mk _ presence shape about =>
    .ofFields (("description", .string about) :: presence.facets shape ++ shape.facets)

/-- The schemas of some properties, each under its name. -/
def Property.listFields : List Property → List (String × Json)
  | [] => []
  | p :: rest => (p.name, p.toJson) :: Property.listFields rest

end

end ServiceTemplates
