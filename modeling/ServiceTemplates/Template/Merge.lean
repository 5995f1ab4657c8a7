import ServiceTemplates.Error
import ServiceTemplates.Json.Merge
import ServiceTemplates.Json.Printer
import ServiceTemplates.Resource.Contents

/-!
# Merging templates

How the defaults of two tiers become one. Each merge takes a `base`, the broader
tier, and an `upper`, the narrower one, which wins. Parameter documents are merged
deeply and have to be objects as soon as there are two of them; parameter sources are
taken whole from one side; class and plan identifiers and renames of secret keys are
merged one by one. `foldTemplates` runs a merge from the broadest tier to the
narrowest, starting with defaults that say nothing.
-/

namespace ServiceTemplates

def Json.typeName : Json → String
  | .null => "null"
  | .bool _ => "a boolean"
  | .number _ => "a number"
  | .string _ => "a string"
  | .array _ => "an array"
  | .object _ => "an object"

/-- Refuses a document that is no object; `side` says which of the two it was. -/
def requireObject (side : String) (d : Document) : Except Error Unit :=
  match d.json with
  | .object _ => pure ()
  | other =>
    throw (.malformedParameters
      (side ++ " parameters must be a JSON object, got " ++ other.typeName))

/-- One parameter document laid over another. Where one is missing the other is the
result, whatever it is; of two documents both have to be objects. -/
def mergeParameters (base upper : Option Document) : Except Error (Option Document) :=
  match base, upper with
  | base, none => pure base
  | none, upper => pure upper
  | some base, some upper => do
    requireObject "base" base
    requireObject "overlay" upper
    pure (some (base.overlay upper))

/-- The own list of parameter sources if it has any entry, otherwise the other. -/
def mergeSources (own template : List ParameterSource) : List ParameterSource :=
  if own.isEmpty then template else own

/-- The renames of both; where both rename a key, `upper` wins. -/
def mergeRenames (base upper : SortedMap String String) : SortedMap String String :=
  base.union upper

/-- The text by which parameters are compared; missing parameters have the empty
one, which no document has. -/
def parameterText : Option Document → String
  | none => ""
  | some d => d.json.render

/-- Whether two parameter payloads are written alike. -/
def sameParameters (a b : Option Document) : Bool := parameterText a == parameterText b

/-- Instance defaults of a narrower tier laid over those of a broader one. -/
def InstanceDefaults.merge (base upper : InstanceDefaults) : Except Error InstanceDefaults := do
  let parameters ← mergeParameters base.parameters upper.parameters
  return {
    plan := base.plan.merge upper.plan
    parameters := parameters
    parameterSources := mergeSources upper.parameterSources base.parameterSources }

/-- Binding defaults of a narrower tier laid over those of a broader one. -/
def BindingDefaults.merge (base upper : BindingDefaults) : Except Error BindingDefaults := do
  let parameters ← mergeParameters base.parameters upper.parameters
  return {
    parameters := parameters
    parameterSources := mergeSources upper.parameterSources base.parameterSources
    secretKeys := mergeRenames base.secretKeys upper.secretKeys }

/-- Defaults that can be merged tier over tier. -/
class Mergeable (Defaults : Type) where
  /-- The defaults that say nothing. -/
  blank : Defaults
  /-- A narrower tier laid over a broader one. -/
  merge : Defaults → Defaults → Except Error Defaults

instance : Mergeable InstanceDefaults := ⟨{}, InstanceDefaults.merge⟩

instance : Mergeable BindingDefaults := ⟨{}, BindingDefaults.merge⟩

/-- The defaults of all tiers, broadest first, in one. -/
def foldTemplates {Defaults : Type} [Mergeable Defaults] (tiers : List Defaults) :
    Except Error Defaults :=
  tiers.foldlM Mergeable.merge Mergeable.blank

end ServiceTemplates
