import ServiceTemplates.Text.Quoted

/-!
# Causes of failure

Everything that can stop a pass, one constructor per cause. The wording of a cause
is `Error.message`, its short label `Error.reason`, and what the retry policy asks
of a cause are the three predicates `isRetryable`, `isConflict` and `isNotFound`.
-/

namespace ServiceTemplates

/-- What an API server says about a request that it refused. -/
structure ApiStatus where
  /-- The status code, which need not be the one of the response. -/
  code : Nat
  reason : String
  message : String
deriving DecidableEq, Inhabited

/-- The causes of failure. -/
inductive Error where
  /-- No template exists at any tier and the instance names no class and plan. -/
  | templateNotFound (serviceType : String)
  /-- Several broker templates match and nothing narrower chooses between them. -/
  | ambiguousTemplate (serviceType : String) (count : Nat)
  /-- A parameter document that has to be merged is no JSON object. -/
  | malformedParameters (reason : String)
  /-- The instance still lacks a class or a plan after templates were applied. -/
  | planNotResolved (ns name : String)
  /-- A provisioned resource exists that something else controls. -/
  | unmanagedResource (kind ns name : String)
  /-- A write was based on an outdated version. -/
  | conflict (kind name message : String)
  | notFound (kind name : String)
  /-- The object to create is already in the store. -/
  | alreadyExists (kind name : String)
  /-- A queue key does not name a namespace and a name. -/
  | invalidKey (key : String)
  | refused (status : ApiStatus)
  /-- A request could not be made or its answer not be read. -/
  | exchange
  /-- A value could not be written as text. -/
  | serialization
deriving DecidableEq, Inhabited

namespace Error

/-- The short label of a cause, as metrics and answers show it. -/
def reason : Error → String
  | templateNotFound .. => "TemplateNotFound"
  | ambiguousTemplate .. => "AmbiguousTemplate"
  | malformedParameters .. => "MalformedParameters"
  | planNotResolved .. => "PlanNotResolved"
  | unmanagedResource .. => "UnmanagedResource"
  | conflict .. => "Conflict"
  | notFound .. => "NotFound"
  | alreadyExists .. => "AlreadyExists"
  | invalidKey .. => "InvalidKey"
  | refused .. => "KubernetesError"
  | exchange => "KubernetesError"
  | serialization => "SerializationError"

/-- The wording of a cause; none where the wording belongs to the far side. -/
def message? : Error → Option String
  | templateNotFound serviceType =>
    some ("no template found for service type " ++ Text.quoted serviceType
      ++ " and the instance does not specify a class and plan")
  | ambiguousTemplate serviceType count =>
    some (toString count ++ " broker templates match service type " ++ Text.quoted serviceType
      ++ "; add a namespace or cluster template to choose one")
  | malformedParameters reason => some ("malformed parameters: " ++ reason)
  | planNotResolved ns name =>
    some ("templated instance " ++ ns ++ "/" ++ name ++ " does not resolve to a class and plan")
  | unmanagedResource kind ns name =>
    some (kind ++ " " ++ ns ++ "/" ++ name
      ++ " already exists and is not managed by this templated resource")
  | conflict kind name message => some ("write conflict on " ++ kind ++ " " ++ name ++ ": " ++ message)
  | notFound kind name => some (kind ++ " " ++ name ++ " not found")
  | alreadyExists kind name => some (kind ++ " " ++ name ++ " already exists")
  | invalidKey key => some ("invalid resource key " ++ Text.quoted key)
  | refused _ => none
  | exchange => none
  | serialization => none

/-- Whether trying again can help before anything else changes. -/
def isRetryable : Error → Bool
  | unmanagedResource .. => false
  | invalidKey _ => false
  | _ => true

/-- Whether a write met a newer version. -/
def isConflict : Error → Bool
  | conflict .. => true
  | refused status => status.code == 409
  | _ => false

def isNotFound : Error → Bool
  | notFound .. => true
  | refused status => status.code == 404
  | _ => false

end Error

end ServiceTemplates
