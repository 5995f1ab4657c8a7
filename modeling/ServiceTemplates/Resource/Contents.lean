import ServiceTemplates.Json.Basic
import ServiceTemplates.Resource.PlanReference

/-!
# Contents of the objects

What users ask for, what templates offer, what the catalog provisions, and what is
reported back: the desired state (`…Spec`, `…Defaults`) and the observed state
(`…Status`) of each kind of object.
-/

namespace ServiceTemplates

/-! ### Shared parts -/

structure NameReference where
  name : String
deriving DecidableEq, Inhabited

structure SecretKeyReference where
  name : String
  key : String
deriving DecidableEq, Inhabited

structure ParameterSource where
  /-- The secret key whose value is an object of parameters. -/
  secretKeyRef : Option SecretKeyReference := none
deriving DecidableEq, Inhabited

/-- The labels that a plan has to carry to be chosen. -/
structure PlanSelector where
  matchLabels : SortedMap String String := ∅
deriving DecidableEq, Inhabited

structure Condition where
  type : String
  status : String
  lastTransitionTime : Option String := none
  reason : Option String := none
  message : Option String := none
deriving DecidableEq, Inhabited

/-! ### What users ask for -/

/-- A request for a service instance, class and plan and parameters possibly left
to templates. -/
structure TemplatedInstanceSpec where
  /-- The service type by which templates are selected. -/
  serviceType : String := ""
  /-- A choice of plan by labels instead of by name. -/
  planSelector : Option PlanSelector := none
  plan : PlanReference := {}
  parameters : Option Document := none
  parameterSources : List ParameterSource := []
  externalId : String := ""
  /-- A counter; raising it makes the broker look at the instance again. -/
  updateRequests : Int64 := 0
deriving DecidableEq, Inhabited

/-- What is known of the instance provisioned for a request. -/
structure TemplatedInstanceStatus where
  classRef : Option NameReference := none
  planRef : Option NameReference := none
  provisionStatus : Option String := none
  conditions : List Condition := []
  synced : Bool := false
  lastSyncTime : Option String := none
deriving DecidableEq, Inhabited

/-- A request for credentials of a templated instance. -/
structure TemplatedBindingSpec where
  instanceRef : NameReference
  parameters : Option Document := none
  parameterSources : List ParameterSource := []
  /-- New names for the keys of the credentials. -/
  secretKeys : SortedMap String String := ∅
  /-- The secret that is to receive the credentials. -/
  secretName : String := ""
  externalId : String := ""
deriving DecidableEq, Inhabited

/-- What is known of the binding provisioned for a request. -/
structure TemplatedBindingStatus where
  conditions : List Condition := []
  secretName : Option String := none
  synced : Bool := false
  lastSyncTime : Option String := none
deriving DecidableEq, Inhabited

/-! ### What templates offer -/

/-- Defaults for instances, at one tier or merged from several. -/
structure InstanceDefaults where
  /-- The default class and plan. -/
  plan : PlanReference := {}
  /-- The default parameters. -/
  parameters : Option Document := none
  /-- Where further parameters come from by default. -/
  parameterSources : List ParameterSource := []
deriving DecidableEq, Inhabited

/-- Defaults for bindings, at one tier or merged from several. -/
structure BindingDefaults where
  /-- The default parameters. -/
  parameters : Option Document := none
  /-- Where further parameters come from by default. -/
  parameterSources : List ParameterSource := []
  /-- The default new names for the keys of the credentials. -/
  secretKeys : SortedMap String String := ∅
deriving DecidableEq, Inhabited

/-- Defaults that a broker publishes. -/
structure BrokerDefaults (Defaults : Type) where
  brokerName : String
  /-- The defaults. -/
  defaults : Defaults
deriving DecidableEq, Inhabited

/-! ### What the catalog provisions -/

/-- A service instance as the catalog is to provision it. -/
structure ServiceInstanceSpec where
  plan : PlanReference := {}
  classRef : Option NameReference := none
  planRef : Option NameReference := none
  parameters : Option Document := none
  parameterSources : List ParameterSource := []
  externalId : String := ""
  /-- A counter; raising it makes the broker look at the instance again. -/
  updateRequests : Int64 := 0
deriving DecidableEq, Inhabited

structure ServiceInstanceStatus where
  conditions : List Condition := []
  provisionStatus : Option String := none
  asyncOpInProgress : Bool := false
  dashboardUrl : Option String := none
deriving DecidableEq, Inhabited

/-- A service binding as the catalog is to provision it. -/
structure ServiceBindingSpec where
  instanceRef : NameReference
  parameters : Option Document := none
  parameterSources : List ParameterSource := []
  /-- The secret to which the catalog writes the credentials. -/
  secretName : String := ""
  externalId : String := ""
deriving DecidableEq, Inhabited

structure ServiceBindingStatus where
  conditions : List Condition := []
  asyncOpInProgress : Bool := false
deriving DecidableEq, Inhabited

/-! ### Secrets -/

structure SecretContents where
  data : Option (SortedMap String (List UInt8)) := none
  stringData : Option (SortedMap String String) := none
  type : Option String := none
  immutable : Option Bool := none
deriving DecidableEq, Inhabited

/-! ### Comparisons -/

/-- Equality of optional documents as values. -/
def sameDocument : Option Document → Option Document → Bool
  | none, none => true
  | some a, some b => a.sameValue b
  | _, _ => false

/-- Equality of requests as values, parameters being compared as values. -/
def TemplatedInstanceSpec.sameValue (a b : TemplatedInstanceSpec) : Bool :=
  sameDocument a.parameters b.parameters
    && decide ({ a with parameters := none } = { b with parameters := none })

/-- Equality of requests as values, parameters being compared as values. -/
def TemplatedBindingSpec.sameValue (a b : TemplatedBindingSpec) : Bool :=
  sameDocument a.parameters b.parameters
    && decide ({ a with parameters := none } = { b with parameters := none })

/-- Whether two reports say the same of the instance, whenever they were made. -/
def TemplatedInstanceStatus.sameObservation (a b : TemplatedInstanceStatus) : Bool :=
  decide ({ a with lastSyncTime := none } = { b with lastSyncTime := none })

/-- Whether two reports say the same of the binding, whenever they were made. -/
def TemplatedBindingStatus.sameObservation (a b : TemplatedBindingStatus) : Bool :=
  decide ({ a with lastSyncTime := none } = { b with lastSyncTime := none })

/-- Whether templates are still needed to find a class and a plan. -/
def TemplatedInstanceSpec.requiresTemplate (spec : TemplatedInstanceSpec) : Bool :=
  !spec.plan.isComplete

end ServiceTemplates
