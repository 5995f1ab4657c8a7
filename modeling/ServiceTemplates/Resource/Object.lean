import ServiceTemplates.Resource.Contents
import ServiceTemplates.Resource.Kind
import ServiceTemplates.Resource.Metadata

/-!
# Objects

An object has metadata, a desired state and, for four of the kinds, an observed
state. The type of the states depends on the kind, so that one type `Object k`
serves all kinds: stores, requests and triggers are written once. The kinds without
an observed state have the empty type there, so their objects cannot carry one.
-/

namespace ServiceTemplates

/-- The type of the desired state of a kind. -/
@[reducible] def Kind.Spec : Kind → Type
  | .templatedInstance => TemplatedInstanceSpec
  | .templatedBinding => TemplatedBindingSpec
  | .instanceTemplate => InstanceDefaults
  | .clusterInstanceTemplate => InstanceDefaults
  | .brokerInstanceTemplate => BrokerDefaults InstanceDefaults
  | .bindingTemplate => BindingDefaults
  | .clusterBindingTemplate => BindingDefaults
  | .brokerBindingTemplate => BrokerDefaults BindingDefaults
  | .serviceInstance => ServiceInstanceSpec
  | .serviceBinding => ServiceBindingSpec
  | .secret => SecretContents

/-- The type of the observed state of a kind. -/
@[reducible] def Kind.Status : Kind → Type
  | .templatedInstance => TemplatedInstanceStatus
  | .templatedBinding => TemplatedBindingStatus
  | .serviceInstance => ServiceInstanceStatus
  | .serviceBinding => ServiceBindingStatus
  | _ => Empty

instance : (k : Kind) → DecidableEq k.Spec
  | .templatedInstance => inferInstanceAs (DecidableEq TemplatedInstanceSpec)
  | .templatedBinding => inferInstanceAs (DecidableEq TemplatedBindingSpec)
  | .instanceTemplate => inferInstanceAs (DecidableEq InstanceDefaults)
  | .clusterInstanceTemplate => inferInstanceAs (DecidableEq InstanceDefaults)
  | .brokerInstanceTemplate => inferInstanceAs (DecidableEq (BrokerDefaults InstanceDefaults))
  | .bindingTemplate => inferInstanceAs (DecidableEq BindingDefaults)
  | .clusterBindingTemplate => inferInstanceAs (DecidableEq BindingDefaults)
  | .brokerBindingTemplate => inferInstanceAs (DecidableEq (BrokerDefaults BindingDefaults))
  | .serviceInstance => inferInstanceAs (DecidableEq ServiceInstanceSpec)
  | .serviceBinding => inferInstanceAs (DecidableEq ServiceBindingSpec)
  | .secret => inferInstanceAs (DecidableEq SecretContents)

instance : (k : Kind) → DecidableEq k.Status
  | .templatedInstance => inferInstanceAs (DecidableEq TemplatedInstanceStatus)
  | .templatedBinding => inferInstanceAs (DecidableEq TemplatedBindingStatus)
  | .serviceInstance => inferInstanceAs (DecidableEq ServiceInstanceStatus)
  | .serviceBinding => inferInstanceAs (DecidableEq ServiceBindingStatus)
  | .instanceTemplate => inferInstanceAs (DecidableEq Empty)
  | .clusterInstanceTemplate => inferInstanceAs (DecidableEq Empty)
  | .brokerInstanceTemplate => inferInstanceAs (DecidableEq Empty)
  | .bindingTemplate => inferInstanceAs (DecidableEq Empty)
  | .clusterBindingTemplate => inferInstanceAs (DecidableEq Empty)
  | .brokerBindingTemplate => inferInstanceAs (DecidableEq Empty)
  | .secret => inferInstanceAs (DecidableEq Empty)

/-- An object of a kind. -/
structure Object (k : Kind) where
  metadata : Metadata
  spec : k.Spec
  status : Option k.Status := none
deriving DecidableEq

/-- A request for a service instance. -/
abbrev TemplatedInstance := Object .templatedInstance

/-- A request for credentials. -/
abbrev TemplatedBinding := Object .templatedBinding

abbrev ServiceInstance := Object .serviceInstance

abbrev ServiceBinding := Object .serviceBinding

abbrev Secret := Object .secret

abbrev AnyObject := (k : Kind) × Object k

namespace Object

variable {k : Kind}

/-- The name by which messages and built objects refer to an object. -/
def displayName (obj : Object k) : String := obj.metadata.displayName

/-- The namespace, empty when there is none. -/
def nsOrEmpty (obj : Object k) : String := obj.metadata.ns.getD ""

end Object

end ServiceTemplates
