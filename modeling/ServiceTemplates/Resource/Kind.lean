/-!
# Kinds of objects

The eleven kinds of objects that the controller reads or writes: the two templated
kinds that users write, templates for each of the two at three tiers, the two
provisioned kinds of the service catalog, and secrets.
-/

namespace ServiceTemplates

/-- The kinds of objects. -/
inductive Kind where
  | templatedInstance
  | templatedBinding
  | instanceTemplate
  | clusterInstanceTemplate
  | brokerInstanceTemplate
  | bindingTemplate
  | clusterBindingTemplate
  | brokerBindingTemplate
  | serviceInstance
  | serviceBinding
  | secret
deriving DecidableEq, Inhabited

/-- The scope of a template; the narrower one has precedence. -/
inductive Tier where
  | broker
  | cluster
  | namespaced
deriving DecidableEq, Inhabited

def Tier.name : Tier → String
  | .broker => "broker"
  | .cluster => "cluster"
  | .namespaced => "namespace"

namespace Kind

/-- All kinds, in the order of their declaration. -/
def all : List Kind :=
  [.templatedInstance, .templatedBinding, .instanceTemplate, .clusterInstanceTemplate,
    .brokerInstanceTemplate, .bindingTemplate, .clusterBindingTemplate, .brokerBindingTemplate,
    .serviceInstance, .serviceBinding, .secret]

theorem mem_all (k : Kind) : k ∈ all := by cases k <;> decide

def name : Kind → String
  | templatedInstance => "TemplatedInstance"
  | templatedBinding => "TemplatedBinding"
  | instanceTemplate => "InstanceTemplate"
  | clusterInstanceTemplate => "ClusterInstanceTemplate"
  | brokerInstanceTemplate => "BrokerInstanceTemplate"
  | bindingTemplate => "BindingTemplate"
  | clusterBindingTemplate => "ClusterBindingTemplate"
  | brokerBindingTemplate => "BrokerBindingTemplate"
  | serviceInstance => "ServiceInstance"
  | serviceBinding => "ServiceBinding"
  | secret => "Secret"

def ofName? (s : String) : Option Kind := all.find? fun k => k.name == s

theorem ofName?_name (k : Kind) : ofName? k.name = some k := by cases k <;> decide

theorem name_injective {a b : Kind} (h : a.name = b.name) : a = b := by
  have := ofName?_name a
  rw [h, ofName?_name] at this
  exact (Option.some.inj this).symm

/-- The API group of a kind, empty for the core group. -/
def group : Kind → String
  | serviceInstance => "servicecatalog.k8s.io"
  | serviceBinding => "servicecatalog.k8s.io"
  | secret => ""
  | _ => "templates.servicecatalog.k8s.io"

def version : Kind → String
  | serviceInstance => "v1beta1"
  | serviceBinding => "v1beta1"
  | secret => "v1"
  | _ => "v1alpha1"

/-- Group and version around a slash, the version alone in the core group. -/
def apiVersion (k : Kind) : String :=
  if k.group.isEmpty then k.version else k.group ++ "/" ++ k.version

def singular (k : Kind) : String := String.ofList (k.name.toList.map Char.toLower)

/-- The name under which requests address a kind. -/
def plural (k : Kind) : String := k.singular ++ "s"

/-- The tier of a template kind. -/
def tier? : Kind → Option Tier
  | instanceTemplate => some .namespaced
  | clusterInstanceTemplate => some .cluster
  | brokerInstanceTemplate => some .broker
  | bindingTemplate => some .namespaced
  | clusterBindingTemplate => some .cluster
  | brokerBindingTemplate => some .broker
  | _ => none

def isNamespaced (k : Kind) : Bool :=
  match k.tier? with
  | some .cluster => false
  | some .broker => false
  | _ => true

end Kind

end ServiceTemplates
