import ServiceTemplates.Ownership
import ServiceTemplates.Store.Cluster

/-!
# Triggers

Which objects are looked at again when a related one changes: the templated resources
that a template may apply to, and the secret of a service binding. A template within a
namespace reaches only that namespace.
-/

namespace ServiceTemplates

variable {k : Kind}

/-- Namespace and name of an object, if it has a namespace. -/
def Object.location? (obj : Object k) : Option (String × String) :=
  obj.metadata.ns.map fun ns => (ns, obj.displayName)

/-- The service type that a template is labelled with, if not empty. -/
def Metadata.serviceType? (m : Metadata) : Option String :=
  (m.labels.bind (·.find? serviceTypeLabel)).filter fun s => !s.isEmpty

/-- The namespace that a template reaches; none stands for all. -/
def Object.reach (template : Object k) : Option String :=
  if k.tier? = some .namespaced then template.metadata.ns else none

def instancesForTemplate (listers : Listers) (template : Object k) : List (String × String) :=
  match template.metadata.serviceType? with
  | none => []
  | some serviceType =>
    let instances := listers.list .templatedInstance template.reach .everything
    (instances.filter fun (inst : TemplatedInstance) =>
        TemplatedInstanceSpec.serviceType inst.spec == serviceType).filterMap Object.location?

/-- Whether the instance that a binding binds is known and has a service type. -/
def bindsServiceType (listers : Listers) (serviceType : String) (binding : TemplatedBinding) :
    Bool :=
  let spec : TemplatedBindingSpec := binding.spec
  match listers.get? .templatedInstance binding.metadata.ns spec.instanceRef.name with
  | some inst => TemplatedInstanceSpec.serviceType inst.spec == serviceType
  | none => false

def bindingsForTemplate (listers : Listers) (template : Object k) : List (String × String) :=
  match template.metadata.serviceType? with
  | none => []
  | some serviceType =>
    let bindings := listers.list .templatedBinding template.reach .everything
    (bindings.filter (bindsServiceType listers serviceType)).filterMap Object.location?

/-- The secret that the catalog writes for a service binding under the control of a
templated one. -/
def shadowSecretForBinding (binding : ServiceBinding) : Option (String × String) :=
  let spec : ServiceBindingSpec := binding.spec
  match binding.metadata.controllerName? .templatedBinding with
  | none => none
  | some _ =>
    if spec.secretName.isEmpty then none
    else binding.metadata.ns.map fun ns => (ns, spec.secretName)

end ServiceTemplates
