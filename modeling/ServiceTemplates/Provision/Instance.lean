import ServiceTemplates.Error
import ServiceTemplates.Ownership

/-!
# Provisioned instances

The service instance that is built for a templated instance whose template has been
applied, and what of an existing one follows later changes. A service instance is
only built for a request that names both a class and a plan.
-/

namespace ServiceTemplates

/-- The service instance for a templated instance: same name, namespace and labels,
controlled by the templated one. -/
def TemplatedInstance.provision (inst : TemplatedInstance) : Except Error ServiceInstance :=
  let spec : TemplatedInstanceSpec := inst.spec
  if spec.requiresTemplate then
    throw (.planNotResolved inst.nsOrEmpty inst.displayName)
  else
    pure {
      metadata := {
        name := some inst.displayName
        ns := inst.metadata.ns
        labels := inst.metadata.labels
        ownerReferences := some [inst.controllerReference] }
      spec := {
        plan := spec.plan
        parameters := spec.parameters
        parameterSources := spec.parameterSources
        externalId := spec.externalId
        updateRequests := spec.updateRequests } }

/-- The service instance with class and plan, parameters, sources and counter as the
templated instance has them now. -/
def ServiceInstance.refresh (provisioned : ServiceInstance) (inst : TemplatedInstance) :
    ServiceInstance :=
  let wanted : TemplatedInstanceSpec := inst.spec
  let spec : ServiceInstanceSpec := provisioned.spec
  { provisioned with
    spec := { spec with
      plan := wanted.plan
      parameters := wanted.parameters
      parameterSources := wanted.parameterSources
      updateRequests := wanted.updateRequests } }

end ServiceTemplates
