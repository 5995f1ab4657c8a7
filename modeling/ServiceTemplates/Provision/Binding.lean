import ServiceTemplates.Provision.Secret

/-!
# Provisioned bindings

The service binding that is built for a templated binding, and what of an existing
one follows later changes. The catalog is told to write the credentials to the
shadow of the secret that was asked for.
-/

namespace ServiceTemplates

/-- The service binding for a templated binding: same name, namespace and labels,
controlled by the templated one. -/
def TemplatedBinding.provision (binding : TemplatedBinding) : ServiceBinding :=
  let spec : TemplatedBindingSpec := binding.spec
  { metadata := {
      name := some binding.displayName
      ns := binding.metadata.ns
      labels := binding.metadata.labels
      ownerReferences := some [binding.controllerReference] }
    spec := {
      instanceRef := spec.instanceRef
      parameters := spec.parameters
      parameterSources := spec.parameterSources
      secretName := shadowName spec.secretName
      externalId := spec.externalId } }

/-- The service binding with parameters and sources as the templated binding has them
now. -/
def ServiceBinding.refresh (provisioned : ServiceBinding) (binding : TemplatedBinding) :
    ServiceBinding :=
  let wanted : TemplatedBindingSpec := binding.spec
  let spec : ServiceBindingSpec := provisioned.spec
  { provisioned with
    spec := { spec with
      parameters := wanted.parameters
      parameterSources := wanted.parameterSources } }

end ServiceTemplates
