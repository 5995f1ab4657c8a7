import ServiceTemplates.Resource.Object
import ServiceTemplates.Template.Merge

/-!
# Applying a template

What an effective template adds to a templated resource. An instance keeps its class
and plan as soon as it names any of them. Parameters are merged with the resource's
own document below and the template's on top, so the template's fields win, while of
two renames of one secret key the resource's own wins.
-/

namespace ServiceTemplates

/-- The instance with what the template adds. -/
def TemplatedInstance.applyTemplate (inst : TemplatedInstance) (template : InstanceDefaults) :
    Except Error TemplatedInstance := do
  let spec : TemplatedInstanceSpec := inst.spec
  let parameters ← mergeParameters spec.parameters template.parameters
  return { inst with
    spec := { spec with
      plan := if spec.plan.isEmpty then template.plan else spec.plan
      parameters := parameters
      parameterSources := mergeSources spec.parameterSources template.parameterSources } }

/-- The binding with what the template adds; its secret is named after the bound
instance unless it names one. -/
def TemplatedBinding.applyTemplate (binding : TemplatedBinding) (template : BindingDefaults) :
    Except Error TemplatedBinding := do
  let spec : TemplatedBindingSpec := binding.spec
  let parameters ← mergeParameters spec.parameters template.parameters
  return { binding with
    spec := { spec with
      secretName := if spec.secretName.isEmpty then spec.instanceRef.name else spec.secretName
      parameters := parameters
      parameterSources := mergeSources spec.parameterSources template.parameterSources
      secretKeys := mergeRenames template.secretKeys spec.secretKeys } }

end ServiceTemplates
