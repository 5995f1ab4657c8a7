import ServiceTemplates.Ownership
import ServiceTemplates.Pass.Basic

/-!
# What belongs to the controller

An object belongs to the controller if a templated resource controls it, directly or
by way of a service binding. The chain from a secret to a service binding to a
templated binding is followed by kind and name of the controllers, through the cache.
-/

namespace ServiceTemplates

def isManaged (m : Metadata) : Pass Bool := do
  match m.controller? with
  | none => return false
  | some owner =>
    if owner.kind == Kind.templatedInstance.name || owner.kind == Kind.templatedBinding.name then
      return true
    else if owner.kind == Kind.serviceBinding.name then
      match ← Pass.cached .serviceBinding m.ns owner.name with
      | some binding => return (binding.metadata.controllerName? .templatedBinding).isSome
      | none => return false
    else return false

/-- The templated binding at the end of the chain that starts at a secret. -/
def managedBinding (secret : Secret) : Pass (Option TemplatedBinding) := do
  let ns := secret.metadata.ns
  match secret.metadata.controllerName? .serviceBinding with
  | none => return none
  | some bindingName =>
    match ← Pass.cached .serviceBinding ns bindingName with
    | none => return none
    | some binding =>
      match binding.metadata.controllerName? .templatedBinding with
      | none => return none
      | some templatedName => Pass.cached .templatedBinding ns templatedName

end ServiceTemplates
