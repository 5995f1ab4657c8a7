import ServiceTemplates.Provision.Binding
import ServiceTemplates.Reconcile.Report
import ServiceTemplates.Reconcile.Resolve
import ServiceTemplates.Template.Apply

/-!
# Bringing a binding in line

The pass for a templated binding. When no service binding exists, templates are
resolved and applied, the applied request is stored, and the service binding is
created. When there is one under the binding's control, changed parameters are pushed
down to it. Each pass ends by reporting what the catalog says, and the secret that
the credentials go to, on the templated binding.
-/

namespace ServiceTemplates

namespace TemplatedBinding

/-- Applies templates, stores the result if it differs, and creates the service
binding. -/
def provisionFirst (binding : TemplatedBinding) : Pass (TemplatedBinding × ServiceBinding) := do
  let template ← resolveBinding binding
  let applied ← Pass.ofExcept (binding.applyTemplate template)
  let binding ←
    if TemplatedBindingSpec.sameValue applied.spec binding.spec then pure binding
    else Pass.update applied
  let provisioned ← Pass.create (TemplatedBinding.provision binding)
  Pass.count (.writes .serviceBinding .create)
  return (binding, provisioned)

/-- Whether the service binding carries the request's parameters. -/
def isInSync (binding : TemplatedBinding) (provisioned : ServiceBinding) : Bool :=
  let wanted : TemplatedBindingSpec := binding.spec
  let found : ServiceBindingSpec := provisioned.spec
  sameParameters wanted.parameters found.parameters

/-- Pushes changes of the request down to its service binding. -/
def pushChanges (binding : TemplatedBinding) (provisioned : ServiceBinding) :
    Pass ServiceBinding := do
  if binding.isInSync provisioned then return provisioned
  else
    let updated ← Pass.update (ServiceBinding.refresh provisioned binding)
    Pass.count (.writes .serviceBinding .update)
    return updated

/-- What is to be reported of a service binding at a given time. -/
def observe (binding : TemplatedBinding) (provisioned : ServiceBinding) (time : String) :
    TemplatedBindingStatus :=
  let spec : TemplatedBindingSpec := binding.spec
  let reported : ServiceBindingStatus := provisioned.status.getD {}
  { conditions := reported.conditions
    secretName := some spec.secretName
    synced := true
    lastSyncTime := some time }

/-- Whether a status is there and says what `observed` says. -/
def reports (current : Option TemplatedBindingStatus) (observed : TemplatedBindingStatus) : Bool :=
  match current with
  | some current => current.sameObservation observed
  | none => false

/-- Reports what the catalog says on the templated binding, unless it stands there
already. -/
def report (binding : TemplatedBinding) (provisioned : ServiceBinding) (time : String) :
    Pass TemplatedBinding := do
  let observed := observe binding provisioned time
  if reports binding.status observed then return binding
  else recordStatus { binding with status := some observed }

end TemplatedBinding

/-- The pass for the templated binding of a key; none if the key is malformed or the
binding is gone. -/
def synchronizeBinding (time : String) (key : String) : Pass (Option TemplatedBinding) := do
  match wellFormedKey? key with
  | none => return none
  | some (ns, name) =>
    match ← Pass.cached .templatedBinding (some ns) name with
    | none => return none
    | some binding =>
      match ← Pass.cached .serviceBinding (some ns) name with
      | some provisioned =>
        if provisioned.metadata.isControlledBy binding then
          let provisioned ← TemplatedBinding.pushChanges binding provisioned
          some <$> TemplatedBinding.report binding provisioned time
        else rejectUnmanaged binding provisioned
      | none =>
        let (binding, provisioned) ← TemplatedBinding.provisionFirst binding
        some <$> TemplatedBinding.report binding provisioned time

end ServiceTemplates
