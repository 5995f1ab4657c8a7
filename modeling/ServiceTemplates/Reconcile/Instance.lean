import ServiceTemplates.Provision.Instance
import ServiceTemplates.Reconcile.Report
import ServiceTemplates.Reconcile.Resolve
import ServiceTemplates.Template.Apply

/-!
# Bringing an instance in line

The pass for a templated instance. When no service instance exists, templates are
resolved and applied, the applied request is stored, and the service instance is
created. When there is one under the instance's control, changed parameters or a
changed counter are pushed down to it. Each pass ends by reporting what the catalog
says on the templated instance, if that differs from what stands there.
-/

namespace ServiceTemplates

namespace TemplatedInstance

/-- Applies templates, stores the result if it differs, and creates the service
instance. -/
def provisionFirst (plans : PlanResolver) (inst : TemplatedInstance) :
    Pass (TemplatedInstance × ServiceInstance) := do
  let template ← resolveInstance plans inst
  let applied ← Pass.ofExcept (inst.applyTemplate template)
  -- What the templates gave is stored first, so that a retry starts from it.
  let inst ←
    if TemplatedInstanceSpec.sameValue applied.spec inst.spec then pure inst
    else Pass.update applied
  let desired ← Pass.ofExcept (TemplatedInstance.provision inst)
  let provisioned ← Pass.create desired
  Pass.count (.writes .serviceInstance .create)
  return (inst, provisioned)

/-- Whether the service instance carries the request's parameters and counter. -/
def isInSync (inst : TemplatedInstance) (provisioned : ServiceInstance) : Bool :=
  let wanted : TemplatedInstanceSpec := inst.spec
  let found : ServiceInstanceSpec := provisioned.spec
  sameParameters wanted.parameters found.parameters
    && wanted.updateRequests == found.updateRequests

/-- Pushes changes of the request down to its service instance. -/
def pushChanges (inst : TemplatedInstance) (provisioned : ServiceInstance) :
    Pass ServiceInstance := do
  if inst.isInSync provisioned then return provisioned
  else
    let updated ← Pass.update (ServiceInstance.refresh provisioned inst)
    Pass.count (.writes .serviceInstance .update)
    return updated

/-- What is to be reported of a service instance at a given time. -/
def observe (provisioned : ServiceInstance) (time : String) : TemplatedInstanceStatus :=
  let spec : ServiceInstanceSpec := provisioned.spec
  let reported : ServiceInstanceStatus := provisioned.status.getD {}
  { classRef := spec.classRef
    planRef := spec.planRef
    provisionStatus := reported.provisionStatus
    conditions := reported.conditions
    synced := true
    lastSyncTime := some time }

/-- Whether a status is there and says what `observed` says. -/
def reports (current : Option TemplatedInstanceStatus) (observed : TemplatedInstanceStatus) : Bool :=
  match current with
  | some current => current.sameObservation observed
  | none => false

/-- Reports what the catalog says on the templated instance, unless it stands there
already. -/
def report (inst : TemplatedInstance) (provisioned : ServiceInstance) (time : String) :
    Pass TemplatedInstance := do
  let observed := observe provisioned time
  if reports inst.status observed then return inst
  else recordStatus { inst with status := some observed }

end TemplatedInstance

/-- The pass for the templated instance of a key; none if the key is malformed or the
instance is gone. -/
def synchronizeInstance (plans : PlanResolver) (time : String) (key : String) :
    Pass (Option TemplatedInstance) := do
  match wellFormedKey? key with
  | none => return none
  | some (ns, name) =>
    match ← Pass.cached .templatedInstance (some ns) name with
    | none => return none
    | some inst =>
      match ← Pass.cached .serviceInstance (some ns) name with
      | some provisioned =>
        if provisioned.metadata.isControlledBy inst then
          let provisioned ← TemplatedInstance.pushChanges inst provisioned
          some <$> TemplatedInstance.report inst provisioned time
        else rejectUnmanaged inst provisioned
      | none =>
        let (inst, provisioned) ← TemplatedInstance.provisionFirst plans inst
        some <$> TemplatedInstance.report inst provisioned time

end ServiceTemplates
