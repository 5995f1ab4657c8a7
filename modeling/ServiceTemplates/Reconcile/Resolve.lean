import ServiceTemplates.Pass.Basic
import ServiceTemplates.Template.Merge

/-!
# Resolving templates

The templates that apply to a templated resource, merged into one. A template applies
if its label carries the resource's service type; each of the three tiers contributes
at most one, and the narrower tier wins. Within the cluster tier and the namespace the
template with the least name is taken.

Several broker templates cannot be told apart. They are an error for an instance that
needs a template when nothing narrower exists, and passed over otherwise.
-/

namespace ServiceTemplates

/-- A choice of class and plan for an instance that selects its plan by labels; none
if there is no such plan. -/
abbrev PlanResolver := TemplatedInstance → Except Error (Option PlanReference)

/-- The plan resolver that never finds a plan. -/
def noPlans : PlanResolver := fun _ => pure none

/-- Objects by name, those without a name first; objects of one name keep their
order. -/
def sortByName {k : Kind} (found : List (Object k)) : List (Object k) :=
  found.mergeSort fun a b => (compare a.metadata.name b.metadata.name).isLE

/-- The object with the least name. -/
def firstByName {k : Kind} (found : List (Object k)) : Option (Object k) :=
  (sortByName found).head?

/-- The defaults of all given tiers in one, each tier counted before it is merged. -/
def foldTiers {Defaults : Type} [Mergeable Defaults] (tiers : List (Tier × Defaults)) :
    Pass Defaults :=
  tiers.foldlM
    (fun merged tier => do
      Pass.count (.templatesResolved tier.1)
      .ofExcept (Mergeable.merge merged tier.2))
    Mergeable.blank

/-- The broker template among those that match: the only one, none if a narrower
template or the instance itself makes the choice needless. -/
def chooseBroker (spec : TemplatedInstanceSpec) (narrower : Bool)
    (found : List (Object .brokerInstanceTemplate)) :
    Except Error (Option (Object .brokerInstanceTemplate)) :=
  match sortByName found with
  | [] => pure none
  | [broker] => pure (some broker)
  | brokers =>
    if narrower || !spec.requiresTemplate then pure none
    else throw (.ambiguousTemplate spec.serviceType brokers.length)

/-- The effective template of an instance; one that says nothing if no template
applies to an instance that names class and plan itself. -/
def resolveInstance (plans : PlanResolver) (inst : TemplatedInstance) :
    Pass InstanceDefaults := do
  let spec : TemplatedInstanceSpec := inst.spec
  let filter := LabelFilter.forServiceType spec.serviceType
  let namespaced := firstByName (← .cachedList .instanceTemplate inst.metadata.ns filter)
  let cluster := firstByName (← .cachedList .clusterInstanceTemplate none filter)
  let brokers ← .cachedList .brokerInstanceTemplate none filter
  let broker ← .ofExcept (chooseBroker spec (namespaced.isSome || cluster.isSome) brokers)
  let tiers : List (Tier × InstanceDefaults) :=
    (broker.map fun t => (Tier.broker, BrokerDefaults.defaults t.spec)).toList
      ++ (cluster.map fun t => (Tier.cluster, t.spec)).toList
      ++ (namespaced.map fun t => (Tier.namespaced, t.spec)).toList
  if tiers.isEmpty then
    if spec.requiresTemplate then .fail (.templateNotFound spec.serviceType)
    else return {}
  else
    let effective ← foldTiers tiers
    if spec.planSelector.isSome then
      match ← .ofExcept (plans inst) with
      | some plan => return { effective with plan := plan }
      | none => return effective
    else return effective

/-- The effective template of a binding, by the service type of the instance that it
binds. -/
def resolveBinding (binding : TemplatedBinding) : Pass BindingDefaults := do
  let spec : TemplatedBindingSpec := binding.spec
  let ns := binding.metadata.ns
  match ← .cached .templatedInstance ns spec.instanceRef.name with
  | none =>
    .fail (.notFound Kind.templatedInstance.name (ns.getD "" ++ "/" ++ spec.instanceRef.name))
  | some inst =>
    let bound : TemplatedInstanceSpec := inst.spec
    let filter := LabelFilter.forServiceType bound.serviceType
    let namespaced := firstByName (← .cachedList .bindingTemplate ns filter)
    let cluster := firstByName (← .cachedList .clusterBindingTemplate none filter)
    let broker := firstByName (← .cachedList .brokerBindingTemplate none filter)
    foldTiers
      ((broker.map fun t => (Tier.broker, BrokerDefaults.defaults t.spec)).toList
        ++ (cluster.map fun t => (Tier.cluster, (t.spec : BindingDefaults))).toList
        ++ (namespaced.map fun t => (Tier.namespaced, (t.spec : BindingDefaults))).toList)

end ServiceTemplates
