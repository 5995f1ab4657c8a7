import ServiceTemplates.Proofs.Pass.Serve
import ServiceTemplates.Proofs.Template.Reapply
import ServiceTemplates.Reconcile.Resolve

/-!
# Resolving again

Resolving templates only reads templates, and for a binding the instance that it binds.
An instance that carries its template already may no longer need one, but that does not
change which templates are merged: where several broker templates match, they were passed
over before as well. Main statements: `resolveInstance_again` and `resolveBinding_again`,
by which the persisted request resolves to the template that it carries.
-/

namespace ServiceTemplates

/-! ## What is read -/

def Kind.IsTemplate (k : Kind) : Prop := k.tier?.isSome

/-- The kinds by which the template of a binding is found. -/
def Kind.ServesBindings (k : Kind) : Prop := k.IsTemplate ∨ k = .templatedInstance

/-- Merging the tiers reads nothing at all, it only counts them. -/
theorem foldTiers_readsOnly {Defaults : Type} [Mergeable Defaults] {K : Kind → Prop}
    (tiers : List (Tier × Defaults)) : (foldTiers tiers).ReadsOnly K := by
  refine .foldlM (fun merged tier => ?_) _
  exact .bind (.count _) fun _ => .ofExcept _

/-- For a binding the instance is read besides the templates, since it has the service type. -/
theorem resolveBinding_readsOnly (binding : TemplatedBinding) :
    (resolveBinding binding).ReadsOnly Kind.ServesBindings := by
  unfold resolveBinding
  refine .bind (.cached (Or.inr rfl) _ _) fun found => ?_
  cases found with
  | none => exact .fail _
  | some inst =>
    refine .bind (.cachedList (Or.inl rfl) _ _) fun namespaced => ?_
    refine .bind (.cachedList (Or.inl rfl) _ _) fun cluster => ?_
    refine .bind (.cachedList (Or.inl rfl) _ _) fun brokers => ?_
    exact foldTiers_readsOnly _

/-! ## Merging the tiers -/

/-- Merging the tiers comes down to merging their defaults, whoever answers that they are counted.
-/
theorem run_foldTiers {Defaults σ : Type} [Mergeable Defaults] (answer : Answerer σ)
    (tiers : List (Tier × Defaults)) (s : σ) :
    ((foldTiers tiers).run answer s).1 = foldTemplates (tiers.map (·.2)) := by
  unfold foldTiers foldTemplates
  generalize (Mergeable.blank : Defaults) = merged
  -- The count changes the state, so the induction is for every state, and for every merge so far.
  induction tiers generalizing merged s with
  | nil => rfl
  | cons tier tiers ih =>
    rw [List.foldlM_cons, List.map_cons, List.foldlM_cons, Pass.bind_assoc, Pass.run_bind,
      Pass.count, Pass.run_request]
    show ((Pass.ofExcept (Mergeable.merge merged tier.2) >>= _).run answer _).1 = _
    rw [Pass.run_bind, Pass.run_ofExcept]
    cases Mergeable.merge merged tier.2 with
    | error e => rfl
    | ok merged => exact ih _ merged

/-- The tiers of an instance's template, broadest first. -/
def instanceTiers (broker : Option (Object .brokerInstanceTemplate))
    (cluster : Option (Object .clusterInstanceTemplate))
    (namespaced : Option (Object .instanceTemplate)) : List (Tier × InstanceDefaults) :=
  (broker.map fun t => (Tier.broker, BrokerDefaults.defaults t.spec)).toList
    ++ (cluster.map fun t => (Tier.cluster, (t.spec : InstanceDefaults))).toList
    ++ (namespaced.map fun t => (Tier.namespaced, (t.spec : InstanceDefaults))).toList

def bindingTiers (broker : Option (Object .brokerBindingTemplate))
    (cluster : Option (Object .clusterBindingTemplate))
    (namespaced : Option (Object .bindingTemplate)) : List (Tier × BindingDefaults) :=
  (broker.map fun t => (Tier.broker, BrokerDefaults.defaults t.spec)).toList
    ++ (cluster.map fun t => (Tier.cluster, (t.spec : BindingDefaults))).toList
    ++ (namespaced.map fun t => (Tier.namespaced, (t.spec : BindingDefaults))).toList

/-- The template of an instance, from the templates that match at each tier. -/
def instanceTemplate (spec : TemplatedInstanceSpec)
    (brokers : List (Object .brokerInstanceTemplate))
    (cluster : Option (Object .clusterInstanceTemplate))
    (namespaced : Option (Object .instanceTemplate)) : Except Error InstanceDefaults := do
  let broker ← chooseBroker spec (namespaced.isSome || cluster.isSome) brokers
  if (instanceTiers broker cluster namespaced).isEmpty then
    if spec.requiresTemplate then throw (.templateNotFound spec.serviceType) else pure {}
  else foldTemplates ((instanceTiers broker cluster namespaced).map (·.2))

/-! ## Once the templates are listed -/

/-- The templates that may apply to an instance, tier by tier. -/
structure Candidates where
  brokers : List (Object .brokerInstanceTemplate)
  cluster : List (Object .clusterInstanceTemplate)
  namespaced : List (Object .instanceTemplate)

/-- What is left of resolving an instance once the templates are listed. -/
def Candidates.resolve (found : Candidates) (plans : PlanResolver) (inst : TemplatedInstance) :
    Pass InstanceDefaults := do
  let spec : TemplatedInstanceSpec := inst.spec
  let namespaced := firstByName found.namespaced
  let cluster := firstByName found.cluster
  let broker ← .ofExcept (chooseBroker spec (namespaced.isSome || cluster.isSome) found.brokers)
  let tiers := instanceTiers broker cluster namespaced
  if tiers.isEmpty then
    if spec.requiresTemplate then .fail (.templateNotFound spec.serviceType)
    else return {}
  else
    let effective ← foldTiers tiers
    if spec.planSelector.isSome then
      match ← .ofExcept (plans inst) with
      | some plan => return { effective with plan := plan }
      | none => return effective
    else return effective

/-- All three lists of templates are read before anything is decided. -/
theorem resolveInstance_eq (plans : PlanResolver) (inst : TemplatedInstance) :
    let filter := LabelFilter.forServiceType (TemplatedInstanceSpec.serviceType inst.spec)
    resolveInstance plans inst =
      Pass.cachedList .instanceTemplate inst.metadata.ns filter >>= fun namespaced =>
        Pass.cachedList .clusterInstanceTemplate none filter >>= fun cluster =>
          Pass.cachedList .brokerInstanceTemplate none filter >>= fun brokers =>
            Candidates.resolve ⟨brokers, cluster, namespaced⟩ plans inst := rfl

theorem Candidates.resolve_readsOnly {K : Kind → Prop} (found : Candidates) (plans : PlanResolver)
    (inst : TemplatedInstance) : (found.resolve plans inst).ReadsOnly K := by
  refine .bind (.ofExcept _) fun broker => ?_
  dsimp only
  split
  · split
    · exact .fail _
    · exact .pure _
  · refine .bind (foldTiers_readsOnly _) fun effective => ?_
    split
    · refine .bind (.ofExcept _) fun plan => ?_
      split
      · exact .pure _
      · exact .pure _
    · exact .pure _

theorem resolveInstance_readsOnly (plans : PlanResolver) (inst : TemplatedInstance) :
    (resolveInstance plans inst).ReadsOnly Kind.IsTemplate := by
  have hn : Kind.IsTemplate .instanceTemplate := rfl
  have hc : Kind.IsTemplate .clusterInstanceTemplate := rfl
  have hb : Kind.IsTemplate .brokerInstanceTemplate := rfl
  rw [resolveInstance_eq]
  refine .bind (.cachedList hn _ _) fun namespaced => .bind (.cachedList hc _ _) fun cluster => ?_
  exact .bind (.cachedList hb _ _) fun brokers => Candidates.resolve_readsOnly _ plans inst

/-- The merge of some templates with the plan that a selector finds. -/
def withFoundPlan (plans : PlanResolver) (inst : TemplatedInstance) (merged : InstanceDefaults) :
    Except Error InstanceDefaults :=
  if inst.spec.planSelector.isSome then
    (plans inst).map fun found => { merged with plan := found.getD merged.plan }
  else .ok merged

/-- Without a plan resolver a selector changes nothing. -/
theorem withFoundPlan_noPlans (inst : TemplatedInstance) (merged : InstanceDefaults) :
    withFoundPlan noPlans inst merged = .ok merged := by
  unfold withFoundPlan
  split <;> rfl

namespace Candidates

variable (found : Candidates) (plans : PlanResolver) (inst : TemplatedInstance)

/-- What is decided once the templates are listed needs no more answers. -/
theorem run_resolve {σ : Type} (answer : Answerer σ) (s : σ) :
    ((found.resolve plans inst).run answer s).1 =
      chooseBroker inst.spec ((firstByName found.namespaced).isSome ||
          (firstByName found.cluster).isSome) found.brokers >>= fun broker =>
        let tiers := instanceTiers broker (firstByName found.cluster) (firstByName found.namespaced)
        if tiers.isEmpty then
          if TemplatedInstanceSpec.requiresTemplate inst.spec then
            .error (.templateNotFound (TemplatedInstanceSpec.serviceType inst.spec))
          else .ok {}
        else foldTemplates (tiers.map (·.2)) >>= withFoundPlan plans inst := by
  refine Pass.run_bind_fst answer rfl fun broker s => ?_
  dsimp only
  split
  · split <;> rfl
  · refine Pass.run_bind_fst answer (run_foldTiers answer _ s) fun merged s => ?_
    unfold withFoundPlan
    split
    · cases plans inst with
      | error e => rfl
      | ok choice => cases choice <;> rfl
    · rfl

end Candidates

/-! ## From listers and from a cluster -/

namespace Listers

/-- Whether reads are answered from listers, and leave the state alone. -/
structure AnswerReads {σ : Type} (listers : Listers) (answer : Answerer σ) (s : σ) : Prop where
  cached : ∀ k ns name, answer (.cached k ns name) s = (listers.get? k ns name, s)
  cachedList : ∀ k ns filter, answer (.cachedList k ns filter) s = (listers.list k ns filter, s)

namespace AnswerReads

variable {α σ : Type} {listers : Listers} {answer : Answerer σ} {s : σ}

theorem run_cached_bind (h : listers.AnswerReads answer s) (k : Kind) (ns : Option String)
    (name : String) (f : Option (Object k) → Pass α) :
    (Pass.cached k ns name >>= f).run answer s = (f (listers.get? k ns name)).run answer s := by
  show (f (answer (.cached k ns name) s).1).run answer (answer (.cached k ns name) s).2 = _
  rw [h.cached]

theorem run_cachedList_bind (h : listers.AnswerReads answer s) (k : Kind) (ns : Option String)
    (filter : LabelFilter) (f : List (Object k) → Pass α) :
    (Pass.cachedList k ns filter >>= f).run answer s =
      (f (listers.list k ns filter)).run answer s := by
  show (f (answer (.cachedList k ns filter) s).1).run answer
    (answer (.cachedList k ns filter) s).2 = _
  rw [h.cachedList]

end AnswerReads

/-- A pass beside caches reads from the caches. -/
theorem answerReads_beside (listers : Listers) (s : Cluster × List Note) :
    listers.AnswerReads (Cluster.answerBeside listers) s :=
  ⟨fun _ _ _ => rfl, fun _ _ _ => rfl⟩

end Listers

/-- A pass on a cluster reads from the stores themselves. -/
theorem Cluster.answerReads_serve (c : Cluster) : c.listers.AnswerReads Cluster.serve c :=
  ⟨fun _ _ _ => rfl, fun _ _ _ => rfl⟩

/-- The templates of a kind that match a service type. -/
def Cluster.matching (c : Cluster) (k : Kind) (ns : Option String) (serviceType : String) :
    List (Object k) :=
  (c.store k).list ns (.forServiceType serviceType)

/-- The template of an instance in terms of the templates that are stored. -/
theorem run_resolveInstance (inst : TemplatedInstance) (c : Cluster) :
    ((resolveInstance noPlans inst).run Cluster.serve c).1 =
      instanceTemplate inst.spec
        (c.matching .brokerInstanceTemplate none (TemplatedInstanceSpec.serviceType inst.spec))
        (firstByName (c.matching .clusterInstanceTemplate none
          (TemplatedInstanceSpec.serviceType inst.spec)))
        (firstByName (c.matching .instanceTemplate inst.metadata.ns
          (TemplatedInstanceSpec.serviceType inst.spec))) := by
  rw [resolveInstance_eq, Pass.run_cachedList_bind, Pass.run_cachedList_bind,
    Pass.run_cachedList_bind, Candidates.run_resolve]
  refine congrArg (Except.bind _) (funext fun broker => ?_)
  dsimp only
  -- Without a plan resolver the merge is the result.
  have hplan : withFoundPlan noPlans inst = pure := funext (withFoundPlan_noPlans inst)
  rw [hplan, bind_pure]
  rfl

/-- The template of a binding in terms of what the listers show. Here the first broker template by
name is taken where there are several. -/
theorem run_resolveBinding_eq {σ : Type} {answer : Answerer σ} {s : σ} {listers : Listers}
    (h : listers.AnswerReads answer s) (binding : TemplatedBinding) :
    ((resolveBinding binding).run answer s).1 =
      match listers.get? .templatedInstance binding.metadata.ns
          (TemplatedBindingSpec.instanceRef binding.spec).name with
      | none => .error (.notFound Kind.templatedInstance.name
          (binding.metadata.ns.getD "" ++ "/" ++
            (TemplatedBindingSpec.instanceRef binding.spec).name))
      | some inst =>
        let filter := LabelFilter.forServiceType (TemplatedInstanceSpec.serviceType inst.spec)
        foldTemplates ((bindingTiers
          (firstByName (listers.list .brokerBindingTemplate none filter))
          (firstByName (listers.list .clusterBindingTemplate none filter))
          (firstByName (listers.list .bindingTemplate binding.metadata.ns filter))).map (·.2)) := by
  unfold resolveBinding
  dsimp only
  rw [h.run_cached_bind]
  cases listers.get? .templatedInstance _ _ with
  | none => rfl
  | some inst =>
    dsimp only
    rw [h.run_cachedList_bind, h.run_cachedList_bind, h.run_cachedList_bind]
    exact run_foldTiers answer _ s

theorem run_resolveBinding (binding : TemplatedBinding) (c : Cluster) :
    ((resolveBinding binding).run Cluster.serve c).1 =
      match (c.store .templatedInstance).get? binding.metadata.ns
          (TemplatedBindingSpec.instanceRef binding.spec).name with
      | none => .error (.notFound Kind.templatedInstance.name
          (binding.metadata.ns.getD "" ++ "/" ++
            (TemplatedBindingSpec.instanceRef binding.spec).name))
      | some inst =>
        let serviceType := TemplatedInstanceSpec.serviceType inst.spec
        foldTemplates ((bindingTiers
          (firstByName (c.matching .brokerBindingTemplate none serviceType))
          (firstByName (c.matching .clusterBindingTemplate none serviceType))
          (firstByName (c.matching .bindingTemplate binding.metadata.ns serviceType))).map (·.2)) :=
  run_resolveBinding_eq c.answerReads_serve binding

/-! ## Plain templates -/

/-- The default parameters of a template; none for an object that is no template. -/
def Kind.templateParameters : (k : Kind) → k.Spec → Option Document
  | .instanceTemplate, (d : InstanceDefaults) => d.parameters
  | .clusterInstanceTemplate, (d : InstanceDefaults) => d.parameters
  | .brokerInstanceTemplate, (d : BrokerDefaults InstanceDefaults) => d.defaults.parameters
  | .bindingTemplate, (d : BindingDefaults) => d.parameters
  | .clusterBindingTemplate, (d : BindingDefaults) => d.parameters
  | .brokerBindingTemplate, (d : BrokerDefaults BindingDefaults) => d.defaults.parameters
  | _, _ => none

/-- Whether the default parameters of every stored template are absent or an object. -/
def Cluster.PlainTemplates (c : Cluster) : Prop :=
  ∀ k key (obj : Object k), c.find? k key = some obj →
    PlainParameters (k.templateParameters obj.spec)

/-- It is a property of the stores of templates only. -/
theorem Cluster.PlainTemplates.of_store_eq {c c' : Cluster} (h : c.PlainTemplates)
    (hsame : ∀ k : Kind, k.IsTemplate → c'.store k = c.store k) : c'.PlainTemplates := by
  intro k key obj hobj
  by_cases hk : k.IsTemplate
  · rw [Cluster.find?, hsame k hk] at hobj
    exact h k key obj hobj
  · cases k <;> first | exact plainParameters_none | exact absurd rfl hk

theorem Cluster.plainTemplates_empty : empty.PlainTemplates := fun _ _ _ h => nomatch h

theorem Cluster.PlainTemplates.insert {c : Cluster} (hc : c.PlainTemplates) {k : Kind}
    (obj : Object k) (hobj : PlainParameters (k.templateParameters obj.spec)) :
    (c.insert obj).2.PlainTemplates := by
  intro k' key found hfound
  rcases (c.puts_insert obj).find?_cases hfound with hfound | ⟨-, rfl, rfl⟩
  · exact hc k' key found hfound
  · exact hobj

/-- What matches a service type is stored under some key. -/
theorem Cluster.find?_of_mem_matching {c : Cluster} {k : Kind} {ns : Option String}
    {serviceType : String} {obj : Object k} (h : obj ∈ c.matching k ns serviceType) :
    ∃ key, c.find? k key = some obj := by
  obtain ⟨entry, hentry, rfl⟩ := List.mem_map.1 (List.mem_filter.1 h).1
  exact ⟨entry.1, SortedMap.mem_entries_iff.1 hentry⟩

theorem mem_of_firstByName {k : Kind} {found : List (Object k)} {obj : Object k}
    (h : firstByName found = some obj) : obj ∈ found :=
  List.mem_mergeSort.1 (List.mem_of_mem_head? h)

theorem Cluster.PlainTemplates.matching {c : Cluster} (h : c.PlainTemplates) {k : Kind}
    {ns : Option String} {serviceType : String} {obj : Object k}
    (hobj : obj ∈ c.matching k ns serviceType) : PlainParameters (k.templateParameters obj.spec) := by
  obtain ⟨key, hkey⟩ := Cluster.find?_of_mem_matching hobj
  exact h k key obj hkey

/-- What holds of blank defaults and is kept by merging holds of the merge of all tiers. -/
theorem foldTemplates_induction {Defaults : Type} [Mergeable Defaults] {P : Defaults → Prop}
    (hblank : P Mergeable.blank)
    (hmerge : ∀ {a b m}, P a → P b → Mergeable.merge a b = .ok m → P m) {tiers : List Defaults}
    (htiers : ∀ d ∈ tiers, P d) {merged : Defaults} (h : foldTemplates tiers = .ok merged) :
    P merged := by
  unfold foldTemplates at h
  -- Again from any defaults that satisfy `P`.
  generalize (Mergeable.blank : Defaults) = start at h hblank
  induction tiers generalizing start with
  | nil =>
    obtain rfl := Except.ok.inj h
    exact hblank
  | cons d tiers ih =>
    rw [List.foldlM_cons] at h
    cases hstep : Mergeable.merge start d with
    | error e => simp [hstep, bind, Except.bind] at h
    | ok next =>
      rw [hstep] at h
      refine ih (fun e he => htiers e (List.mem_cons_of_mem _ he)) next h ?_
      exact hmerge hblank (htiers d List.mem_cons_self) hstep

/-- A merge of plain parameters is plain, be it of instances or of bindings. -/
theorem InstanceDefaults.merge_plain {base upper merged : InstanceDefaults}
    (hb : PlainParameters base.parameters) (hu : PlainParameters upper.parameters)
    (h : base.merge upper = .ok merged) : PlainParameters merged.parameters := by
  obtain ⟨parameters, hmerge, rfl⟩ := InstanceDefaults.merge_eq_ok_iff.1 h
  exact hb.of_merge hu hmerge

theorem BindingDefaults.merge_plain {base upper merged : BindingDefaults}
    (hb : PlainParameters base.parameters) (hu : PlainParameters upper.parameters)
    (h : base.merge upper = .ok merged) : PlainParameters merged.parameters := by
  obtain ⟨parameters, hmerge, rfl⟩ := BindingDefaults.merge_eq_ok_iff.1 h
  exact hb.of_merge hu hmerge

/-- The chosen broker template is one of those that were found. -/
theorem chooseBroker_mem {spec : TemplatedInstanceSpec} {narrower : Bool}
    {found : List (Object .brokerInstanceTemplate)} {broker : Object .brokerInstanceTemplate}
    (h : chooseBroker spec narrower found = .ok (some broker)) : broker ∈ found := by
  unfold chooseBroker at h
  split at h
  · cases h
  · next b hb =>
    obtain rfl : b = broker := Option.some.inj (Except.ok.inj h)
    exact List.mem_mergeSort.1 (show b ∈ sortByName found from hb ▸ List.mem_singleton_self b)
  · split at h <;> cases h

/-- From plain templates an instance gets plain parameters. -/
theorem instanceTemplate_plain {c : Cluster} (hc : c.PlainTemplates) {spec : TemplatedInstanceSpec}
    {ns : Option String} {serviceType : String} {template : InstanceDefaults}
    (h : instanceTemplate spec (c.matching .brokerInstanceTemplate none serviceType)
      (firstByName (c.matching .clusterInstanceTemplate none serviceType))
      (firstByName (c.matching .instanceTemplate ns serviceType)) = .ok template) :
    PlainParameters template.parameters := by
  obtain ⟨broker, hbroker, h⟩ := bind_eq_ok_iff.1 h
  split at h
  · split at h
    · cases h
    · obtain rfl := Except.ok.inj h
      exact plainParameters_none
  · refine foldTemplates_induction (P := fun d => PlainParameters d.parameters)
      plainParameters_none InstanceDefaults.merge_plain ?_ h
    -- Every tier comes from a template that matches, hence from a stored one.
    simp only [instanceTiers, List.map_append, List.mem_append, List.mem_map, Option.mem_toList,
      Option.map_eq_some_iff]
    rintro d ((⟨-, ⟨t, ht, rfl⟩, rfl⟩ | ⟨-, ⟨t, ht, rfl⟩, rfl⟩) | ⟨-, ⟨t, ht, rfl⟩, rfl⟩)
    · subst ht
      exact hc.matching (chooseBroker_mem hbroker)
    · exact hc.matching (mem_of_firstByName ht)
    · exact hc.matching (mem_of_firstByName ht)

/-- From plain templates a binding gets plain parameters. -/
theorem bindingTemplate_plain {c : Cluster} (hc : c.PlainTemplates) {ns : Option String}
    {serviceType : String} {template : BindingDefaults}
    (h : foldTemplates ((bindingTiers
      (firstByName (c.matching .brokerBindingTemplate none serviceType))
      (firstByName (c.matching .clusterBindingTemplate none serviceType))
      (firstByName (c.matching .bindingTemplate ns serviceType))).map (·.2)) = .ok template) :
    PlainParameters template.parameters := by
  refine foldTemplates_induction (P := fun d => PlainParameters d.parameters)
    plainParameters_none BindingDefaults.merge_plain ?_ h
  simp only [bindingTiers, List.map_append, List.mem_append, List.mem_map, Option.mem_toList,
    Option.map_eq_some_iff]
  rintro d ((⟨-, ⟨t, ht, rfl⟩, rfl⟩ | ⟨-, ⟨t, ht, rfl⟩, rfl⟩) | ⟨-, ⟨t, ht, rfl⟩, rfl⟩)
  · exact hc.matching (mem_of_firstByName ht)
  · exact hc.matching (mem_of_firstByName ht)
  · exact hc.matching (mem_of_firstByName ht)

/-! ## Resolving again -/

/-- Broker templates that were passed over because none was needed are passed over again. -/
theorem chooseBroker_again {spec spec' : TemplatedInstanceSpec} {narrower : Bool}
    {found : List (Object .brokerInstanceTemplate)} {broker : Option (Object .brokerInstanceTemplate)}
    (h : chooseBroker spec narrower found = .ok broker)
    (hneed : spec.requiresTemplate = false → spec'.requiresTemplate = false) :
    chooseBroker spec' narrower found = .ok broker := by
  unfold chooseBroker at h ⊢
  -- Several templates are decided on by the need alone, fewer are not.
  match hs : sortByName found with
  | [] => rwa [hs] at h
  | [_] => rwa [hs] at h
  | _ :: _ :: _ =>
    simp only [hs] at h ⊢
    split at h
    · next hchoice =>
      refine (if_pos ?_).trans h
      cases narrower with
      | true => rfl
      | false => simpa using hneed (by simpa using hchoice)
    · cases h

/-- An instance that carries its template already needs one no more than before. -/
theorem instanceTemplate_again {spec spec' : TemplatedInstanceSpec}
    {brokers : List (Object .brokerInstanceTemplate)}
    {cluster : Option (Object .clusterInstanceTemplate)}
    {namespaced : Option (Object .instanceTemplate)} {template : InstanceDefaults}
    (h : instanceTemplate spec brokers cluster namespaced = .ok template)
    (hneed : spec.requiresTemplate = false → spec'.requiresTemplate = false) :
    instanceTemplate spec' brokers cluster namespaced = .ok template := by
  obtain ⟨broker, hbroker, h⟩ := bind_eq_ok_iff.1 h
  refine bind_eq_ok_iff.2 ⟨broker, chooseBroker_again hbroker hneed, ?_⟩
  split at h
  · next hempty =>
    rw [if_pos hempty]
    split at h
    · cases h
    · next hno => rw [if_neg (by simp [hneed (by simpa using hno)]), h]
  · next hempty => rw [if_neg hempty, h]

/-- **An instance that carries its template resolves to the same template.** -/
theorem resolveInstance_again {c : Cluster} {inst applied : TemplatedInstance}
    {template : InstanceDefaults}
    (h : ((resolveInstance noPlans inst).run Cluster.serve c).1 = .ok template)
    (happlied : TemplatedInstance.applyTemplate inst template = .ok applied) {m : Metadata}
    (hm : m.ns = inst.metadata.ns) (status : Option TemplatedInstanceStatus) :
    ((resolveInstance noPlans ⟨m, applied.spec, status⟩).run Cluster.serve c).1 = .ok template := by
  have hplan := TemplatedInstance.applyTemplate_plan happlied
  obtain ⟨parameters, -, rfl⟩ := TemplatedInstance.applyTemplate_eq_ok_iff.1 happlied
  rw [run_resolveInstance] at h ⊢
  dsimp only
  rw [hm]
  refine instanceTemplate_again h fun hno => ?_
  simp only [TemplatedInstanceSpec.requiresTemplate, Bool.not_eq_false'] at hno ⊢
  rw [hplan hno, hno]

/-- **A binding that carries its template resolves to the same template.** -/
theorem resolveBinding_again {c : Cluster} {binding applied : TemplatedBinding}
    {template : BindingDefaults}
    (h : ((resolveBinding binding).run Cluster.serve c).1 = .ok template)
    (happlied : TemplatedBinding.applyTemplate binding template = .ok applied) {m : Metadata}
    (hm : m.ns = binding.metadata.ns) (status : Option TemplatedBindingStatus) :
    ((resolveBinding ⟨m, applied.spec, status⟩).run Cluster.serve c).1 = .ok template := by
  obtain ⟨parameters, -, rfl⟩ := TemplatedBinding.applyTemplate_eq_ok_iff.1 happlied
  -- The reference to the instance is not among what a template sets.
  rw [run_resolveBinding] at h ⊢
  dsimp only
  rw [hm]
  exact h

/-- Plain templates resolve to plain parameters. -/
theorem resolveInstance_plain {c : Cluster} (hc : c.PlainTemplates) {inst : TemplatedInstance}
    {template : InstanceDefaults}
    (h : ((resolveInstance noPlans inst).run Cluster.serve c).1 = .ok template) :
    PlainParameters template.parameters := by
  rw [run_resolveInstance] at h
  exact instanceTemplate_plain hc h

theorem resolveBinding_plain {c : Cluster} (hc : c.PlainTemplates) {binding : TemplatedBinding}
    {template : BindingDefaults}
    (h : ((resolveBinding binding).run Cluster.serve c).1 = .ok template) :
    PlainParameters template.parameters := by
  rw [run_resolveBinding] at h
  split at h
  · cases h
  · exact bindingTemplate_plain hc h

end ServiceTemplates
