import ServiceTemplates.Proofs.Pass.Interaction
import ServiceTemplates.Proofs.Reconcile.Listing
import ServiceTemplates.Proofs.Reconcile.Resolve
import ServiceTemplates.Reconcile.Trigger

/-!
# Who is woken by a template

Templates and the resources that they apply to are matched twice: a resource that is resolved
lists its templates by label and namespace, and a template that changes looks for resources by
their service type. Both come down to one relation, `Object.Covers`
(`mem_listed_resolveInstance_iff`, `mem_instancesForTemplate_iff`), except for a resource without
a service type: every template is listed for it, and none wakes it. Main statement:
`listed_template_wakes`.
-/

namespace ServiceTemplates

variable {k : Kind}

/-! ## What a pass lists -/

/-- The objects of a list that was asked for. -/
def Interaction.listed : Interaction → List AnyObject
  | ⟨.cachedList k _ _, found⟩ => (show List (Object k) from found).map (Sigma.mk k)
  | _ => []

namespace Pass

variable {α β σ : Type} {listers : Listers}

/-- What a pass says and hears until it ends. -/
def log (answer : Answerer σ) : Pass α → σ → List Interaction
  | done _, _ => []
  | ask r next, s => ⟨r, (answer r s).1⟩ :: (next (answer r s).1).log answer (answer r s).2

/-- The objects of all lists that a pass is given. -/
def listed (p : Pass α) (listers : Listers) : List AnyObject :=
  (p.log (Cluster.answerBeside listers) (.empty, [])).flatMap Interaction.listed

theorem listed_cachedList_bind (k : Kind) (ns : Option String) (filter : LabelFilter)
    (f : List (Object k) → Pass β) :
    (Pass.cachedList k ns filter >>= f).listed listers =
      (listers.list k ns filter).map (Sigma.mk k) ++ (f (listers.list k ns filter)).listed listers :=
  rfl

theorem listed_cached_bind (k : Kind) (ns : Option String) (name : String)
    (f : Option (Object k) → Pass β) :
    (Pass.cached k ns name >>= f).listed listers = (f (listers.get? k ns name)).listed listers :=
  rfl

/-- A pass that reads nothing is given no list. -/
theorem ReadsOnly.listed_eq_nil {p : Pass α} (h : p.ReadsOnly fun _ => False) :
    p.listed listers = [] := by
  unfold listed
  generalize (Cluster.empty, ([] : List Note)) = s
  induction h generalizing s with
  | done result => rfl
  | @ask r next here _ ih =>
    cases r <;> first | exact here.elim | exact ih _ _

end Pass

/-! ## What applies to what -/

namespace Kind

def instanceTemplates : List Kind :=
  [.instanceTemplate, .clusterInstanceTemplate, .brokerInstanceTemplate]

def bindingTemplates : List Kind :=
  [.bindingTemplate, .clusterBindingTemplate, .brokerBindingTemplate]

end Kind

/-- Whether a template applies to resources in a namespace that have a service type. -/
structure Object.Covers (template : Object k) (ns serviceType : String) : Prop where
  serves : template.metadata.Serves serviceType
  reaches : k.tier? = some .namespaced → template.metadata.ns = some ns

/-- The templates of a kind that are listed for a resource of a service type. -/
def Listers.applying (listers : Listers) (k : Kind) (ns : Option String) (serviceType : String) :
    List (Object k) :=
  listers.list k (if k.tier? = some .namespaced then ns else none) (.forServiceType serviceType)

section Lists

variable {listers : Listers} {T : Object k} {ns : String}

/-- What is listed for a resource is what covers it. -/
theorem mem_applying_iff (h : listers.Selective) (serviceType : String) :
    T ∈ listers.applying k (some ns) serviceType ↔
      T ∈ listers.all k ∧ T.Covers ns serviceType := by
  unfold Listers.applying
  split
  · next htier =>
    rw [h.list_forServiceType_within, List.mem_filter, decide_eq_true_iff]
    exact and_congr_right fun _ =>
      ⟨fun ⟨hns, hserves⟩ => ⟨hserves, fun _ => hns⟩, fun hc => ⟨hc.reaches htier, hc.serves⟩⟩
  · next htier =>
    rw [h.list_forServiceType, List.mem_filter, decide_eq_true_iff]
    exact and_congr_right fun _ =>
      ⟨fun hserves => ⟨hserves, fun hk => absurd hk htier⟩, Object.Covers.serves⟩

theorem mem_flatMap_mk {kinds : List Kind} {g : (k : Kind) → List (Object k)} :
    (⟨k, T⟩ : AnyObject) ∈ kinds.flatMap (fun k => (g k).map (Sigma.mk k)) ↔
      k ∈ kinds ∧ T ∈ g k := by
  simp only [List.mem_flatMap, List.mem_map]
  constructor
  · rintro ⟨k', hk, T', hT, ⟨⟩⟩
    exact ⟨hk, hT⟩
  · rintro ⟨hk, hT⟩
    exact ⟨k, hk, T, hT, rfl⟩

/-! ### From a resource to its templates -/

/-- An instance is resolved from the lists of three kinds of templates. -/
theorem listed_resolveInstance (listers : Listers) (plans : PlanResolver)
    (inst : TemplatedInstance) :
    (resolveInstance plans inst).listed listers = Kind.instanceTemplates.flatMap fun k =>
      (listers.applying k inst.metadata.ns (TemplatedInstanceSpec.serviceType inst.spec)).map
        (Sigma.mk k) := by
  rw [resolveInstance_eq, Pass.listed_cachedList_bind, Pass.listed_cachedList_bind,
    Pass.listed_cachedList_bind, (Candidates.resolve_readsOnly _ _ _).listed_eq_nil]
  rfl

/-- A binding is resolved from three lists as well, by the service type of its instance. -/
theorem listed_resolveBinding (listers : Listers) {binding : TemplatedBinding}
    {inst : TemplatedInstance}
    (hinst : listers.get? .templatedInstance binding.metadata.ns
      (TemplatedBindingSpec.instanceRef binding.spec).name = some inst) :
    (resolveBinding binding).listed listers = Kind.bindingTemplates.flatMap fun k =>
      (listers.applying k binding.metadata.ns
        (TemplatedInstanceSpec.serviceType inst.spec)).map (Sigma.mk k) := by
  unfold resolveBinding
  rw [Pass.listed_cached_bind, hinst, Pass.listed_cachedList_bind, Pass.listed_cachedList_bind,
    Pass.listed_cachedList_bind, (foldTiers_readsOnly _).listed_eq_nil]
  rfl

/-- The templates that are listed for an instance are those that cover it. -/
theorem mem_listed_resolveInstance_iff (h : listers.Selective) (plans : PlanResolver)
    {inst : TemplatedInstance} (hns : inst.metadata.ns = some ns) :
    (⟨k, T⟩ : AnyObject) ∈ (resolveInstance plans inst).listed listers ↔
      k ∈ Kind.instanceTemplates ∧ T ∈ listers.all k ∧
        T.Covers ns (TemplatedInstanceSpec.serviceType inst.spec) := by
  rw [listed_resolveInstance, mem_flatMap_mk, hns, mem_applying_iff h]

/-- The templates that are listed for a binding are those that cover its instance. -/
theorem mem_listed_resolveBinding_iff (h : listers.Selective) {binding : TemplatedBinding}
    (hns : binding.metadata.ns = some ns) {inst : TemplatedInstance}
    (hinst : listers.get? .templatedInstance (some ns)
      (TemplatedBindingSpec.instanceRef binding.spec).name = some inst) :
    (⟨k, T⟩ : AnyObject) ∈ (resolveBinding binding).listed listers ↔
      k ∈ Kind.bindingTemplates ∧ T ∈ listers.all k ∧
        T.Covers ns (TemplatedInstanceSpec.serviceType inst.spec) := by
  rw [listed_resolveBinding listers (hns ▸ hinst), mem_flatMap_mk, hns, mem_applying_iff h]

/-! ### From a template to its resources -/

/-- A template has a service type if it serves that one and it is not empty. -/
theorem serviceType?_eq_some_iff (m : Metadata) (serviceType : String) :
    m.serviceType? = some serviceType ↔ serviceType ≠ "" ∧ m.Serves serviceType := by
  rw [Metadata.serviceType?, Metadata.Serves, Option.filter_eq_some_iff]
  constructor
  · rintro ⟨hlabel, hne⟩
    exact ⟨by simpa using hne, Or.inr hlabel⟩
  · rintro ⟨hne, hserves⟩
    exact ⟨hserves.resolve_left hne, by simpa using hne⟩

/-- The resources of a kind that a template reaches, if `suits` says that they have its service
type. -/
def reachedBy {k' : Kind} (listers : Listers) (suits : String → Object k' → Bool)
    (T : Object k) : List (String × String) :=
  match T.metadata.serviceType? with
  | none => []
  | some serviceType =>
    ((listers.list k' T.reach .everything).filter (suits serviceType)).filterMap Object.location?

/-- A template that covers something and is bound to a namespace has one. -/
theorem Object.Covers.ns_isSome {serviceType : String} (h : T.Covers ns serviceType)
    (htier : k.tier? = some .namespaced) : T.metadata.ns.isSome := by
  rw [h.reaches htier]
  rfl

theorem location?_eq_some_iff {o : Object k} {ns name : String} :
    o.location? = some (ns, name) ↔ o.metadata.ns = some ns ∧ o.displayName = name := by
  cases h : o.metadata.ns <;> simp [Object.location?, h]

/-- **A template reaches the resources that it covers and whose service type is not empty.** -/
theorem mem_reachedBy_iff (h : listers.Selective)
    (hT : k.tier? = some .namespaced → T.metadata.ns.isSome) {k' : Kind}
    {suits : String → Object k' → Bool} (typeOf? : Object k' → Option String)
    (hsuits : ∀ serviceType o, suits serviceType o ↔ typeOf? o = some serviceType) {name : String} :
    (ns, name) ∈ reachedBy listers suits T ↔
      ∃ o ∈ listers.all k', o.metadata.ns = some ns ∧ o.displayName = name ∧
        ∃ serviceType, typeOf? o = some serviceType ∧ serviceType ≠ "" ∧
          T.Covers ns serviceType := by
  -- Within reach of a template are the resources of its namespace, if it has a tier that is bound
  -- to one.
  have hreach : ∀ o : Object k', o.metadata.ns = some ns →
      (o.metadata.inScope T.reach .everything ↔
        (k.tier? = some .namespaced → T.metadata.ns = some ns)) := by
    intro o ho
    unfold Object.reach
    split
    · next htier =>
      obtain ⟨reached, hreached⟩ := Option.isSome_iff_exists.1 (hT htier)
      simp only [Metadata.inScope, LabelFilter.everything, LabelFilter.accepts, ho, hreached, htier,
        Bool.and_true, beq_iff_eq, Option.some_inj, forall_const]
      exact eq_comm
    · next htier => simp [Metadata.inScope_everything, htier]
  unfold reachedBy
  cases hlabel : T.metadata.serviceType? with
  | none =>
    -- A template without a label wakes nobody, and covers nothing that has a service type.
    refine iff_of_false List.not_mem_nil ?_
    rintro ⟨o, -, -, -, serviceType, -, hne, hcovers⟩
    rw [(serviceType?_eq_some_iff _ _).2 ⟨hne, hcovers.serves⟩] at hlabel
    cases hlabel
  | some label =>
    obtain ⟨hne, hserves⟩ := (serviceType?_eq_some_iff _ _).1 hlabel
    simp only [List.mem_filterMap, List.mem_filter, location?_eq_some_iff, h k' T.reach, hsuits]
    constructor
    · rintro ⟨o, ⟨⟨ho, hscope⟩, htype⟩, hns, hname⟩
      exact ⟨o, ho, hns, hname, label, htype, hne, hserves, (hreach o hns).1 hscope⟩
    · rintro ⟨o, ho, hns, hname, serviceType, htype, hne', hcovers⟩
      -- A template has one label at most.
      have hsame := (serviceType?_eq_some_iff _ _).2 ⟨hne', hcovers.serves⟩
      rw [hlabel] at hsame
      cases hsame
      exact ⟨o, ⟨⟨ho, (hreach o hns).2 hcovers.reaches⟩, htype⟩, hns, hname⟩

/-- The instances that a template wakes. -/
theorem mem_instancesForTemplate_iff (h : listers.Selective)
    (hT : k.tier? = some .namespaced → T.metadata.ns.isSome) {name : String} :
    (ns, name) ∈ instancesForTemplate listers T ↔
      ∃ inst ∈ listers.all .templatedInstance, inst.metadata.ns = some ns ∧
        inst.displayName = name ∧ TemplatedInstanceSpec.serviceType inst.spec ≠ "" ∧
        T.Covers ns (TemplatedInstanceSpec.serviceType inst.spec) := by
  have hreached : instancesForTemplate listers T = reachedBy listers
      (fun serviceType (inst : TemplatedInstance) =>
        TemplatedInstanceSpec.serviceType inst.spec == serviceType) T := rfl
  rw [hreached, mem_reachedBy_iff h hT
    (fun inst => some (TemplatedInstanceSpec.serviceType inst.spec)) (by simp)]
  simp

/-- A binding has the service type of the instance that it refers to. -/
theorem bindsServiceType_iff (listers : Listers) (serviceType : String)
    (binding : TemplatedBinding) :
    bindsServiceType listers serviceType binding ↔
      (listers.get? .templatedInstance binding.metadata.ns
        (TemplatedBindingSpec.instanceRef binding.spec).name).map
          (fun inst => TemplatedInstanceSpec.serviceType inst.spec) = some serviceType := by
  rw [bindsServiceType]
  split
  · next inst hinst => simp [hinst]
  · next hnone => simp [hnone]

/-- The bindings that a template wakes. -/
theorem mem_bindingsForTemplate_iff (h : listers.Selective)
    (hT : k.tier? = some .namespaced → T.metadata.ns.isSome) {name : String} :
    (ns, name) ∈ bindingsForTemplate listers T ↔
      ∃ binding ∈ listers.all .templatedBinding, binding.metadata.ns = some ns ∧
        binding.displayName = name ∧ ∃ inst, listers.get? .templatedInstance (some ns)
          (TemplatedBindingSpec.instanceRef binding.spec).name = some inst ∧
        TemplatedInstanceSpec.serviceType inst.spec ≠ "" ∧
        T.Covers ns (TemplatedInstanceSpec.serviceType inst.spec) := by
  have hreached : bindingsForTemplate listers T =
      reachedBy listers (bindsServiceType listers) T := rfl
  rw [hreached, mem_reachedBy_iff h hT _ (bindsServiceType_iff listers)]
  refine exists_congr fun binding => and_congr_right fun _ => and_congr_right fun hns => ?_
  rw [hns]
  refine and_congr_right fun _ => ?_
  constructor
  · rintro ⟨serviceType, htype, hne, hcovers⟩
    obtain ⟨inst, hinst, rfl⟩ := Option.map_eq_some_iff.1 htype
    exact ⟨inst, hinst, hne, hcovers⟩
  · rintro ⟨inst, hinst, hne, hcovers⟩
    exact ⟨_, Option.map_eq_some_iff.2 ⟨inst, hinst, rfl⟩, hne, hcovers⟩

end Lists

/-! ## Both ways -/

/-- **A template wakes whoever lists it.** A template of any tier that is listed when a
templated instance with a service type is resolved is one whose change wakes the instance;
likewise for a templated binding, by the service type of the instance that it binds. -/
theorem listed_template_wakes {listers : Listers} (h : listers.Selective) (plans : PlanResolver)
    {T : Object k} {ns : String} :
    (∀ inst ∈ listers.all .templatedInstance, inst.metadata.ns = some ns →
      TemplatedInstanceSpec.serviceType inst.spec ≠ "" →
      ⟨k, T⟩ ∈ (resolveInstance plans inst).listed listers →
        (ns, inst.displayName) ∈ instancesForTemplate listers T) ∧
    ∀ binding ∈ listers.all .templatedBinding, binding.metadata.ns = some ns →
      ∀ inst, listers.get? .templatedInstance (some ns)
        (TemplatedBindingSpec.instanceRef binding.spec).name = some inst →
      TemplatedInstanceSpec.serviceType inst.spec ≠ "" →
      ⟨k, T⟩ ∈ (resolveBinding binding).listed listers →
        (ns, binding.displayName) ∈ bindingsForTemplate listers T := by
  constructor
  · intro inst hinst hns htype hlisted
    obtain ⟨-, -, hcovers⟩ := (mem_listed_resolveInstance_iff h plans hns).1 hlisted
    exact (mem_instancesForTemplate_iff h hcovers.ns_isSome).2 ⟨inst, hinst, hns, rfl, htype, hcovers⟩
  · intro binding hbinding hns inst hinst htype hlisted
    obtain ⟨-, -, hcovers⟩ := (mem_listed_resolveBinding_iff h hns hinst).1 hlisted
    exact (mem_bindingsForTemplate_iff h hcovers.ns_isSome).2
      ⟨binding, hbinding, hns, rfl, inst, hinst, htype, hcovers⟩

/-- A template for instances in one namespace, and one for bindings in the cluster. -/
theorem listed_template_wakes_typed :
    let labels : Option (SortedMap String String) := some (.ofList [(serviceTypeLabel, "mysql")])
    let forInstances : Object .instanceTemplate :=
      { metadata := {
          name := some "defaults", ns := some "shop", uid := some "u-1"
          resourceVersion := some "1", labels := labels }
        spec := {} }
    let forBindings : Object .clusterBindingTemplate :=
      { metadata := {
          name := some "keys", uid := some "u-2", resourceVersion := some "1", labels := labels }
        spec := {} }
    let inst : TemplatedInstance :=
      { metadata := {
          name := some "orders", ns := some "shop", uid := some "u-3"
          resourceVersion := some "1" }
        spec := { serviceType := "mysql" } }
    let binding : TemplatedBinding :=
      { metadata := {
          name := some "creds", ns := some "shop", uid := some "u-4"
          resourceVersion := some "1" }
        spec := { instanceRef := ⟨"orders"⟩ } }
    let c := ((((Cluster.empty.insert forInstances).2.insert forBindings).2.insert inst).2.insert
      binding).2
    ("shop", "orders") ∈ instancesForTemplate c.listers forInstances ∧
      ("shop", "creds") ∈ bindingsForTemplate c.listers forBindings := by
  intro labels forInstances forBindings inst binding c
  have hselective : c.listers.Selective := c.listers_selective
  constructor
  · exact (listed_template_wakes hselective noPlans).1 inst (by decide +kernel) rfl (by decide)
      (by decide +kernel)
  · exact (listed_template_wakes hselective noPlans).2 binding (by decide +kernel) rfl inst
      (by decide +kernel) (by decide) (by decide +kernel)

/-- For an instance without a service type every template of the cluster is listed, but a
template that has one does not wake it. -/
theorem listed_template_sleeps_untyped :
    let template : Object .clusterInstanceTemplate :=
      { metadata := {
          name := some "small", uid := some "u-1", resourceVersion := some "1"
          labels := some (.ofList [(serviceTypeLabel, "mysql")]) }
        spec := { plan := .ofClusterExternal "mysql" "small" } }
    let inst : TemplatedInstance :=
      { metadata := {
          name := some "db", ns := some "default", uid := some "u-2"
          resourceVersion := some "1" }
        spec := {} }
    let c := ((Cluster.empty.insert template).2.insert inst).2
    inst ∈ c.listers.all .templatedInstance ∧
      ⟨.clusterInstanceTemplate, template⟩ ∈ (resolveInstance noPlans inst).listed c.listers ∧
      ("default", "db") ∉ instancesForTemplate c.listers template := by
  decide +kernel

end ServiceTemplates
