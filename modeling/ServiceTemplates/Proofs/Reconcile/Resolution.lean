import ServiceTemplates.Proofs.Reconcile.Listing
import ServiceTemplates.Proofs.Reconcile.Resolve

/-!
# What an instance resolves to

The templates that carry the service type of an instance, tier by tier, decide what it
resolves to: an error that names the service type where there are several broker templates
or none at all and the instance needs one, otherwise the merge of at most one template per
tier, with another plan where a plan selector finds one. Main statement:
`resolveInstance_outcome`.
-/

namespace ServiceTemplates

/-! ## Naming a class and a plan -/

namespace PlanReference

/-- Whether an identifier is there and says something. -/
def Says (identifier : Option String) : Prop := ∃ text, identifier = some text ∧ text ≠ ""

/-- Whether no identifier of the class says anything, or none of the plan. -/
def LacksClassOrPlan (r : PlanReference) : Prop :=
  (∀ i ∈ r.classes, ¬ Says i) ∨ ∀ i ∈ r.plans, ¬ Says i

/-- An identifier that is empty says no more than one that is absent. -/
theorem says_iff_isSet (identifier : Option String) : Says identifier ↔ isSet identifier := by
  cases identifier <;> simp [Says, isSet]

/-- A reference is complete if it names a class and a plan in any way. -/
theorem lacksClassOrPlan_iff (r : PlanReference) : r.LacksClassOrPlan ↔ ¬ r.isComplete := by
  simp only [LacksClassOrPlan, says_iff_isSet, isComplete, namesClass, namesPlan,
    Bool.not_eq_true, Bool.and_eq_false_iff, List.any_eq_false]

end PlanReference

/-- Who lacks a class or a plan needs a template. -/
theorem TemplatedInstanceSpec.requiresTemplate_iff (spec : TemplatedInstanceSpec) :
    spec.requiresTemplate ↔ spec.plan.LacksClassOrPlan := by
  simp [requiresTemplate, PlanReference.lacksClassOrPlan_iff]

/-! ## Candidates and what is selected among them -/

/-- At most one template per tier. -/
structure Selection where
  broker : Option (Object .brokerInstanceTemplate)
  cluster : Option (Object .clusterInstanceTemplate)
  namespaced : Option (Object .instanceTemplate)

/-- The templates for a service type that are in reach of a namespace. -/
def Listers.candidates (listers : Listers) (ns serviceType : String) : Candidates where
  brokers := (listers.all .brokerInstanceTemplate).filter (·.metadata.Serves serviceType)
  cluster := (listers.all .clusterInstanceTemplate).filter (·.metadata.Serves serviceType)
  namespaced := (listers.all .instanceTemplate).filter fun t =>
    t.metadata.ns = some ns ∧ t.metadata.Serves serviceType

namespace Selection

/-- The defaults of the selected templates, broadest first. -/
def tiers (s : Selection) : List InstanceDefaults :=
  (instanceTiers s.broker s.cluster s.namespaced).map (·.2)

theorem tiers_eq_nil_iff {s : Selection} :
    s.tiers = [] ↔ s.broker = none ∧ s.cluster = none ∧ s.namespaced = none := by
  simp [tiers, instanceTiers]

/-- Whether a choice of plan is asked for. -/
def AsksForPlan (s : Selection) (spec : TemplatedInstanceSpec) : Prop :=
  s.tiers ≠ [] ∧ spec.planSelector.isSome

instance (s : Selection) (spec : TemplatedInstanceSpec) : Decidable (s.AsksForPlan spec) :=
  inferInstanceAs (Decidable (_ ∧ _))

/-- The merge of the selected templates, with the plan that is found for the instance if
one is asked for. -/
def resolve (s : Selection) (plans : PlanResolver) (inst : TemplatedInstance) :
    Except Error InstanceDefaults := do
  let merged ← foldTemplates s.tiers
  if s.AsksForPlan inst.spec then
    let found ← plans inst
    return { merged with plan := found.getD merged.plan }
  else return merged

/-- Whether a failure is one of the plan resolver. -/
def PassesOn (s : Selection) (plans : PlanResolver) (inst : TemplatedInstance) (e : Error) : Prop :=
  s.AsksForPlan inst.spec ∧ (∃ merged, foldTemplates s.tiers = .ok merged) ∧ plans inst = .error e

end Selection

namespace Candidates

/-- Whether several broker templates match and nothing narrower. -/
def Ambiguous (found : Candidates) : Prop :=
  2 ≤ found.brokers.length ∧ found.cluster = [] ∧ found.namespaced = []

instance (found : Candidates) : Decidable found.Ambiguous := inferInstanceAs (Decidable (_ ∧ _))

/-- Whether no template matches. -/
def Missing (found : Candidates) : Prop :=
  found.brokers = [] ∧ found.cluster = [] ∧ found.namespaced = []

/-- Whether the broker template is the only one and the others are first by name. -/
structure Selects (found : Candidates) (s : Selection) : Prop where
  broker : ∀ t, s.broker = some t ↔ found.brokers = [t]
  cluster : ∀ t, s.cluster = some t ↔ IsFirstByName found.cluster t
  namespaced : ∀ t, s.namespaced = some t ↔ IsFirstByName found.namespaced t

/-- Without narrower templates nothing but a single broker template is selected. -/
theorem Selects.tiers_eq_nil {found : Candidates} {s : Selection} (hs : found.Selects s)
    (hbrokers : found.brokers.length ≠ 1) (hcluster : found.cluster = [])
    (hnamespaced : found.namespaced = []) : s.tiers = [] := by
  simp only [Selection.tiers_eq_nil_iff, Option.eq_none_iff_forall_ne_some]
  refine ⟨fun t ht => ?_, fun t ht => ?_, fun t ht => ?_⟩
  · exact hbrokers (congrArg List.length ((hs.broker t).1 ht))
  · exact not_isFirstByName_nil (hcluster ▸ (hs.cluster t).1 ht)
  · exact not_isFirstByName_nil (hnamespaced ▸ (hs.namespaced t).1 ht)

def selection (found : Candidates) : Selection where
  broker := match found.brokers with
    | [t] => some t
    | _ => none
  cluster := firstByName found.cluster
  namespaced := firstByName found.namespaced

/-- What is computed is what should be selected. -/
theorem selects_selection (found : Candidates) : found.Selects found.selection where
  broker t := by
    unfold selection
    split
    · next b hb => simp [hb]
    · next hno => exact iff_of_false nofun fun ht => hno t ht
  cluster _ := firstByName_eq_some_iff
  namespaced _ := firstByName_eq_some_iff

/-- Nothing is selected if no template matches or only several broker templates do. -/
theorem selection_tiers_eq_nil_iff (found : Candidates) :
    found.selection.tiers = [] ↔ found.Missing ∨ found.Ambiguous := by
  obtain ⟨brokers, cluster, namespaced⟩ := found
  rw [Selection.tiers_eq_nil_iff]
  simp only [selection, firstByName_eq_none_iff, Missing, Ambiguous]
  match brokers with
  | [] => simp
  | [t] => simp
  | t :: t' :: rest => simp

/-- Of several broker templates none is chosen, and that is an error only if the instance depends on
one. -/
theorem chooseBroker_eq (spec : TemplatedInstanceSpec) (found : Candidates) :
    chooseBroker spec ((firstByName found.namespaced).isSome || (firstByName found.cluster).isSome)
        found.brokers =
      if found.Ambiguous ∧ spec.requiresTemplate then
        .error (.ambiguousTemplate spec.serviceType found.brokers.length)
      else .ok found.selection.broker := by
  obtain ⟨brokers, cluster, namespaced⟩ := found
  have hnarrower : ((firstByName namespaced).isSome || (firstByName cluster).isSome) =
      !decide (cluster = [] ∧ namespaced = []) := by
    cases hc : firstByName cluster <;> cases hn : firstByName namespaced <;>
      simp [← firstByName_eq_none_iff, hc, hn]
  unfold chooseBroker
  rw [hnarrower]
  -- None and one are plain. From two on it depends on what is narrower and on the need.
  match brokers with
  | [] => simp [sortByName, Ambiguous, selection, pure, Except.pure]
  | [t] => simp [sortByName, Ambiguous, selection, pure, Except.pure]
  | t :: t' :: rest =>
    have hlength : (sortByName (t :: t' :: rest)).length = rest.length + 2 := by
      rw [sortByName, List.length_mergeSort]
      rfl
    split
    · next h => simp [h] at hlength
    · next h => simp [h] at hlength
    · rw [hlength]
      by_cases hneeded : (cluster = [] ∧ namespaced = []) ∧ spec.requiresTemplate
      · have hchoice : ¬ (!decide (cluster = [] ∧ namespaced = []) || !spec.requiresTemplate) := by
          simp [hneeded]
        rw [if_neg hchoice, if_pos ⟨⟨Nat.le_add_left 2 rest.length, hneeded.1⟩, hneeded.2⟩]
        rfl
      · have hchoice : !decide (cluster = [] ∧ namespaced = []) || !spec.requiresTemplate := by
          rw [← Bool.not_and, Bool.not_eq_true', Bool.and_eq_false_imp]
          simpa using fun hc hn => by simpa using fun hr => hneeded ⟨⟨hc, hn⟩, hr⟩
        rw [if_pos hchoice, if_neg fun h => hneeded ⟨h.1.2, h.2⟩]
        rfl

end Candidates

/-! ## What an instance resolves to -/

namespace Candidates

variable (found : Candidates) (plans : PlanResolver) (inst : TemplatedInstance)

/-- The steps of resolving, with the three ways to fail first. -/
theorem run_resolve_eq {σ : Type} (answer : Answerer σ) (s : σ) :
    let spec : TemplatedInstanceSpec := inst.spec
    ((found.resolve plans inst).run answer s).1 =
      if found.Ambiguous ∧ spec.requiresTemplate then
        .error (.ambiguousTemplate spec.serviceType found.brokers.length)
      else if found.selection.tiers = [] ∧ spec.requiresTemplate then
        .error (.templateNotFound spec.serviceType)
      else found.selection.resolve plans inst := by
  intro spec
  rw [run_resolve, chooseBroker_eq]
  split
  · rfl
  · show (if (instanceTiers found.selection.broker found.selection.cluster
      found.selection.namespaced).isEmpty then _ else foldTemplates found.selection.tiers >>= _) = _
    -- Nothing may be selected, in which case the merge would be blank.
    by_cases htiers : found.selection.tiers = []
    · rw [if_pos (List.isEmpty_iff.2 (List.map_eq_nil_iff.1 htiers))]
      by_cases hrequires : spec.requiresTemplate
      · rw [if_pos hrequires, if_pos ⟨htiers, hrequires⟩]
      · rw [if_neg hrequires, if_neg fun h => hrequires h.2, Selection.resolve, htiers]
        exact (if_neg fun h : found.selection.AsksForPlan spec => h.1 htiers).symm
    · have hsome := mt (fun h => List.map_eq_nil_iff.2 (List.isEmpty_iff.1 h)) htiers
      rw [if_neg hsome, if_neg fun h => htiers h.1, Selection.resolve]
      refine congrArg (foldTemplates found.selection.tiers >>= ·) (funext fun merged => ?_)
      unfold withFoundPlan
      by_cases hselector : inst.spec.planSelector.isSome
      · rw [if_pos hselector, if_pos ⟨htiers, hselector⟩]
        cases plans inst <;> rfl
      · rw [if_neg hselector, if_neg fun h => hselector h.2]
        rfl

end Candidates

/-- Selective listers show the templates that match, so that resolving from them is resolving from
those. -/
theorem readFrom_resolveInstance {listers : Listers} (hlisters : listers.Selective)
    (plans : PlanResolver) {inst : TemplatedInstance} {ns : String}
    (hns : inst.metadata.ns = some ns) :
    let spec : TemplatedInstanceSpec := inst.spec
    (resolveInstance plans inst).readFrom listers =
      (((listers.candidates ns spec.serviceType).resolve plans inst).run
        (Cluster.answerBeside listers) (.empty, [])).1 := by
  intro spec
  have hbrokers := hlisters.list_forServiceType .brokerInstanceTemplate spec.serviceType
  have hcluster := hlisters.list_forServiceType .clusterInstanceTemplate spec.serviceType
  have hnamespaced := hlisters.list_forServiceType_within .instanceTemplate ns spec.serviceType
  show (Pass.run (Cluster.answerBeside listers) (resolveInstance plans inst) (.empty, [])).1 = _
  rw [resolveInstance_eq, hns]
  show (Pass.run _ (Candidates.resolve ⟨listers.list _ none _, listers.list _ none _,
    listers.list _ (some ns) _⟩ plans inst) _).1 = _
  rw [hbrokers, hcluster, hnamespaced]
  rfl

/-! ### Where errors come from -/

/-- Merging fails for no other reason than malformed parameters. -/
theorem InstanceDefaults.merge_error {base upper : InstanceDefaults} {e : Error}
    (h : base.merge upper = .error e) : ∃ text, e = .malformedParameters text := by
  have hparameters := InstanceDefaults.merge_map_parameters base upper
  rw [h] at hparameters
  exact mergeParameters_error hparameters.symm

/-- The merge of all tiers fails only as one of its steps does. -/
theorem foldTemplates_error {Defaults : Type} [Mergeable Defaults] {P : Error → Prop}
    (hmerge : ∀ {base upper : Defaults} {e}, Mergeable.merge base upper = .error e → P e)
    {tiers : List Defaults} {e : Error} (h : foldTemplates tiers = .error e) : P e := by
  unfold foldTemplates at h
  generalize (Mergeable.blank : Defaults) = start at h
  induction tiers generalizing start with
  | nil => cases h
  | cons d tiers ih =>
    rw [List.foldlM_cons] at h
    rcases bind_eq_error_iff.1 h with h | ⟨next, -, h⟩
    · exact hmerge h
    · exact ih next h

/-- After the merge only the plan resolver can fail. -/
theorem Selection.resolve_eq_error_iff {s : Selection} {plans : PlanResolver}
    {inst : TemplatedInstance} {e : Error} :
    s.resolve plans inst = .error e ↔
      foldTemplates s.tiers = .error e ∨ s.PassesOn plans inst e := by
  unfold resolve PassesOn
  rw [bind_eq_error_iff]
  refine or_congr_right ?_
  by_cases hasks : s.AsksForPlan inst.spec
  · simp only [if_pos hasks, bind_eq_error_iff]
    simp [hasks, pure, Except.pure, exists_and_right]
  · simp [hasks, pure, Except.pure]

/-! ### The outcome -/

/-- What an instance resolves to, in terms of the templates that match and of those that
are selected among them. -/
structure ResolvesTo (plans : PlanResolver) (inst : TemplatedInstance) (found : Candidates)
    (selected : Selection) (result : Except Error InstanceDefaults) : Prop where
  selects : found.Selects selected
  ambiguous : ∀ serviceType count, result = .error (.ambiguousTemplate serviceType count) ↔
    (serviceType = TemplatedInstanceSpec.serviceType inst.spec ∧ count = found.brokers.length ∧
      found.Ambiguous ∧ PlanReference.LacksClassOrPlan inst.spec.plan) ∨
    selected.PassesOn plans inst (.ambiguousTemplate serviceType count)
  missing : ∀ serviceType, result = .error (.templateNotFound serviceType) ↔
    (serviceType = TemplatedInstanceSpec.serviceType inst.spec ∧
      found.Missing ∧ PlanReference.LacksClassOrPlan inst.spec.plan) ∨
    selected.PassesOn plans inst (.templateNotFound serviceType)
  otherwise : ¬ (found.Ambiguous ∧ PlanReference.LacksClassOrPlan inst.spec.plan) →
    ¬ (found.Missing ∧ PlanReference.LacksClassOrPlan inst.spec.plan) →
      result = selected.resolve plans inst
  malformed : ∀ text, result = .error (.malformedParameters text) →
    foldTemplates selected.tiers = .error (.malformedParameters text) ∨
      selected.PassesOn plans inst (.malformedParameters text)
  onlyMalformed : ∀ e, foldTemplates selected.tiers = .error e →
    ∃ text, e = .malformedParameters text
  /-- Templates are not needed by an instance that names a class and a plan. -/
  needless : ¬ PlanReference.LacksClassOrPlan inst.spec.plan → found.brokers.length ≠ 1 →
    found.cluster = [] → found.namespaced = [] → result = .ok {}

namespace ResolvesTo

variable {plans : PlanResolver} {inst : TemplatedInstance} {found : Candidates}
  {selected : Selection}

theorem fold_error {e : Error} (h : foldTemplates selected.tiers = .error e) :
    ∃ text, e = .malformedParameters text :=
  foldTemplates_error (P := fun e => ∃ text, e = .malformedParameters text)
    InstanceDefaults.merge_error h

theorem of_ambiguous (hs : found.Selects selected) (hambiguous : found.Ambiguous)
    (hlacks : PlanReference.LacksClassOrPlan inst.spec.plan) :
    ResolvesTo plans inst found selected (.error (.ambiguousTemplate
      (TemplatedInstanceSpec.serviceType inst.spec) found.brokers.length)) := by
  obtain ⟨hseveral, hcluster, hnamespaced⟩ := id hambiguous
  have hnot : ∀ e, ¬ selected.PassesOn plans inst e := fun e h =>
    h.1.1 (hs.tiers_eq_nil (by omega) hcluster hnamespaced)
  have hbrokers : found.brokers ≠ [] := fun h => by simp [h] at hseveral
  exact {
    selects := hs
    ambiguous := fun serviceType count => by
      simp only [hnot, or_false, Except.error.injEq, Error.ambiguousTemplate.injEq, hambiguous,
        hlacks, and_true]
      exact and_congr eq_comm eq_comm
    missing := fun serviceType => by
      simp [hnot, Candidates.Missing, hbrokers]
    otherwise := fun hno => absurd ⟨hambiguous, hlacks⟩ hno
    malformed := nofun
    onlyMalformed := fun _ => fold_error
    needless := fun hno => absurd hlacks hno }

theorem of_missing (hs : found.Selects selected) (hmissing : found.Missing)
    (hlacks : PlanReference.LacksClassOrPlan inst.spec.plan) :
    ResolvesTo plans inst found selected
      (.error (.templateNotFound (TemplatedInstanceSpec.serviceType inst.spec))) := by
  obtain ⟨hbrokers, hcluster, hnamespaced⟩ := id hmissing
  have hnot : ∀ e, ¬ selected.PassesOn plans inst e := fun e h =>
    h.1.1 (hs.tiers_eq_nil (by simp [hbrokers]) hcluster hnamespaced)
  exact {
    selects := hs
    ambiguous := fun serviceType count => by
      simp [hnot, Candidates.Ambiguous, hbrokers]
    missing := fun serviceType => by
      simp only [hnot, or_false, Except.error.injEq, Error.templateNotFound.injEq, hmissing,
        hlacks, and_true]
      exact eq_comm
    otherwise := fun _ hno => absurd ⟨hmissing, hlacks⟩ hno
    malformed := nofun
    onlyMalformed := fun _ => fold_error
    needless := fun hno => absurd hlacks hno }

theorem of_selected (hs : found.Selects selected)
    (hambiguous : ¬ (found.Ambiguous ∧ PlanReference.LacksClassOrPlan inst.spec.plan))
    (hmissing : ¬ (found.Missing ∧ PlanReference.LacksClassOrPlan inst.spec.plan)) :
    ResolvesTo plans inst found selected (selected.resolve plans inst) where
  selects := hs
  ambiguous serviceType count := by
    rw [Selection.resolve_eq_error_iff]
    refine or_congr_left (iff_of_false (fun h => ?_) fun h => hambiguous h.2.2)
    obtain ⟨text, htext⟩ := fold_error h
    cases htext
  missing serviceType := by
    rw [Selection.resolve_eq_error_iff]
    refine or_congr_left (iff_of_false (fun h => ?_) fun h => hmissing h.2)
    obtain ⟨text, htext⟩ := fold_error h
    cases htext
  otherwise _ _ := rfl
  malformed _ := Selection.resolve_eq_error_iff.1
  onlyMalformed _ := fold_error
  needless _ hbrokers hcluster hnamespaced := by
    have htiers := hs.tiers_eq_nil hbrokers hcluster hnamespaced
    rw [Selection.resolve, htiers]
    exact if_neg fun h => h.1 htiers

end ResolvesTo

/-- **What an instance resolves to** is decided by the templates that listers list for its
service type. -/
theorem resolveInstance_outcome {listers : Listers} (hlisters : listers.Selective)
    (plans : PlanResolver) {inst : TemplatedInstance} {ns : String}
    (hns : inst.metadata.ns = some ns) :
    ∃ selected, ResolvesTo plans inst
      (listers.candidates ns (TemplatedInstanceSpec.serviceType inst.spec)) selected
      ((resolveInstance plans inst).readFrom listers) := by
  let found := listers.candidates ns (TemplatedInstanceSpec.serviceType inst.spec)
  have hlacks := TemplatedInstanceSpec.requiresTemplate_iff inst.spec
  have hselects := found.selects_selection
  have htiers := found.selection_tiers_eq_nil_iff
  refine ⟨found.selection, ?_⟩
  show ResolvesTo plans inst found found.selection _
  rw [readFrom_resolveInstance hlisters plans hns]
  show ResolvesTo plans inst found found.selection ((found.resolve plans inst).run _ _).1
  rw [found.run_resolve_eq plans inst]
  by_cases hambiguous : found.Ambiguous ∧ PlanReference.LacksClassOrPlan inst.spec.plan
  · rw [if_pos ⟨hambiguous.1, hlacks.2 hambiguous.2⟩]
    exact .of_ambiguous hselects hambiguous.1 hambiguous.2
  · rw [if_neg fun h => hambiguous ⟨h.1, hlacks.1 h.2⟩]
    by_cases hmissing : found.Missing ∧ PlanReference.LacksClassOrPlan inst.spec.plan
    · rw [if_pos ⟨htiers.2 (Or.inl hmissing.1), hlacks.2 hmissing.2⟩]
      exact .of_missing hselects hmissing.1 hmissing.2
    · rw [if_neg]
      · exact .of_selected hselects hambiguous hmissing
      · rintro ⟨hnone, hrequires⟩
        rcases htiers.1 hnone with h | h
        · exact hmissing ⟨h, hlacks.1 hrequires⟩
        · exact hambiguous ⟨h, hlacks.1 hrequires⟩

/-- Of two broker templates none can be chosen, which only matters to an instance that does
not name a class and a plan. -/
theorem resolveInstance_outcome_two_brokers :
    let broker (name : String) : Object .brokerInstanceTemplate :=
      { metadata := {
          name := some name
          labels := some (.ofList [(serviceTypeLabel, "mysql")]) }
        spec := {
          brokerName := "broker", defaults := { plan := .ofClusterExternal "mysql" name } } }
    let inst (plan : PlanReference) : TemplatedInstance :=
      { metadata := { name := some "db", ns := some "default" }
        spec := { serviceType := "mysql", plan := plan } }
    let listers := ((Cluster.empty.insert (broker "small")).2.insert (broker "large")).2.listers
    listers.Selective ∧ (inst {}).metadata.ns = some "default" ∧
      (resolveInstance noPlans (inst {})).readFrom listers =
        .error (.ambiguousTemplate "mysql" 2) ∧
      (resolveInstance noPlans (inst (.ofClusterExternal "mysql" "tiny"))).readFrom listers =
        .ok {} := by
  intro broker inst listers
  have hlisters : listers.Selective := Cluster.listers_selective _
  have hbrokers : (listers.candidates "default" "mysql").brokers.length = 2 := by decide
  have hcluster : (listers.candidates "default" "mysql").cluster = [] := by decide
  have hnamespaced : (listers.candidates "default" "mysql").namespaced = [] := by decide
  have hlacks : PlanReference.LacksClassOrPlan {} :=
    (PlanReference.lacksClassOrPlan_iff _).2 (by decide)
  have hnames : ¬ (PlanReference.ofClusterExternal "mysql" "tiny").LacksClassOrPlan := fun h =>
    (PlanReference.lacksClassOrPlan_iff _).1 h (by decide)
  obtain ⟨_, hopen⟩ := resolveInstance_outcome hlisters noPlans (rfl : (inst {}).metadata.ns = _)
  obtain ⟨_, hnamed⟩ := resolveInstance_outcome hlisters noPlans
    (rfl : (inst (.ofClusterExternal "mysql" "tiny")).metadata.ns = _)
  refine ⟨hlisters, rfl, (hopen.ambiguous _ _).2 (Or.inl ⟨rfl, hbrokers.symm, ?_, hlacks⟩), ?_⟩
  · exact ⟨Nat.le_of_eq hbrokers.symm, hcluster, hnamespaced⟩
  · exact hnamed.needless hnames (by rw [show _ = 2 from hbrokers]; decide) hcluster hnamespaced

end ServiceTemplates
