import ServiceTemplates.Proofs.Reconcile.Disturbed
import ServiceTemplates.Proofs.Reconcile.Touch
import ServiceTemplates.Proofs.Template.Drift

/-!
# A touch forces a push

A pass compares parameters and counters only, so that another plan or other sources are not
pushed down until the instance is touched. Nothing can mask a touch: the counter of what is
provisioned never gets ahead of the one asked for, hence a touch leaves it behind, and the first
pass that succeeds after that writes everything. This is so for any history of passes whose writes
fail, touches, and edits. What a history keeps is a relation between the two desired states
(`Cluster.Relates`), with one lemma for each kind of event. Main statement: `touch_forces_push`.
-/

namespace ServiceTemplates

/-! ## How far behind -/

/-- Whether a service instance carries all that can be pushed down to it. -/
structure FullyPushed (wanted : TemplatedInstanceSpec) (found : ServiceInstanceSpec) : Prop where
  plan : found.plan = wanted.plan
  parameters : found.parameters = wanted.parameters
  parameterSources : found.parameterSources = wanted.parameterSources
  updateRequests : found.updateRequests = wanted.updateRequests

/-- Whether the counter of a service instance is at most the one asked for. -/
def NotAhead (wanted : TemplatedInstanceSpec) (found : ServiceInstanceSpec) : Prop :=
  found.updateRequests ≤ wanted.updateRequests

/-- Whether there are touches that have not arrived at a service instance. -/
def Behind (wanted : TemplatedInstanceSpec) (found : ServiceInstanceSpec) : Prop :=
  found.updateRequests < wanted.updateRequests

/-- Whether a touch is still to arrive at a service instance, or everything has been pushed down. -/
def Settles (wanted : TemplatedInstanceSpec) (found : ServiceInstanceSpec) : Prop :=
  Behind wanted found ∨ FullyPushed wanted found

/-- What has everything of a request is not ahead of it. -/
theorem FullyPushed.notAhead {wanted : TemplatedInstanceSpec} {found : ServiceInstanceSpec}
    (h : FullyPushed wanted found) : NotAhead wanted found := by
  unfold NotAhead
  rw [h.updateRequests]
  exact Int64.le_refl _

/-- Where the counters agree, no touch is still to arrive. -/
theorem Settles.fullyPushed {wanted : TemplatedInstanceSpec} {found : ServiceInstanceSpec}
    (h : Settles wanted found) (hcounter : found.updateRequests = wanted.updateRequests) :
    FullyPushed wanted found := by
  rcases h with hbehind | hpushed
  · unfold Behind at hbehind
    rw [hcounter] at hbehind
    exact (Int64.lt_irrefl hbehind).elim
  · exact hpushed

/-- A counter that is not at its maximum is raised by a touch. -/
theorem lt_add_one_of_ne_maxValue {n : Int64} (h : n ≠ Int64.maxValue) : n < n + 1 := by
  have hle := n.toInt_le
  have hne : n.toInt ≠ Int64.maxValue.toInt := fun heq => h (Int64.toInt_inj.1 heq)
  have hmax : Int64.maxValue.toInt = 2 ^ 63 - 1 := by decide
  have hadd : (n + .ofNat 1).toInt = n.toInt + 1 := toInt_add_ofNat (by omega)
  rw [Int64.lt_iff_toInt_lt]
  show n.toInt < (n + .ofNat 1).toInt
  omega

/-! ## What stands under a key -/

/-- A key and what it is split into. -/
structure InstanceKey where
  text : String
  ns : String
  name : String
  wellFormed : wellFormedKey? text = some (ns, name)

def InstanceKey.place (key : InstanceKey) : ObjectKey := ⟨key.ns, key.name⟩

/-- Whether an instance stands in its place, and `R` relates it to its service instance if there is
one. -/
structure Cluster.Relates (R : TemplatedInstanceSpec → ServiceInstanceSpec → Prop)
    (place : ObjectKey) (c : Cluster) : Prop where
  sound : c.Sound
  related : ∃ inst : TemplatedInstance, c.find? .templatedInstance place = some inst ∧
    ∀ s : ServiceInstance, c.find? .serviceInstance place = some s → R inst.spec s.spec

namespace Cluster.Relates

variable {R R' : TemplatedInstanceSpec → ServiceInstanceSpec → Prop} {place : ObjectKey}
  {c c' : Cluster} {inst : TemplatedInstance}

/-- What is related in one way is related in any weaker one. -/
theorem mono (h : c.Relates R place) (himp : ∀ {wanted found}, R wanted found → R' wanted found) :
    c.Relates R' place := by
  obtain ⟨hc, inst, hinst, hrelated⟩ := h
  refine ⟨hc, inst, hinst, ?_⟩
  intro s hs
  exact himp (hrelated s hs)

/-- Where neither of the two is written they stay related. -/
theorem congr (h : c.Relates R place) (hc' : c'.Sound)
    (hinst : c'.find? .templatedInstance place = c.find? .templatedInstance place)
    (hprovisioned : c'.find? .serviceInstance place = c.find? .serviceInstance place) :
    c'.Relates R place := by
  obtain ⟨-, inst, hfound, hrelated⟩ := h
  refine ⟨hc', inst, hinst.trans hfound, ?_⟩
  intro s hs
  exact hrelated s (hprovisioned.symm.trans hs)

/-- Where an instance is replaced, the new one has to be related. -/
theorem puts (h : c.Relates R place) (hinst : c.find? .templatedInstance place = some inst)
    {obj : TemplatedInstance} (hputs : c.Puts (Store.successor inst obj) c')
    (hm : obj.metadata = inst.metadata) (himp : ∀ found, R inst.spec found → R' obj.spec found) :
    c'.Relates R' place := by
  obtain ⟨hc, inst', hinst', hrelated⟩ := h
  obtain rfl : inst = inst' := Option.some.inj (hinst.symm.trans hinst')
  have hplace : (Store.successor inst obj).place = place :=
    (congrArg ObjectKey.ofMetadata hm).trans (hc.place hinst)
  refine ⟨hputs.sound hc rfl, _, hputs.find?_of_place hplace, ?_⟩
  intro s hs
  rw [hputs.find?_of_ne (fun e => by cases e)] at hs
  exact himp s.spec (hrelated s hs)

end Cluster.Relates

/-! ## What happens to an instance -/

/-- An instance that asks for something else. -/
def TemplatedInstance.asking (inst : TemplatedInstance) (plan : PlanReference)
    (parameters : Option Document) (parameterSources : List ParameterSource) :
    TemplatedInstance :=
  let spec : TemplatedInstanceSpec := inst.spec
  { inst with spec := { spec with
      plan := plan
      parameters := parameters
      parameterSources := parameterSources } }

/-- What happens around an instance: a pass with what becomes of its writes, a touch of any
instance with the causes for which its first writes are refused, an edit of a template, or a user
who asks for something else. -/
inductive InstanceEvent where
  | pass (plans : PlanResolver) (time : String) (fates : List Fate)
  | touch (ns name : String) (refusals : List Error)
  | template (made : Edit) (isTemplate : made.kind.IsTemplate)
  | request (plan : PlanReference) (parameters : Option Document)
    (parameterSources : List ParameterSource)

namespace InstanceEvent

variable (key : InstanceKey)

/-- A pass on a cluster whose writes fail. -/
def passOn (c : Cluster) (plans : PlanResolver) (time : String) (fates : List Fate) :
    Except Error (Option TemplatedInstance) × Cluster × List Fate :=
  (synchronizeInstance plans time key.text).run Cluster.serveUnreliably (c, fates)

/-- A touch whose first writes are refused. -/
def touchOn (c : Cluster) (ns name : String) (refusals : List Error) :
    Except Error TemplatedInstance × Cluster × List Fate :=
  (ServiceTemplates.touch ns name).run Cluster.serveUnreliably (c, refusals.map .refused)

def after (c : Cluster) : InstanceEvent → Cluster
  | pass plans time fates => (passOn key c plans time fates).2.1
  | touch ns name refusals => (touchOn c ns name refusals).2.1
  | template made _ => made.apply c
  | request plan parameters parameterSources =>
    match c.find? .templatedInstance key.place with
    | none => c
    | some inst =>
      (Edit.replace (TemplatedInstance.asking inst plan parameters parameterSources)).apply c

/-- Whether a pass or a touch returns without a failure. -/
def Succeeds (c : Cluster) : InstanceEvent → Bool
  | pass plans time fates => (passOn key c plans time fates).1.isOk
  | touch ns name refusals => (touchOn c ns name refusals).1.isOk
  | _ => true

/-- Whether an event is a touch that finds the counter at its maximum. -/
def Overflows (c : Cluster) : InstanceEvent → Prop
  | touch ns name _ => (c.find? .templatedInstance ⟨ns, name⟩).map TemplatedInstance.counter =
      some Int64.maxValue
  | _ => False

instance (c : Cluster) : (e : InstanceEvent) → Decidable (e.Overflows c)
  | pass _ _ _ => inferInstanceAs (Decidable False)
  | touch _ _ _ => inferInstanceAs (Decidable (_ = _))
  | template _ _ => inferInstanceAs (Decidable False)
  | request _ _ _ => inferInstanceAs (Decidable False)

def IsPass : InstanceEvent → Prop
  | pass _ _ _ => True
  | _ => False

def IsRequest : InstanceEvent → Prop
  | request _ _ _ => True
  | _ => False

def run (c : Cluster) (events : List InstanceEvent) : Cluster := events.foldl (after key) c

def InRange (c : Cluster) : List InstanceEvent → Prop
  | [] => True
  | e :: later => ¬ e.Overflows c ∧ InRange (e.after key c) later

instance decidableInRange (c : Cluster) : (events : List InstanceEvent) →
    Decidable (InRange key c events)
  | [] => inferInstanceAs (Decidable True)
  | e :: later =>
    have := decidableInRange (e.after key c) later
    inferInstanceAs (Decidable (_ ∧ _))

variable {key} {c : Cluster} {R R' : TemplatedInstanceSpec → ServiceInstanceSpec → Prop}

theorem run_append (past later : List InstanceEvent) :
    run key c (past ++ later) = run key (run key c past) later :=
  List.foldl_append

/-- A history keeps in range if its beginning does and the rest from there. -/
theorem inRange_append {past later : List InstanceEvent} :
    InRange key c (past ++ later) ↔ InRange key c past ∧ InRange key (run key c past) later := by
  induction past generalizing c with
  | nil => simp [InRange, run]
  | cons e past ih =>
    show _ ∧ InRange key _ (past ++ later) ↔ (_ ∧ InRange key _ past) ∧ _
    rw [ih, and_assoc]
    rfl

/-- What each event of a history keeps holds in the end. -/
theorem relates_run {events : List InstanceEvent} (h : c.Relates R key.place)
    (hrange : InRange key c events)
    (hkeeps : ∀ e ∈ events, ∀ c : Cluster, c.Relates R key.place → ¬ e.Overflows c →
      (e.after key c).Relates R key.place) : (run key c events).Relates R key.place := by
  induction events generalizing c with
  | nil => exact h
  | cons e events ih =>
    obtain ⟨hhere, hlater⟩ := hrange
    have hnext := hkeeps e List.mem_cons_self c h hhere
    apply ih hnext hlater
    intro e' he'
    exact hkeeps e' (List.mem_cons_of_mem e he')

/-! ## Edits -/

/-- An edit of a template is seen by nobody under this key. -/
theorem after_template (h : c.Relates R key.place) (made : Edit) (ht : made.kind.IsTemplate) :
    ((template made ht).after key c).Relates R key.place := by
  have hother : ∀ k : Kind, ¬ k.IsTemplate → k ≠ made.kind := by
    rintro k hk rfl
    exact hk ht
  apply h.congr (made.sound h.sound)
  · exact made.find?_of_ne (hother .templatedInstance (by simp [Kind.IsTemplate, Kind.tier?])) _
  · exact made.find?_of_ne (hother .serviceInstance (by simp [Kind.IsTemplate, Kind.tier?])) _

/-- A user can make a service instance differ, but does not touch the counters. -/
theorem after_request (h : c.Relates R key.place)
    (hcounter : ∀ {wanted wanted' found}, wanted'.updateRequests = wanted.updateRequests →
      R wanted found → R wanted' found) (plan : PlanReference) (parameters : Option Document)
    (parameterSources : List ParameterSource) :
    ((request plan parameters parameterSources).after key c).Relates R key.place := by
  obtain ⟨inst, hinst, -⟩ := h.related
  have hafter : (request plan parameters parameterSources).after key c =
      (c.replace (TemplatedInstance.asking inst plan parameters parameterSources)).2 := by
    show (match c.find? .templatedInstance key.place with | none => _ | some inst => _) = _
    rw [hinst]
    rfl
  obtain ⟨c', hreplace, hputs⟩ := h.sound.replace_read hinst
    (TemplatedInstance.asking inst plan parameters parameterSources) rfl
  rw [hafter, hreplace]
  apply h.puts hinst hputs rfl
  intro found
  exact hcounter rfl

/-! ## Touches -/

section Touch

variable {ns name : String} {left : Nat}

/-- A fetch reads from the live cluster and uses up no fate. -/
theorem serveUnreliably_fetch (k : Kind) (fates : List Fate) :
    Cluster.serveUnreliably (.fetch k ns name) (c, fates) =
      (.ok (c.find? k ⟨ns, name⟩), c, fates) := by
  cases fates <;> rfl

/-- There is no touching what is not there. -/
theorem run_touchWith_absent (h : c.find? .templatedInstance ⟨ns, name⟩ = none)
    (fates : List Fate) :
    (touchWith ns name left).run Cluster.serveUnreliably (c, fates) =
      (.error (.notFound Kind.templatedInstance.name (ns ++ "/" ++ name)), c, fates) := by
  rw [touchWith_eq, Pass.run_ask, serveUnreliably_fetch, h]
  rfl

variable {inst : TemplatedInstance}

/-- A refused write makes the touch start over, if attempts are left. -/
theorem run_touchWith_refused (h : c.find? .templatedInstance ⟨ns, name⟩ = some inst) (e : Error)
    (fates : List Fate) :
    (touchWith ns name left).run Cluster.serveUnreliably (c, .refused e :: fates) =
      (touchAgain ns name left e).run Cluster.serveUnreliably (c, fates) := by
  rw [touchWith_eq, Pass.run_ask, serveUnreliably_fetch, h]
  rfl

/-- A touch that is not refused raises the counter of what it read. -/
theorem run_touchWith_answered (left : Nat) (hc : c.Sound)
    (h : c.find? .templatedInstance ⟨ns, name⟩ = some inst) :
    ∃ c', (touchWith ns name left).run Cluster.serveUnreliably (c, []) =
        (.ok (Store.successor inst (TemplatedInstance.touched inst)), c', []) ∧
      c.Puts (Store.successor inst (TemplatedInstance.touched inst)) c' := by
  obtain ⟨c', hreplace, hputs⟩ := hc.replace_read h (TemplatedInstance.touched inst) rfl
  have hupdate : Cluster.serveUnreliably (.update .templatedInstance
      (TemplatedInstance.touched inst)) (c, []) =
        ((c.replace (TemplatedInstance.touched inst)).1,
          (c.replace (TemplatedInstance.touched inst)).2, []) := rfl
  refine ⟨c', ?_, hputs⟩
  rw [touchWith_eq, Pass.run_ask, serveUnreliably_fetch, h]
  show (touchRead ns name left inst).run _ _ = _
  rw [touchRead, Pass.run_ask, hupdate, hreplace]
  rfl

/-- How a touch ends whose first writes may be refused: it fails and leaves everything as it is,
or it raises the counter by one. -/
inductive TouchEnds (c : Cluster) (inst : TemplatedInstance) :
    Except Error TemplatedInstance × Cluster × List Fate → Prop
  | failed (e : Error) (fates : List Fate) : TouchEnds c inst (.error e, c, fates)
  | raised {c' : Cluster} (updated : TemplatedInstance) (fates : List Fate)
      (hputs : c.Puts (Store.successor inst (TemplatedInstance.touched inst)) c') :
      TouchEnds c inst (.ok updated, c', fates)

/-- **A touch fails and leaves everything alone, or it raises the counter by one.** -/
theorem touchOn_ends (hc : c.Sound) (h : c.find? .templatedInstance ⟨ns, name⟩ = some inst)
    (refusals : List Error) : TouchEnds c inst (touchOn c ns name refusals) := by
  -- Each refusal takes one of the attempts that are left.
  show TouchEnds c inst ((touchWith ns name (maxTouchAttempts - 1)).run _ _)
  generalize maxTouchAttempts - 1 = left
  induction refusals generalizing left with
  | nil =>
    obtain ⟨c', hrun, hputs⟩ := run_touchWith_answered left hc h
    rw [List.map_nil, hrun]
    exact .raised _ _ hputs
  | cons e refusals ih =>
    rw [List.map_cons, run_touchWith_refused h]
    cases left with
    | zero => exact .failed e _
    | succ left =>
      have hagain : touchAgain ns name (left + 1) e =
          if e.isConflict then touchWith ns name left else .fail e := rfl
      rw [hagain]
      split
      · exact ih left
      · exact .failed e _

end Touch

/-- What follows for the two desired states when the counter is raised. -/
theorem relates_raised (h : c.Relates R key.place) {inst : TemplatedInstance}
    (hinst : c.find? .templatedInstance key.place = some inst) {c' : Cluster}
    (hputs : c.Puts (Store.successor inst (TemplatedInstance.touched inst)) c')
    (hrange : TemplatedInstance.counter inst ≠ Int64.maxValue)
    (himp : ∀ {wanted wanted' found}, wanted.updateRequests < wanted'.updateRequests →
      R wanted found → R' wanted' found) : c'.Relates R' key.place := by
  apply h.puts hinst hputs rfl
  intro found
  exact himp (lt_add_one_of_ne_maxValue hrange)

variable {ns name : String} {refusals : List Error}

/-- Below the greatest counter there is another one. -/
theorem counter_ne_maxValue (hrange : ¬ (touch ns name refusals).Overflows c)
    {inst : TemplatedInstance} (hinst : c.find? .templatedInstance ⟨ns, name⟩ = some inst) :
    TemplatedInstance.counter inst ≠ Int64.maxValue := by
  intro hmax
  apply hrange
  show (c.find? .templatedInstance ⟨ns, name⟩).map _ = _
  rw [hinst, ← hmax]
  rfl

/-- Touches keep whatever they can only make truer. -/
theorem after_touch (h : c.Relates R key.place) (hrange : ¬ (touch ns name refusals).Overflows c)
    (hraised : ∀ {wanted wanted' found}, wanted.updateRequests < wanted'.updateRequests →
      R wanted found → R wanted' found) :
    ((touch ns name refusals).after key c).Relates R key.place := by
  show (touchOn c ns name refusals).2.1.Relates R key.place
  cases hinst : c.find? .templatedInstance ⟨ns, name⟩ with
  | none =>
    rw [touchOn, ServiceTemplates.touch, run_touchWith_absent hinst]
    exact h
  | some inst =>
    have hends := touchOn_ends h.sound hinst refusals
    generalize touchOn c ns name refusals = ran at hends
    cases hends with
    | failed e fates => exact h
    | @raised c' updated fates hputs =>
      by_cases hplace : (⟨ns, name⟩ : ObjectKey) = key.place
      · have hmax := counter_ne_maxValue hrange hinst
        rw [hplace] at hinst
        exact relates_raised h hinst hputs hmax hraised
      · have hwritten : inst.place = ⟨ns, name⟩ := h.sound.place hinst
        apply h.congr (hputs.sound h.sound rfl)
        · apply hputs.find?_of_ne
          intro _ hsame
          exact hplace (hwritten.symm.trans hsame.symm)
        · exact hputs.find?_of_ne fun e => by cases e

/-- **A touch leaves what is provisioned behind.** -/
theorem behind_of_touch (h : c.Relates NotAhead key.place)
    (hrange : ¬ (touch key.ns key.name refusals).Overflows c)
    (hok : (touch key.ns key.name refusals).Succeeds key c) :
    ((touch key.ns key.name refusals).after key c).Relates Behind key.place := by
  obtain ⟨inst, hinst, -⟩ := h.related
  replace hok : (touchOn c key.ns key.name refusals).1.isOk := hok
  show (touchOn c key.ns key.name refusals).2.1.Relates Behind key.place
  have hends := touchOn_ends h.sound hinst refusals
  generalize touchOn c key.ns key.name refusals = ran at hends hok
  cases hends with
  | failed e fates => cases hok
  | raised updated fates hputs =>
    apply relates_raised h hinst hputs (counter_ne_maxValue hrange hinst)
    intro wanted wanted' found hlt hle
    exact Int64.lt_of_le_of_lt hle hlt

/-- A touch of an instance that is there succeeds if it is not refused. -/
theorem touch_succeeds (h : c.Relates R key.place) : (touch key.ns key.name []).Succeeds key c := by
  obtain ⟨inst, hinst, -⟩ := h.related
  obtain ⟨c', hrun, -⟩ := run_touchWith_answered (maxTouchAttempts - 1) h.sound hinst
  show (touchOn c key.ns key.name []).1.isOk
  rw [touchOn, ServiceTemplates.touch, List.map_nil, hrun]
  rfl

/-! ## Passes -/

section Pass

variable (plans : PlanResolver) (time : String) (fates : List Fate)

/-- A pass leaves the request in place, whatever its writes meet with. -/
theorem pass_left (hc : c.Sound) {inst : TemplatedInstance}
    (hinst : c.find? .templatedInstance key.place = some inst) :
    ∃ inst', (instanceFlow plans).Left key.place c inst (passOn key c plans time fates).1
      ((pass plans time fates).after key c) inst' := by
  have hends := Flow.pass_ends (F := instanceFlow plans) hc key.wellFormed hinst time
  rw [← synchronizeInstance_eq] at hends
  exact hends.run fates

/-- A pass does not write what is provisioned, or it pushes everything down. -/
theorem untouched_or_fullyPushed {inst : TemplatedInstance} {before : Option ServiceInstance}
    {s : ServiceInstance} (h : (instanceFlow plans).Rewrites inst before s) :
    before = some s ∨ FullyPushed inst.spec s.spec := by
  cases h with
  | untouched same => exact Or.inl same
  | pushed found spec =>
    right
    rw [spec]
    exact ⟨rfl, rfl, rfl, rfl⟩
  | built vacant asked build spec =>
    right
    rw [spec, (TemplatedInstance.provision_eq_ok build).2, asked]
    exact ⟨rfl, rfl, rfl, rfl⟩

/-- What stands provisioned next to an instance after a pass was related to it before, or carries
all of it. -/
theorem pass_related (hrelated : ∀ s : ServiceInstance,
      c.find? .serviceInstance key.place = some s → R inst.spec s.spec)
    {result : Except Error (Option TemplatedInstance)} {c' : Cluster} {inst' : TemplatedInstance}
    (hleft : (instanceFlow plans).Left key.place c inst result c' inst') {s : ServiceInstance}
    (hs : c'.find? .serviceInstance key.place = some s) :
    R inst'.spec s.spec ∨ FullyPushed inst'.spec s.spec := by
  rcases untouched_or_fullyPushed plans (hleft.rewrites hs) with hsame | hpushed
  · left
    rcases hleft.resumes.spec with hspec | ⟨hvacant, -⟩
    · rw [hspec]
      exact hrelated s hsame
    · rw [hsame] at hvacant
      cases hvacant
  · exact Or.inr hpushed

/-- Passes keep whatever holds once everything is pushed down. -/
theorem after_pass (h : c.Relates R key.place)
    (hpushed : ∀ {wanted found}, FullyPushed wanted found → R wanted found) :
    ((pass plans time fates).after key c).Relates R key.place := by
  obtain ⟨inst, hinst, hrelated⟩ := h.related
  obtain ⟨inst', hleft⟩ := pass_left plans time fates h.sound hinst
  refine ⟨hleft.sound, inst', hleft.templated, ?_⟩
  intro s hs
  exact (pass_related plans hrelated hleft hs).elim id hpushed

/-- **A pass that succeeds settles a touch.** -/
theorem fullyPushed_of_pass (h : c.Relates Settles key.place)
    (hok : (pass plans time fates).Succeeds key c) :
    let c' := (pass plans time fates).after key c
    ∃ (inst : TemplatedInstance) (s : ServiceInstance),
      c'.find? .templatedInstance key.place = some inst ∧
        c'.find? .serviceInstance key.place = some s ∧ FullyPushed inst.spec s.spec := by
  intro c'
  obtain ⟨inst, hinst, hrelated⟩ := h.related
  obtain ⟨inst', hleft⟩ := pass_left plans time fates h.sound hinst
  replace hok : (passOn key c plans time fates).1.isOk := hok
  generalize (passOn key c plans time fates).1 = result at hleft hok
  cases result with
  | error e => cases hok
  | ok found =>
    obtain ⟨s, hs, hsync⟩ := hleft.inSync
    obtain ⟨-, hcounter⟩ := Bool.and_eq_true_iff.1 hsync
    refine ⟨inst', s, hleft.templated, hs, ?_⟩
    rcases pass_related plans hrelated hleft hs with hsettles | hpushed
    · exact hsettles.fullyPushed (beq_iff_eq.1 hcounter).symm
    · exact hpushed

end Pass

/-! ## Whole histories -/

/-- **What is provisioned is never ahead.** -/
theorem notAhead_run {events : List InstanceEvent} (h : c.Relates NotAhead key.place)
    (hrange : InRange key c events) : (run key c events).Relates NotAhead key.place := by
  apply relates_run h hrange
  intro e _ c h hrange
  cases e with
  | pass plans time fates => exact after_pass plans time fates h FullyPushed.notAhead
  | touch ns name refusals =>
    apply after_touch h hrange
    intro wanted wanted' found hlt hle
    exact Int64.le_trans hle (Int64.le_of_lt hlt)
  | template made ht => exact after_template h made ht
  | request plan parameters parameterSources =>
    apply after_request h
    intro wanted wanted' found hcounter hle
    unfold NotAhead
    rwa [hcounter]

/-- Without passes, what is behind stays behind. -/
theorem behind_run {events : List InstanceEvent} (h : c.Relates Behind key.place)
    (hrange : InRange key c events) (hquiet : ∀ e ∈ events, ¬ e.IsPass) :
    (run key c events).Relates Behind key.place := by
  apply relates_run h hrange
  intro e he c h hrange
  cases e with
  | pass plans time fates => exact (hquiet _ he trivial).elim
  | touch ns name refusals =>
    apply after_touch h hrange
    intro wanted wanted' found hlt hbehind
    exact Int64.lt_trans hbehind hlt
  | template made ht => exact after_template h made ht
  | request plan parameters parameterSources =>
    apply after_request h
    intro wanted wanted' found hcounter hbehind
    unfold Behind
    rwa [hcounter]

/-- As long as nothing else is asked for, what is to be settled is still to be settled or is. -/
theorem settles_run {events : List InstanceEvent} (h : c.Relates Settles key.place)
    (hrange : InRange key c events) (hsteady : ∀ e ∈ events, ¬ e.IsRequest) :
    (run key c events).Relates Settles key.place := by
  apply relates_run h hrange
  intro e he c h hrange
  cases e with
  | pass plans time fates => exact after_pass plans time fates h Or.inr
  | touch ns name refusals =>
    apply after_touch h hrange
    intro wanted wanted' found hlt hsettles
    left
    rcases hsettles with hbehind | hpushed
    · exact Int64.lt_trans hbehind hlt
    · unfold Behind
      rwa [hpushed.updateRequests]
  | template made ht => exact after_template h made ht
  | request plan parameters parameterSources => exact (hsteady _ he trivial).elim

end InstanceEvent

open InstanceEvent in
/-- **A touch forces a push.** Let an instance start without a service instance, and let passes
whose writes may fail, touches and edits follow in any order, without overflow of a counter. Then
the counter of the service instance is never ahead of the one asked for, and a touch that is not
refused succeeds. After a touch that succeeds, the next pass that succeeds leaves everything pushed
down. Anything but a pass may come in between first, and then anything but another request, so
that passes that fail do no harm. -/
theorem touch_forces_push (key : InstanceKey) {start : Cluster} (hstart : start.Sound)
    {first : TemplatedInstance} (hfirst : start.find? .templatedInstance key.place = some first)
    (hvacant : start.find? .serviceInstance key.place = none) {events : List InstanceEvent}
    (hrange : InRange key start events) :
    (∀ past, past <+: events → (run key start past).Relates NotAhead key.place ∧
      (InstanceEvent.touch key.ns key.name []).Succeeds key (run key start past)) ∧
    ∀ past refusals quiet retries plans time fates,
      let touched := InstanceEvent.touch key.ns key.name refusals
      let last := pass plans time fates
      let before := past ++ ([touched] ++ (quiet ++ retries))
      let c := run key start (before ++ [last])
      before ++ [last] <+: events → touched.Succeeds key (run key start past) →
      (∀ e ∈ quiet, ¬ e.IsPass) → (∀ e ∈ retries, ¬ e.IsRequest) →
      last.Succeeds key (run key start before) →
      ∃ (inst : TemplatedInstance) (s : ServiceInstance),
        c.find? .templatedInstance key.place = some inst ∧
          c.find? .serviceInstance key.place = some s ∧ FullyPushed inst.spec s.spec := by
  have hrelates : start.Relates NotAhead key.place := by
    refine ⟨hstart, first, hfirst, ?_⟩
    intro s hs
    rw [hvacant] at hs
    cases hs
  have hrangePast : ∀ past, past <+: events → InRange key start past := by
    rintro past ⟨later, rfl⟩
    exact (inRange_append.1 hrange).1
  have hnotAhead : ∀ past, past <+: events → (run key start past).Relates NotAhead key.place := by
    intro past hpast
    exact notAhead_run hrelates (hrangePast past hpast)
  refine ⟨?_, ?_⟩
  · intro past hpast
    exact ⟨hnotAhead past hpast, touch_succeeds (hnotAhead past hpast)⟩
  · intro past refusals quiet retries plans time fates touched last before c hpast htouched hquiet
      hretries hlast
    have hbefore : InRange key start before :=
      hrangePast before ((List.prefix_append before [last]).trans hpast)
    obtain ⟨-, hlater⟩ := inRange_append.1 hbefore
    obtain ⟨⟨hhere, -⟩, hrest⟩ := inRange_append.1 hlater
    obtain ⟨hrangeQuiet, hrangeRetries⟩ := inRange_append.1 hrest
    have hpastBefore : past <+: events :=
      (List.prefix_append past _).trans ((List.prefix_append before [last]).trans hpast)
    have hbehind := behind_run (behind_of_touch (hnotAhead past hpastBefore) hhere htouched)
      hrangeQuiet hquiet
    have hsettles := settles_run (hbehind.mono Or.inl) hrangeRetries hretries
    have hrun : run key start before =
        run key (run key (touched.after key (run key start past)) quiet) retries := by
      rw [← run_append, run_append]
      rfl
    have hc : c = last.after key (run key start before) := run_append before [last]
    rw [hc]
    rw [hrun] at hlast ⊢
    exact fullyPushed_of_pass plans time fates hsettles hlast

open InstanceEvent in
/-- Another plan is asked for, which the next pass does not notice. A touch, refused once because of
a conflict, makes it known: a pass fails to push it down, and the one after that succeeds. -/
theorem touch_forces_push_replanned :
    let key : InstanceKey := ⟨"default/db", "default", "db", by decide⟩
    let inst : TemplatedInstance :=
      { metadata := { name := some "db", ns := some "default" }
        spec := { plan := .ofClusterExternal "mysql" "small" } }
    let start := (Cluster.empty.insert inst).2
    let large : PlanReference := .ofClusterExternal "mysql" "large"
    let past : List InstanceEvent :=
      [.pass noPlans "noon" [], .request large none [], .pass noPlans "one" []]
    let touched : InstanceEvent :=
      .touch "default" "db" [.conflict "TemplatedInstance" "db" "stale"]
    let last : InstanceEvent := .pass noPlans "three" []
    let before := past ++ ([touched] ++ ([] ++ [.pass noPlans "two" [.refused .exchange]]))
    let plan (c : Cluster) := (c.find? .serviceInstance key.place).map fun s =>
      ServiceInstanceSpec.plan s.spec
    (InRange key start (before ++ [last]) ∧ touched.Succeeds key (run key start past) ∧
      last.Succeeds key (run key start before)) ∧
    plan (run key start before) = some (.ofClusterExternal "mysql" "small") ∧
    plan (run key start (before ++ [last])) = some large ∧
    ∃ (inst : TemplatedInstance) (s : ServiceInstance),
      (run key start (before ++ [last])).find? .templatedInstance key.place = some inst ∧
        (run key start (before ++ [last])).find? .serviceInstance key.place = some s ∧
        FullyPushed inst.spec s.spec := by
  intro key inst start large past touched last before plan
  have hfirst : start.find? .templatedInstance key.place = some (Store.seeded inst "uid#1") :=
    (Cluster.empty.puts_insert inst).find?_of_place rfl
  have hrange : InRange key start (before ++ [last]) := by decide +kernel
  have htouched : touched.Succeeds key (run key start past) := by decide +kernel
  have hlast : last.Succeeds key (run key start before) := by decide +kernel
  obtain ⟨-, hpushed⟩ :=
    touch_forces_push key (Cluster.sound_empty.insert inst) hfirst (by decide +kernel) hrange
  refine ⟨⟨hrange, htouched, hlast⟩, by decide +kernel, by decide +kernel, ?_⟩
  apply hpushed past _ [] [.pass noPlans "two" [.refused .exchange]] noPlans "three" []
    (List.prefix_refl _) htouched
  · intro e he
    cases he
  · intro e he
    obtain rfl := List.mem_singleton.1 he
    exact id
  · exact hlast

end ServiceTemplates
