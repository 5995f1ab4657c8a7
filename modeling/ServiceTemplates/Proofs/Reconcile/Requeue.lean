import Mathlib.Algebra.Group.Int.Defs
import Mathlib.Algebra.Group.Nat.Defs
import Mathlib.Data.List.Induction
import ServiceTemplates.Proofs.Reconcile.Key
import ServiceTemplates.Session
import ServiceTemplates.SortedMap.Lemmas

/-!
# When objects are looked at again

All queues share one map of failures, whose keys are texts made of a kind, a namespace and a
name, and two things start a count anew: a success and a failure that no further attempt can
mend. What follows an attempt still depends on nothing but the attempts at the same object.
Main statement: `RetryPolicy.answer_along`, the delay after the failures in a row of an object.
-/

namespace ServiceTemplates

/-! ## Delays -/

namespace Schedule

/-- The factor fits into its word. -/
theorem factor_toNat (failures : Nat) :
    (factor failures).toNat = 2 ^ min (failures - 1) 31 := by
  have hword : ∀ n : Fin 32, ((1 : UInt32) <<< UInt32.ofNat n.val).toNat = 2 ^ n.val := by decide
  have hlt : min (failures - 1) 31 < 32 := by omega
  exact hword ⟨min (failures - 1) 31, hlt⟩

variable {start limit : Nat}

/-- A multiple beyond the longest time is beyond the maximum too. -/
theorem delay_ofBounds (hstart : start ≤ longestTime) (hlimit : limit ≤ longestTime)
    (failures : Nat) :
    (ofBounds start limit).delay failures =
      min (start * 2 ^ min (failures - 1) 31) (Nat.max start limit) := by
  have hmax : Nat.max limit start = Nat.max start limit := Nat.max_comm limit start
  have hbound : Nat.max start limit ≤ longestTime := Nat.max_le.2 ⟨hstart, hlimit⟩
  show min (min (start * (factor failures).toNat) longestTime) (Nat.max limit start) = _
  rw [hmax, factor_toNat, Nat.min_assoc, Nat.min_eq_right hbound]

end Schedule

/-! ## Counting failures -/

namespace Backoff

variable (b : Backoff)

/-- A failure counts under its key only, up to the bound. -/
theorem failures_fail (key key' : String) :
    (b.fail key).2.failures key' =
      if key' = key then min (b.failures key + 1) failureBound else b.failures key' := by
  unfold failures fail
  dsimp only
  rw [SortedMap.find?_insert]
  split <;> rfl

/-- Forgetting starts over under one key only. -/
theorem failures_forget (key key' : String) :
    (b.forget key).failures key' = if key' = key then 0 else b.failures key' := by
  unfold failures forget
  dsimp only
  rw [SortedMap.find?_erase]
  split <;> rfl

end Backoff

/-! ## Queued objects -/

/-- An object that stands in a queue under its namespace and its name. -/
structure Queued where
  queue : QueueKind
  metadata : Metadata
  ns : IsKeyPart (metadata.ns.getD "")
  name : IsKeyPart (metadata.name.getD "")

namespace Queued

/-- What tells queued objects apart. -/
def place (o : Queued) : QueueKind × ObjectKey := (o.queue, .ofMetadata o.metadata)

def retryKey (o : Queued) : String := RetryPolicy.retryKey o.queue.kind o.metadata

/-- **Different objects never share a count.** -/
theorem retryKey_inj {o o' : Queued} : o.retryKey = o'.retryKey ↔ o.place = o'.place := by
  have hqueue : o.queue.kind = o'.queue.kind ↔ o.queue = o'.queue := by
    cases o.queue <;> cases o'.queue <;> simp
  rw [retryKey, retryKey, RetryPolicy.retryKey_eq_retryKey_iff,
    Metadata.key_eq_key_iff o.ns o'.ns, hqueue, place, place, Prod.mk.injEq]

end Queued

/-! ## Attempts -/

/-- One attempt at an object: whether it brought something in line, or why it failed. -/
structure Attempt where
  object : Queued
  ending : Except Error Bool

/-- Whether the object is to be tried again because of the attempt. -/
def Attempt.isRetried (a : Attempt) : Bool :=
  match a.ending with
  | .ok _ => false
  | .error e => e.isRetryable

/-- The attempts at one object. -/
def attemptsAt (place : QueueKind × ObjectKey) (past : List Attempt) : List Attempt :=
  past.filter fun a => a.object.place = place

/-- The failures of an object since its last success, or its last failure that no other attempt
can mend. -/
def failuresInARow (place : QueueKind × ObjectKey) (past : List Attempt) : Nat :=
  ((attemptsAt place past).reverse.takeWhile Attempt.isRetried).length

section Attempts

variable {place : QueueKind × ObjectKey} {past : List Attempt} {a : Attempt}

theorem attemptsAt_snoc : attemptsAt place (past ++ [a]) =
    if a.object.place = place then attemptsAt place past ++ [a] else attemptsAt place past := by
  unfold attemptsAt
  rw [List.filter_append]
  by_cases h : a.object.place = place
  · simp [h]
  · simp [h]

/-- What happens to other objects does not count. -/
theorem failuresInARow_of_ne (h : a.object.place ≠ place) :
    failuresInARow place (past ++ [a]) = failuresInARow place past := by
  rw [failuresInARow, attemptsAt_snoc, if_neg h, failuresInARow]

/-- A failure that is tried again is one more in a row. -/
theorem failuresInARow_of_retried (h : a.object.place = place) (ha : a.isRetried) :
    failuresInARow place (past ++ [a]) = failuresInARow place past + 1 := by
  rw [failuresInARow, attemptsAt_snoc, if_pos h, List.reverse_append, List.reverse_singleton,
    List.singleton_append, List.takeWhile_cons_of_pos ha, List.length_cons, failuresInARow]

/-- Anything else ends the row. -/
theorem failuresInARow_of_reset (h : a.object.place = place) (ha : ¬ a.isRetried) :
    failuresInARow place (past ++ [a]) = 0 := by
  rw [failuresInARow, attemptsAt_snoc, if_pos h, List.reverse_append, List.reverse_singleton,
    List.singleton_append, List.takeWhile_cons_of_neg ha, List.length_nil]

/-- Without a reset failures are not forgotten. -/
theorem failuresInARow_le_append (more : List Attempt)
    (hmore : ∀ b ∈ more, b.object.place = place → b.isRetried) :
    failuresInARow place past ≤ failuresInARow place (past ++ more) := by
  induction more using List.reverseRecOn with
  | nil => simp
  | append_singleton more b ih =>
    have hle := ih fun b' hb' => hmore b' (List.mem_append_left _ hb')
    rw [← List.append_assoc]
    by_cases hb : b.object.place = place
    · have hretried := hmore b (by simp) hb
      rw [failuresInARow_of_retried hb hretried]
      omega
    · rw [failuresInARow_of_ne hb]
      exact hle

end Attempts

namespace RetryPolicy

def answer (p : RetryPolicy) (a : Attempt) : Action × RetryPolicy :=
  match a.ending with
  | .ok synced => p.afterSuccess a.object.queue.kind a.object.metadata synced
  | .error e =>
    let (action, p, _) := p.afterFailure a.object.queue.kind a.object.metadata e
    (action, p)

def after (p : RetryPolicy) (past : List Attempt) : RetryPolicy :=
  past.foldl (fun p a => (p.answer a).2) p

theorem after_snoc (p : RetryPolicy) (past : List Attempt) (a : Attempt) :
    p.after (past ++ [a]) = ((p.after past).answer a).2 := by
  rw [after, List.foldl_append]
  rfl

/-! ## One attempt -/

section Answer

variable (p : RetryPolicy) {a : Attempt}

/-- What is in line is looked after again when the resync period is over. -/
theorem answer_of_synced (h : a.ending = .ok true) : (p.answer a).1 = .requeue p.resync := by
  rw [answer, h]
  rfl

/-- Where there was nothing to do, nothing is to be repeated. -/
theorem answer_of_idle (h : a.ending = .ok false) : (p.answer a).1 = .awaitChange := by
  rw [answer, h]
  rfl

/-- A failure that trying again cannot mend waits for a change. -/
theorem answer_of_final {e : Error} (h : a.ending = .error e) (he : ¬ e.isRetryable) :
    (p.answer a).1 = .awaitChange := by
  rw [answer, h]
  simp only [afterFailure, if_neg he]

/-- Any other failure is repeated after the delay for its count. -/
theorem answer_of_retried (h : a.isRetried) :
    (p.answer a).1 =
      .requeue (p.backoff.schedule.delay
        (min (p.backoff.failures a.object.retryKey + 1) failureBound)) := by
  unfold Attempt.isRetried at h
  unfold answer
  cases hending : a.ending with
  | ok synced => simp [hending] at h
  | error e =>
    rw [hending] at h
    simp only [afterFailure, if_pos h]
    rfl

/-- Nothing but the counts changes. -/
theorem answer_settings :
    (p.answer a).2.backoff.schedule = p.backoff.schedule ∧ (p.answer a).2.resync = p.resync := by
  unfold answer
  cases a.ending with
  | ok synced => exact ⟨rfl, rfl⟩
  | error e =>
    unfold afterFailure
    dsimp only
    split <;> exact ⟨rfl, rfl⟩

/-- An attempt counts, or starts over, for the key of its object and for no other. -/
theorem answer_failures (key : String) :
    (p.answer a).2.backoff.failures key =
      if key = a.object.retryKey then
        if a.isRetried then min (p.backoff.failures key + 1) failureBound else 0
      else p.backoff.failures key := by
  unfold answer Attempt.isRetried
  cases a.ending with
  | ok synced =>
    simp only [afterSuccess, Backoff.failures_forget, Queued.retryKey]
    rfl
  | error e =>
    unfold afterFailure
    by_cases he : e.isRetryable
    · simp only [if_pos he, Backoff.failures_fail, Queued.retryKey]
      split
      · next hkey => rw [hkey]
      · rfl
    · simp only [if_neg he, Backoff.failures_forget, Queued.retryKey]

end Answer

/-! ## Any number of attempts -/

/-- Whether a policy has its settings and the counts that belong to some attempts. -/
structure Counted (start limit resync : Nat) (past : List Attempt) (p : RetryPolicy) : Prop where
  schedule : p.backoff.schedule = .ofBounds start limit
  resync : p.resync = resync
  failures : ∀ o : Queued,
    p.backoff.failures o.retryKey = min (failuresInARow o.place past) failureBound

def fresh (start limit resync : Nat) : RetryPolicy :=
  { backoff := .ofBounds start limit, resync := resync }

variable {start limit resync : Nat} {past : List Attempt}

/-- The counts keep step with the failures in a row. -/
theorem Counted.answer {p : RetryPolicy} (h : Counted start limit resync past p) (a : Attempt) :
    Counted start limit resync (past ++ [a]) (p.answer a).2 where
  schedule := (p.answer_settings).1.trans h.schedule
  resync := (p.answer_settings).2.trans h.resync
  failures o := by
    rw [p.answer_failures, h.failures]
    -- Objects share a key of the backoff only if they share a place.
    by_cases hplace : a.object.place = o.place
    · rw [if_pos (Queued.retryKey_inj.2 hplace.symm)]
      by_cases ha : a.isRetried
      · rw [if_pos ha, failuresInARow_of_retried hplace ha]
        omega
      · rw [if_neg ha, failuresInARow_of_reset hplace ha]
        omega
    · have hkey : o.retryKey ≠ a.object.retryKey := fun h =>
        hplace (Queued.retryKey_inj.1 h).symm
      rw [if_neg hkey, failuresInARow_of_ne hplace]

/-- **The count of an object is the number of its failures in a row.** -/
theorem counted_after (start limit resync : Nat) (past : List Attempt) :
    Counted start limit resync past ((fresh start limit resync).after past) := by
  induction past using List.reverseRecOn with
  | nil => exact ⟨rfl, rfl, fun _ => rfl⟩
  | append_singleton past a ih =>
    rw [after_snoc]
    exact ih.answer a

/-- A saturated count has the greatest factor already. -/
theorem min_failureBound (n : Nat) : min (min n failureBound - 1) 31 = min (n - 1) 31 := by
  have hbound : failureBound = 4294967295 := rfl
  omega

/-- **What follows an attempt, by the failures in a row.** -/
theorem Counted.action {p : RetryPolicy} (h : Counted start limit resync past p)
    (hstart : start ≤ longestTime) (hlimit : limit ≤ longestTime) (a : Attempt) :
    (p.answer a).1 =
      match a.ending with
      | .ok synced => if synced then .requeue resync else .awaitChange
      | .error e =>
        if e.isRetryable then
          .requeue (min (start * 2 ^ min (failuresInARow a.object.place (past ++ [a]) - 1) 31)
            (max start limit))
        else .awaitChange := by
  cases hending : a.ending with
  | ok synced =>
    cases synced with
    | true => exact (p.answer_of_synced hending).trans (congrArg Action.requeue h.resync)
    | false => exact p.answer_of_idle hending
  | error e =>
    by_cases he : e.isRetryable
    · have ha : a.isRetried := by
        rw [Attempt.isRetried, hending]
        exact he
      have hcount : min (min (failuresInARow a.object.place past) failureBound + 1) failureBound =
          min (failuresInARow a.object.place (past ++ [a])) failureBound := by
        rw [failuresInARow_of_retried rfl ha]
        omega
      simp only [if_pos he]
      rw [p.answer_of_retried ha, h.schedule, h.failures, hcount,
        Schedule.delay_ofBounds hstart hlimit, min_failureBound]
    · simp only [if_neg he]
      exact p.answer_of_final hending he

/-- The delay of a repeated attempt, by the failures in a row. -/
theorem Counted.delay {p : RetryPolicy} (h : Counted start limit resync past p)
    (hstart : start ≤ longestTime) (hlimit : limit ≤ longestTime) {a : Attempt}
    (ha : a.isRetried) {delay : Nat} (hdelay : (p.answer a).1 = .requeue delay) :
    delay = min (start * 2 ^ min (failuresInARow a.object.place (past ++ [a]) - 1) 31)
      (max start limit) := by
  rw [h.action hstart hlimit] at hdelay
  unfold Attempt.isRetried at ha
  cases hending : a.ending with
  | ok synced => simp [hending] at ha
  | error e =>
    rw [hending] at ha hdelay
    simp only [if_pos ha] at hdelay
    exact (Action.requeue.inj hdelay).symm

end RetryPolicy

/-! ## Sessions -/

namespace Session

variable (s : Session) (o : Queued)

/-- The attempt that a session makes at an object. -/
def attempt : Attempt :=
  ⟨o, (s.run (ServiceTemplates.reconcile o.queue s.plans s.time o.metadata)).1⟩

theorem setCluster_policy (side : Side) (c : Cluster) :
    (s.setCluster side c).policy = s.policy := by
  unfold setCluster
  split <;> rfl

/-- A pass does not touch the policy. -/
theorem run_policy {α : Type} (p : Pass α) : (s.run p).2.policy = s.policy :=
  s.setCluster_policy .live _

/-- What a session does after a pass is the answer to the attempt that it made. -/
theorem reconcile_answer :
    (s.reconcile o.queue o.metadata).2.1 = (s.policy.answer (s.attempt o)).1 ∧
      (s.reconcile o.queue o.metadata).2.2.policy = (s.policy.answer (s.attempt o)).2 := by
  have hpolicy := s.run_policy (ServiceTemplates.reconcile o.queue s.plans s.time o.metadata)
  unfold reconcile RetryPolicy.answer attempt
  generalize s.run (ServiceTemplates.reconcile o.queue s.plans s.time o.metadata) = ran at hpolicy
  obtain ⟨result, s'⟩ := ran
  replace hpolicy : s'.policy = s.policy := hpolicy
  rw [← hpolicy]
  cases result with
  | ok synced => exact ⟨rfl, rfl⟩
  | error e => exact ⟨rfl, rfl⟩

theorem afterFailure_answer (e : Error) :
    (s.afterFailure o.queue.kind o.metadata e).1 = (s.policy.answer ⟨o, .error e⟩).1 ∧
      (s.afterFailure o.queue.kind o.metadata e).2.policy = (s.policy.answer ⟨o, .error e⟩).2 :=
  ⟨rfl, rfl⟩

end Session

namespace RetryPolicy

variable {start limit : Nat}

/-- **What follows an attempt depends on the failures in a row of its object.** A pass that
brought something in line is repeated after the resync period; one that found nothing to do, or
failed for good, waits for a change; and after any other failure the delay is the start, doubled
for each failure in a row before, up to the limit. So the delays of an object never fall until
it is reset, keep within the bounds, and do not depend on any other object. Sessions go by this,
in their passes as well as where a failure is handed to them. -/
theorem answer_along (hstart : start ≤ longestTime) (hlimit : limit ≤ longestTime) (resync : Nat)
    (past : List Attempt) (a : Attempt) :
    let policy := fresh start limit resync
    let follows (past : List Attempt) (a : Attempt) : Action := ((policy.after past).answer a).1
    let place := a.object.place
    (follows past a =
      match a.ending with
      | .ok synced => if synced then .requeue resync else .awaitChange
      | .error e =>
        if e.isRetryable then
          .requeue (min (start * 2 ^ min (failuresInARow place (past ++ [a]) - 1) 31)
            (max start limit))
        else .awaitChange) ∧
    (∀ delay, a.isRetried → follows past a = .requeue delay →
      start ≤ delay ∧ delay ≤ max start limit) ∧
    (∀ more b delay later, (∀ x ∈ a :: more ++ [b], x.object.place = place → x.isRetried) →
      b.object.place = place → follows past a = .requeue delay →
      follows (past ++ a :: more) b = .requeue later → delay ≤ later) ∧
    (∀ past', attemptsAt place past' = attemptsAt place past → follows past' a = follows past a) ∧
    ∀ s : Session, s.policy = policy.after past →
      (∀ o, (s.reconcile o.queue o.metadata).2.1 = follows past (s.attempt o) ∧
        (s.reconcile o.queue o.metadata).2.2.policy = policy.after (past ++ [s.attempt o])) ∧
      ∀ o e, (s.afterFailure o.queue.kind o.metadata e).1 = follows past ⟨o, .error e⟩ ∧
        (s.afterFailure o.queue.kind o.metadata e).2.policy =
          policy.after (past ++ [⟨o, .error e⟩]) := by
  intro policy follows place
  have hcounted := counted_after start limit resync
  refine ⟨(hcounted past).action hstart hlimit a, ?_, ?_, ?_, ?_⟩
  · intro delay ha h
    -- The start is the least of the doubled starts.
    have hpos : 1 ≤ 2 ^ min (failuresInARow place (past ++ [a]) - 1) 31 := Nat.one_le_two_pow
    have hproduct := Nat.le_mul_of_pos_right start hpos
    obtain rfl := (hcounted past).delay hstart hlimit ha h
    exact ⟨Nat.le_min.2 ⟨hproduct, Nat.le_max_left start limit⟩, Nat.min_le_right _ _⟩
  · intro more b delay later hretried hb h hlater
    have hfailures : failuresInARow place (past ++ [a]) ≤
        failuresInARow place (past ++ a :: more ++ [b]) := by
      -- The later attempt comes after everything that went before the earlier one, and no reset
      -- lies between the two.
      have happend : past ++ a :: more ++ [b] = (past ++ [a]) ++ (more ++ [b]) := by simp
      rw [happend]
      exact failuresInARow_le_append _ fun x hx => hretried x (List.mem_cons_of_mem a hx)
    have hpow : 2 ^ min (failuresInARow place (past ++ [a]) - 1) 31 ≤
        2 ^ min (failuresInARow place (past ++ a :: more ++ [b]) - 1) 31 := by
      apply Nat.pow_le_pow_right (by decide)
      omega
    obtain rfl := (hcounted past).delay hstart hlimit (hretried a (by simp) rfl) h
    obtain rfl := (hcounted _).delay hstart hlimit (hretried b (by simp) hb) hlater
    rw [hb]
    have hproduct := Nat.mul_le_mul_left start hpow
    apply Nat.le_min.2 ⟨Nat.le_trans (Nat.min_le_left _ _) hproduct, Nat.min_le_right _ _⟩
  · intro past' hsame
    have hfailures : failuresInARow place (past' ++ [a]) = failuresInARow place (past ++ [a]) := by
      rw [failuresInARow, failuresInARow, attemptsAt_snoc, attemptsAt_snoc, hsame]
    have hthen := (hcounted past').action hstart hlimit a
    rw [hfailures] at hthen
    exact hthen.trans ((hcounted past).action hstart hlimit a).symm
  · intro s hs
    refine ⟨fun o => ?_, fun o e => ?_⟩
    · obtain ⟨haction, hpolicy⟩ := s.reconcile_answer o
      rw [hs] at haction hpolicy
      exact ⟨haction, hpolicy.trans (policy.after_snoc past _).symm⟩
    · obtain ⟨haction, hpolicy⟩ := s.afterFailure_answer o e
      rw [hs] at haction hpolicy
      exact ⟨haction, hpolicy.trans (policy.after_snoc past _).symm⟩

/-- A third failure of an instance, of which an equally named secret's failures know nothing. -/
theorem answer_along_third :
    let metadata : Metadata := { name := some "db", ns := some "default" }
    let instanceDb : Queued :=
      ⟨.templatedInstance, metadata, ⟨by decide, by decide⟩, ⟨by decide, by decide⟩⟩
    let secretDb : Queued := ⟨.secret, metadata, ⟨by decide, by decide⟩, ⟨by decide, by decide⟩⟩
    let fails (o : Queued) : Attempt := ⟨o, .error (.templateNotFound "mysql")⟩
    let past := [fails instanceDb, fails secretDb, fails instanceDb, fails secretDb]
    let start := Time.second
    let limit := 30 * Time.second
    (start ≤ longestTime ∧ limit ≤ longestTime) ∧
      (((fresh start limit (300 * Time.second)).after past).answer (fails instanceDb)).1 =
        .requeue (4 * Time.second) := by
  intro metadata instanceDb secretDb fails past start limit
  have hbounds : start ≤ longestTime ∧ limit ≤ longestTime := by decide
  refine ⟨hbounds, ?_⟩
  have hthird : failuresInARow instanceDb.place (past ++ [fails instanceDb]) = 3 := by decide
  refine (answer_along hbounds.1 hbounds.2 (300 * Time.second) past (fails instanceDb)).1.trans ?_
  show Action.requeue (min (start * 2 ^ min (failuresInARow instanceDb.place
    (past ++ [fails instanceDb]) - 1) 31) (max start limit)) = .requeue (4 * Time.second)
  rw [hthird]
  decide

end RetryPolicy

end ServiceTemplates
