import Mathlib.Algebra.Group.Int.Defs
import Mathlib.Algebra.Group.Nat.Defs
import ServiceTemplates.Proofs.Pass.Crowd
import ServiceTemplates.Proofs.Store.Version
import ServiceTemplates.Reconcile.Touch

/-!
# Touches that get in each other's way

Any number of calls raise the counter of one instance at the same time, while others write the
instance as well but leave the counter alone. The versions carry the argument: a call that has
read the instance as it stood after some number of writes can only write while that number is
still the present one, so its write is an increment of the present counter, and a call that is
refused has been overtaken by a write since its last attempt. Main statements:
`Touching.step`, what one turn preserves, and `touches_lose_nothing`.
-/

namespace ServiceTemplates

/-! ## One call -/

namespace TemplatedInstance

def counter (inst : TemplatedInstance) : Int64 := TemplatedInstanceSpec.updateRequests inst.spec

/-- A touch that is written raises the counter by one. -/
theorem counter_successor_touched (current : TemplatedInstance) :
    counter (Store.successor current (touched current)) = counter current + 1 := rfl

end TemplatedInstance

open TemplatedInstance

def touchAgain (ns name : String) (left : Nat) (e : Error) : Pass TemplatedInstance :=
  match left with
  | 0 => .fail e
  | left + 1 => if e.isConflict then touchWith ns name left else .fail e

def touchRead (ns name : String) (left : Nat) (read : TemplatedInstance) :
    Pass TemplatedInstance :=
  .ask (.update .templatedInstance (touched read)) fun
    | .ok updated => .done (.ok updated)
    | .error e => touchAgain ns name left e

def touchNext (ns name : String) (left : Nat) :
    Except Error (Option TemplatedInstance) → Pass TemplatedInstance
  | .ok (some read) => touchRead ns name left read
  | .ok none => .fail (.notFound Kind.templatedInstance.name (ns ++ "/" ++ name))
  | .error e => .fail e

theorem touchWith_eq (ns name : String) (left : Nat) :
    touchWith ns name left = .ask (.fetch .templatedInstance ns name) (touchNext ns name left) := by
  have honce : ∀ refused : Error → Pass TemplatedInstance,
      (∀ e, refused e = touchAgain ns name left e) →
      touchOnce ns name refused =
        .ask (.fetch .templatedInstance ns name) (touchNext ns name left) := by
    intro refused hrefused
    obtain rfl : refused = touchAgain ns name left := funext hrefused
    show Pass.ask _ _ = _
    congr 1
    funext answer
    rcases answer with e | _ | read
    · rfl
    · rfl
    · show Pass.ask _ _ = Pass.ask _ _
      congr 1
      funext reply
      cases reply <;> rfl
  cases left with
  | zero => exact honce .fail fun _ => rfl
  | succ left => exact honce _ fun _ => rfl

/-! ## Counters -/

/-- Fewer than all numbers are told apart also when they wrap. -/
theorem eq_of_add_ofNat {a : Int64} {m n : Nat} (hm : m < 2 ^ 64) (hn : n < 2 ^ 64)
    (h : a + .ofNat m = a + .ofNat n) : m = n := by
  have hbits : BitVec.ofNat 64 m = BitVec.ofNat 64 n :=
    congrArg Int64.toBitVec ((Int64.add_right_inj a).1 h)
  have hmod := congrArg BitVec.toNat hbits
  rwa [BitVec.toNat_ofNat, BitVec.toNat_ofNat, Nat.mod_eq_of_lt hm, Nat.mod_eq_of_lt hn] at hmod

/-- Counting does not wrap below the bound. -/
theorem toInt_add_ofNat {a : Int64} {n : Nat} (h : a.toInt + n < 2 ^ 63) :
    (a + .ofNat n).toInt = a.toInt + n := by
  have hle := a.le_toInt
  have hsize : Int64.size = 2 ^ 64 := rfl
  rw [Int64.toInt_add, Int64.toInt_ofNat', Int.add_bmod_bmod, Int.bmod_eq_of_le] <;> omega

/-! ## Where a call stands -/

/-- Where a call stands that has made some `steps` and had some `refusals`, when `current` is
the instance after some `writes`, of which `increments` were made by calls. -/
inductive TouchPhase (ns name : String) (first current : TemplatedInstance)
    (writes increments steps refusals : Nat) : Pass TemplatedInstance → Prop
  /-- About to read; each attempt that was refused was overtaken by a write of its own. -/
  | reading {left : Nat} (attempts : refusals + left + 1 = maxTouchAttempts)
      (taken : steps = 2 * refusals) (paid : refusals ≤ writes) :
      TouchPhase ns name first current writes increments steps refusals (touchWith ns name left)
  /-- About to write what it has read after `seen` of the writes. -/
  | writing {left seen : Nat} {read : TemplatedInstance}
      (attempts : refusals + left + 1 = maxTouchAttempts)
      (taken : steps = 2 * refusals + 1) (paid : refusals ≤ seen) (past : seen ≤ writes)
      (place : read.place = ⟨ns, name⟩) (versioned : read.version.isSome)
      (version : versionNumber read.version =
        (versionNumber first.version + seen) % 0x10000000000000000)
      (present : seen = writes → read = current) :
      TouchPhase ns name first current writes increments steps refusals
        (touchRead ns name left read)
  /-- Over, having made one of the increments. -/
  | succeeded {updated : TemplatedInstance} (nth : Nat) (past : nth ≤ increments)
      (counted : counter updated = counter first + .ofNat nth) :
      TouchPhase ns name first current writes increments steps refusals (.done (.ok updated))
  /-- Over, every attempt having been refused. -/
  | failed {e : Error} (conflict : e.isConflict) (attempts : refusals = maxTouchAttempts)
      (paid : refusals ≤ writes) :
      TouchPhase ns name first current writes increments steps refusals (.done (.error e))

namespace TouchPhase

variable {ns name : String} {first current : TemplatedInstance}
  {writes increments steps refusals : Nat} {rest : Pass TemplatedInstance}

/-- Whatever is written, a call that does not write stays where it is. -/
theorem overtaken (h : TouchPhase ns name first current writes increments steps refusals rest)
    (current' : TemplatedInstance) {increments' : Nat} (hincrements : increments ≤ increments') :
    TouchPhase ns name first current' (writes + 1) increments' steps refusals rest := by
  cases h with
  | reading attempts taken paid => exact .reading attempts taken (by omega)
  | writing attempts taken paid past place versioned version _ =>
    exact .writing attempts taken paid (by omega) place versioned version (by omega)
  | succeeded nth past counted => exact .succeeded nth (by omega) counted
  | failed conflict attempts paid => exact .failed conflict attempts (by omega)

/-- A call is over after two steps for each attempt. -/
theorem done_of_steps (h : TouchPhase ns name first current writes increments steps refusals rest)
    (hsteps : 2 * maxTouchAttempts ≤ steps) : ∃ result, rest = .done result := by
  cases h with
  | reading attempts taken _ => omega
  | writing attempts taken _ _ _ _ _ _ => omega
  | succeeded _ _ _ => exact ⟨_, rfl⟩
  | failed _ _ _ => exact ⟨_, rfl⟩

/-- What a call has returned is the instance after one of the increments. -/
theorem counted (h : TouchPhase ns name first current writes increments steps refusals rest)
    {updated : TemplatedInstance} (hvalue : rest.value? = some updated) :
    ∃ nth ≤ increments, counter updated = counter first + .ofNat nth := by
  cases h with
  | reading _ _ _ =>
    rw [touchWith_eq] at hvalue
    cases hvalue
  | writing _ _ _ _ _ _ _ _ => cases hvalue
  | succeeded nth past counted =>
    cases hvalue
    exact ⟨nth, past, counted⟩
  | failed _ _ _ => cases hvalue

/-- A call that gives up has met as many conflicts as it may, and as many writes have come between.
-/
theorem refused (h : TouchPhase ns name first current writes increments steps refusals rest)
    {e : Error} (hrest : rest = .done (.error e)) :
    e.isConflict ∧ refusals = maxTouchAttempts ∧ refusals ≤ writes := by
  cases h with
  | reading _ _ _ =>
    rw [touchWith_eq] at hrest
    cases hrest
  | writing _ _ _ _ _ _ _ _ => cases hrest
  | succeeded _ _ _ => cases hrest
  | failed conflict attempts paid =>
    cases hrest
    exact ⟨conflict, attempts, paid⟩

end TouchPhase

/-! ## A crowd of calls -/

/-- Whether a step leaves everything as it is, or raises the counter of an instance and
nothing else. -/
def Step.OnlyTouches (ns name : String) (s : Step) : Prop :=
  s.after = s.before ∨ ∃ current : TemplatedInstance,
    s.before.find? .templatedInstance ⟨ns, name⟩ = some current ∧
      s.before.Puts (Store.successor current (touched current)) s.after

/-- Whether a step leaves the counter of an instance alone. -/
def Step.KeepsCounter (ns name : String) (s : Step) : Prop :=
  (s.after.find? .templatedInstance ⟨ns, name⟩).map counter =
    (s.before.find? .templatedInstance ⟨ns, name⟩).map counter

/-- What holds at every moment while some calls touch an instance: `first` is the instance
in the beginning and `current` as it stands. -/
structure Touching {n : Nat} (ns name : String) (first current : TemplatedInstance)
    (crowd : Crowd (Fin n) TemplatedInstance) : Prop where
  sound : crowd.cluster.Sound
  found : crowd.cluster.find? .templatedInstance ⟨ns, name⟩ = some current
  counted : counter current = counter first + .ofNat crowd.successes.card
  version : versionNumber current.version = (versionNumber first.version +
    crowd.writes .templatedInstance ⟨ns, name⟩) % 0x10000000000000000
  writes : crowd.writes .templatedInstance ⟨ns, name⟩ =
    crowd.successes.card + crowd.writesOfOthers .templatedInstance ⟨ns, name⟩
  phase : ∀ i, TouchPhase ns name first current (crowd.writes .templatedInstance ⟨ns, name⟩)
    crowd.successes.card (crowd.steps i) (crowd.refusals i) (crowd.rest i)
  distinct : ∀ {i j u v}, i ≠ j → (crowd.rest i).value? = some u →
    (crowd.rest j).value? = some v → counter u ≠ counter v
  modest : ∀ e ∈ crowd.trace, e.1.isSome → e.2.OnlyTouches ns name

namespace Touching

variable {n : Nat} {c : Cluster} {ns name : String} {first current : TemplatedInstance}
  {crowd : Crowd (Fin n) TemplatedInstance}

/-- Before the first turn every call has all of its attempts left. -/
theorem start (hc : c.Sound) (hfirst : c.find? .templatedInstance ⟨ns, name⟩ = some first) :
    Touching ns name first first (Crowd.start c fun _ : Fin n => touch ns name) := by
  have hvalue : (touch ns name).value? = none := by
    rw [touch, touchWith_eq]
    rfl
  have hnone : (Crowd.start c fun _ : Fin n => touch ns name).successes = ∅ := by
    refine Finset.eq_empty_of_forall_notMem fun i => ?_
    rw [Crowd.mem_successes, Crowd.start, hvalue]
    exact Bool.false_ne_true
  exact {
    sound := hc
    found := hfirst
    counted := by
      rw [hnone]
      exact (Int64.add_zero _).symm
    version := (Nat.mod_eq_of_lt (versionNumber_lt _)).symm
    writes := by
      rw [hnone]
      rfl
    phase := fun i => .reading rfl rfl (Nat.zero_le _)
    distinct := fun _ hi => by
      rw [Crowd.start, hvalue] at hi
      cases hi
    modest := fun e he => by cases he }

theorem modest_advance (h : Touching ns name first current crowd) {who : Option (Fin n)}
    {r : Request} {rest : Fin n → Pass TemplatedInstance}
    (hmodest : who.isSome → (crowd.cluster.served r).OnlyTouches ns name) :
    ∀ e ∈ (crowd.advance who r rest).trace, e.1.isSome → e.2.OnlyTouches ns name := by
  intro e he hwho
  rcases Crowd.mem_trace_advance.1 he with he | rfl
  · exact h.modest e he hwho
  · exact hmodest hwho

/-- The instance is not written, and no call comes to its end. -/
theorem quiet (h : Touching ns name first current crowd) {who : Option (Fin n)} {r : Request}
    {rest : Fin n → Pass TemplatedInstance}
    (hw : (crowd.cluster.served r).writes .templatedInstance ⟨ns, name⟩ = false)
    (hmodest : who.isSome → (crowd.cluster.served r).OnlyTouches ns name)
    (hvalue : ∀ i, (rest i).value? = (crowd.rest i).value?)
    (hphase : ∀ i, TouchPhase ns name first current
      (crowd.writes .templatedInstance ⟨ns, name⟩) crowd.successes.card
      ((crowd.advance who r rest).steps i) ((crowd.advance who r rest).refusals i) (rest i)) :
    Touching ns name first current (crowd.advance who r rest) := by
  have hsuccesses : (crowd.advance who r rest).successes = crowd.successes :=
    Crowd.successes_congr fun i => by rw [Crowd.rest_advance, hvalue]
  have hwrites : (crowd.advance who r rest).writes .templatedInstance ⟨ns, name⟩ =
      crowd.writes .templatedInstance ⟨ns, name⟩ := by
    simp [Crowd.writes_advance, hw]
  have hothers : (crowd.advance who r rest).writesOfOthers .templatedInstance ⟨ns, name⟩ =
      crowd.writesOfOthers .templatedInstance ⟨ns, name⟩ := by
    simp [Crowd.writesOfOthers, Crowd.tally_advance, hw]
  exact {
    sound := h.sound.serve r
    found := (Cluster.find?_serve_of_not_writes hw).trans h.found
    counted := by rw [hsuccesses, h.counted]
    version := by rw [hwrites, h.version]
    writes := by rw [hwrites, hsuccesses, hothers, h.writes]
    phase := by
      rw [hwrites, hsuccesses]
      exact hphase
    distinct := fun hij hi hj => by
      rw [Crowd.rest_advance, hvalue] at hi hj
      exact h.distinct hij hi hj
    modest := h.modest_advance hmodest }

/-- The instance is written, by a call that comes to its end or by somebody else. -/
theorem written (h : Touching ns name first current crowd) {who : Option (Fin n)} {r : Request}
    {rest : Fin n → Pass TemplatedInstance} {new : TemplatedInstance}
    (hw : (crowd.cluster.served r).writes .templatedInstance ⟨ns, name⟩ = true)
    (hnew : (crowd.cluster.serve r).2.find? .templatedInstance ⟨ns, name⟩ = some new)
    (hversion : new.version = some (nextVersion current.version))
    (hcounted : counter new = counter first + .ofNat (crowd.advance who r rest).successes.card)
    (hwriter : (crowd.advance who r rest).successes.card +
        (crowd.advance who r rest).writesOfOthers .templatedInstance ⟨ns, name⟩ =
      crowd.successes.card + crowd.writesOfOthers .templatedInstance ⟨ns, name⟩ + 1)
    (hmodest : who.isSome → (crowd.cluster.served r).OnlyTouches ns name)
    (hphase : ∀ i, TouchPhase ns name first new
      (crowd.writes .templatedInstance ⟨ns, name⟩ + 1) (crowd.advance who r rest).successes.card
      ((crowd.advance who r rest).steps i) ((crowd.advance who r rest).refusals i) (rest i))
    (hdistinct : ∀ {i j u v}, i ≠ j → (rest i).value? = some u → (rest j).value? = some v →
      counter u ≠ counter v) :
    Touching ns name first new (crowd.advance who r rest) := by
  have hwrites : (crowd.advance who r rest).writes .templatedInstance ⟨ns, name⟩ =
      crowd.writes .templatedInstance ⟨ns, name⟩ + 1 := by
    simp [Crowd.writes_advance, hw]
  exact {
    sound := h.sound.serve r
    found := hnew
    counted := hcounted
    version := by
      have hold := h.version
      rw [hversion, versionNumber_nextVersion_eq_mod, hwrites]
      omega
    writes := by
      have hold := h.writes
      omega
    phase := by
      rw [hwrites]
      exact hphase
    distinct := hdistinct
    modest := h.modest_advance hmodest }

/-! ### Whose turn it is -/

/-- **Somebody else makes a request.** -/
theorem other (h : Touching ns name first current crowd) (r : Request)
    (hkeeps : (crowd.cluster.served r).KeepsCounter ns name) :
    ∃ current', Touching ns name first current' (crowd.step (.other r)) := by
  cases hw : (crowd.cluster.served r).writes .templatedInstance ⟨ns, name⟩ with
  | false =>
    refine ⟨current, h.quiet hw (fun h => by cases h) (fun _ => rfl) fun i => ?_⟩
    rw [Crowd.steps_advance_of_ne (by simp), Crowd.refusals_advance_of_ne (by simp)]
    exact h.phase i
  | true =>
    obtain ⟨new, hnew, hversion⟩ := Cluster.find?_serve_of_writes h.found hw
    have hcounter : counter new = counter current := by
      have hmap : (some new).map counter = (some current).map counter := by
        rw [← hnew, ← h.found]
        exact hkeeps
      exact Option.some.inj hmap
    refine ⟨new, h.written hw hnew hversion (hcounter.trans h.counted) ?_ (fun h => by cases h)
      (fun i => ?_) h.distinct⟩
    · have hothers : (crowd.advance none r crowd.rest).writesOfOthers .templatedInstance
          ⟨ns, name⟩ = crowd.writesOfOthers .templatedInstance ⟨ns, name⟩ + 1 := by
        simp [Crowd.writesOfOthers, Crowd.tally_advance, hw]
      rw [hothers]
      rfl
    · rw [Crowd.steps_advance_of_ne (by simp), Crowd.refusals_advance_of_ne (by simp)]
      exact (h.phase i).overtaken new le_rfl

/-- A call makes a request. -/
theorem phase_advance {current' : TemplatedInstance} {writes increments : Nat} {i : Fin n}
    {r : Request} {p : Pass TemplatedInstance}
    (hself : TouchPhase ns name first current' writes increments (crowd.steps i + 1)
      (crowd.refusals i + if (crowd.cluster.served r).isRefusal then 1 else 0) p)
    (hothers : ∀ j, TouchPhase ns name first current' writes increments (crowd.steps j)
      (crowd.refusals j) (crowd.rest j)) (j : Fin n) :
    TouchPhase ns name first current' writes increments
      ((crowd.advance (some i) r (Function.update crowd.rest i p)).steps j)
      ((crowd.advance (some i) r (Function.update crowd.rest i p)).refusals j)
      (Function.update crowd.rest i p j) := by
  by_cases hj : j = i
  · subst hj
    rw [Crowd.steps_advance_self, Crowd.refusals_advance_self, Function.update_self]
    exact hself
  · have hne : some i ≠ some j := fun h => hj (Option.some.inj h).symm
    rw [Crowd.steps_advance_of_ne hne, Crowd.refusals_advance_of_ne hne,
      Function.update_of_ne hj]
    exact hothers j

/-- A call reads the instance, or is refused to write it. -/
theorem quiet_call (h : Touching ns name first current crowd) {i : Fin n} {r : Request}
    {p : Pass TemplatedInstance}
    (hw : (crowd.cluster.served r).writes .templatedInstance ⟨ns, name⟩ = false)
    (hsame : (crowd.cluster.serve r).2 = crowd.cluster) (hold : (crowd.rest i).value? = none)
    (hnew : p.value? = none)
    (hphase : TouchPhase ns name first current (crowd.writes .templatedInstance ⟨ns, name⟩)
      crowd.successes.card (crowd.steps i + 1)
      (crowd.refusals i + if (crowd.cluster.served r).isRefusal then 1 else 0) p) :
    Touching ns name first current
      (crowd.advance (some i) r (Function.update crowd.rest i p)) := by
  refine h.quiet hw (fun _ => Or.inl hsame) (fun j => ?_) (phase_advance hphase h.phase)
  by_cases hj : j = i
  · rw [hj, Function.update_self, hnew, hold]
  · rw [Function.update_of_ne hj]

/-- What calls have returned before is the instance after earlier increments. -/
theorem counter_ne_of_next (h : Touching ns name first current crowd) {new : TemplatedInstance}
    (hnew : counter new = counter first + .ofNat (crowd.successes.card + 1))
    (hrange : crowd.writes .templatedInstance ⟨ns, name⟩ + 1 < 0x10000000000000000) {i : Fin n}
    {updated : TemplatedInstance} (hvalue : (crowd.rest i).value? = some updated) :
    counter updated ≠ counter new := by
  obtain ⟨nth, hnth, hupdated⟩ := (h.phase i).counted hvalue
  have hwrites := h.writes
  intro heq
  rw [hupdated, hnew] at heq
  have hlast : nth = crowd.successes.card + 1 := eq_of_add_ofNat (by omega) (by omega) heq
  omega

/-- A call writes what it has read, and that is still the instance. -/
theorem increment (h : Touching ns name first current crowd) {i : Fin n} {left : Nat}
    (hi : crowd.rest i = touchRead ns name left current)
    (hrange : (crowd.step (.pass i)).writes .templatedInstance ⟨ns, name⟩ < 0x10000000000000000) :
    Touching ns name first (Store.successor current (touched current))
      (crowd.step (.pass i)) := by
  obtain ⟨c', hreplace, hputs⟩ := h.sound.replace_read h.found (touched current) rfl
  have hcounter := counter_successor_touched current
  have hversion := Store.version_successor current (touched current)
  have hread : current.place = ⟨ns, name⟩ := h.sound.place h.found
  have hplace : (Store.successor current (touched current)).place = ⟨ns, name⟩ :=
    (Store.place_successor current (touched current)).trans hread
  have hmodest : (crowd.cluster.served (.update .templatedInstance (touched current))).OnlyTouches
      ns name := by
    refine Or.inr ⟨current, h.found, ?_⟩
    simp only [Cluster.served, Cluster.serve, hreplace]
    exact hputs
  -- From here on, what was written is known by its counter, its version and its place.
  generalize Store.successor current (touched current) = new at *
  have hstep : crowd.step (.pass i) = crowd.advance (some i)
      (.update .templatedInstance (touched current))
      (Function.update crowd.rest i (.done (.ok new))) := by
    rw [Crowd.step_of_ask hi]
    simp only [Cluster.serve, hreplace]
  have hw : (crowd.cluster.served (.update .templatedInstance (touched current))).writes
      .templatedInstance ⟨ns, name⟩ = true := by
    simp [Cluster.served, Cluster.serve, hreplace, Interaction.writes, Interaction.stored?,
      Except.toOption, hplace]
  have hnew : (crowd.cluster.serve (.update .templatedInstance (touched current))).2.find?
      .templatedInstance ⟨ns, name⟩ = some new := by
    simp only [Cluster.serve, hreplace]
    exact hputs.find?_of_place hplace
  have hunfinished : i ∉ crowd.successes := by
    rw [Crowd.mem_successes, hi]
    exact Bool.false_ne_true
  have hcounted : counter new = counter first + .ofNat (crowd.successes.card + 1) := by
    rw [hcounter, h.counted, Int64.ofNat_add, Int64.add_assoc]
    rfl
  have hsuccesses : (crowd.advance (some i) (.update .templatedInstance (touched current))
      (Function.update crowd.rest i (.done (.ok new)))).successes.card = crowd.successes.card + 1 :=
    Crowd.card_successes_advance hunfinished
  rw [hstep, Crowd.writes_advance, hw] at hrange
  rw [hstep]
  refine h.written hw hnew hversion (hsuccesses ▸ hcounted) ?_ (fun _ => hmodest) ?_ ?_
  · rw [hsuccesses, Crowd.writesOfOthers, Crowd.tally_advance_of_ne (Option.some_ne_none i)]
    exact Nat.add_right_comm _ _ _
  · rw [hsuccesses]
    refine phase_advance (.succeeded _ le_rfl hcounted) fun j => ?_
    exact (h.phase j).overtaken new (Nat.le_succ _)
  · intro j k u v hjk hj hk
    rw [Function.update_apply] at hj hk
    split at hj
    · split at hk
      · next hji hki => exact absurd (hji.trans hki.symm) hjk
      · cases hj
        exact (h.counter_ne_of_next hcounted hrange hk).symm
    · split at hk
      · cases hk
        exact h.counter_ne_of_next hcounted hrange hj
      · exact h.distinct hjk hj hk

/-- A call writes what it has read, and the instance has moved on. -/
theorem rejection (h : Touching ns name first current crowd) {i : Fin n} {left : Nat}
    {read : TemplatedInstance} (hi : crowd.rest i = touchRead ns name left read)
    (hplace : read.place = ⟨ns, name⟩) (hversioned : read.version.isSome)
    (hmoved : current.version ≠ read.version)
    (hphase : ∀ e : Error, e.isConflict → TouchPhase ns name first current
      (crowd.writes .templatedInstance ⟨ns, name⟩) crowd.successes.card (crowd.steps i + 1)
      (crowd.refusals i + 1) (touchAgain ns name left e)) :
    Touching ns name first current (crowd.step (.pass i)) := by
  obtain ⟨e, hstale, hconflict⟩ :
      ∃ e, Store.staleness? current (touched read) = some e ∧ e.isConflict :=
    Cluster.exists_conflict_of_version_ne hversioned hmoved
  have hreplace : crowd.cluster.replace (touched read) = (.error e, crowd.cluster) :=
    crowd.cluster.replace_of_stale (hplace.symm ▸ h.found) hstale
  have hanswer : (touchAgain ns name left e).value? = none := by
    cases left with
    | zero => rfl
    | succ left =>
      rw [touchAgain, if_pos hconflict, touchWith_eq]
      rfl
  have hstep : crowd.step (.pass i) = crowd.advance (some i)
      (.update .templatedInstance (touched read))
      (Function.update crowd.rest i (touchAgain ns name left e)) := by
    rw [Crowd.step_of_ask hi]
    simp only [Cluster.serve, hreplace]
  rw [hstep]
  refine h.quiet_call ?_ (congrArg Prod.snd hreplace) (hi ▸ rfl) hanswer ?_
  · simp [Cluster.served, Cluster.serve, hreplace, Interaction.writes, Interaction.stored?,
      Except.toOption]
  · simp only [Cluster.served, Cluster.serve, hreplace, Interaction.isRefusal]
    exact hphase e hconflict

/-- **A call takes its turn.** -/
theorem call (h : Touching ns name first current crowd) (i : Fin n)
    (hrange : (crowd.step (.pass i)).writes .templatedInstance ⟨ns, name⟩ < 0x10000000000000000) :
    ∃ current', Touching ns name first current' (crowd.step (.pass i)) := by
  have hphase := h.phase i
  generalize hrest : crowd.rest i = rest at hphase
  cases hphase with
  | succeeded nth past counted => exact ⟨current, by rwa [Crowd.step_of_done hrest]⟩
  | failed conflict attempts paid => exact ⟨current, by rwa [Crowd.step_of_done hrest]⟩
  | @reading left attempts taken paid =>
    have hplace : current.place = ⟨ns, name⟩ := h.sound.place h.found
    have hvalue : (crowd.rest i).value? = none := by
      rw [hrest, touchWith_eq]
      rfl
    have hreply : (crowd.cluster.serve (.fetch .templatedInstance ns name)).1 =
        .ok (some current) :=
      congrArg Except.ok h.found
    rw [touchWith_eq] at hrest
    rw [Crowd.step_of_ask hrest, hreply]
    refine ⟨current, h.quiet_call rfl rfl hvalue rfl ?_⟩
    exact .writing attempts (congrArg (· + 1) taken) paid le_rfl hplace
      (h.sound.versioned h.found) h.version fun _ => rfl
  | @writing left seen read attempts taken paid past place versioned version present =>
    by_cases hversion : current.version = read.version
    · -- Fewer writes than there are versions: equal versions are the same number of writes.
      have hwrites := crowd.writes_le_step (.pass i) .templatedInstance ⟨ns, name⟩
      have hseen : seen = crowd.writes .templatedInstance ⟨ns, name⟩ := by
        have hnumber := h.version
        rw [hversion, version] at hnumber
        omega
      obtain rfl := present hseen
      exact ⟨_, h.increment hrest hrange⟩
    · have hovertaken : seen ≠ crowd.writes .templatedInstance ⟨ns, name⟩ :=
        fun hseen => hversion (congrArg Object.version (present hseen).symm)
      refine ⟨current, h.rejection hrest place versioned hversion fun e hconflict => ?_⟩
      cases left with
      | zero => exact .failed hconflict attempts (by omega)
      | succ left =>
        rw [touchAgain, if_pos hconflict]
        exact .reading (by omega) (by omega) (by omega)

/-- **One turn.** -/
theorem step (h : Touching ns name first current crowd) (turn : Turn (Fin n))
    (hkeeps : ∀ e ∈ (crowd.step turn).trace, e.1 = none → e.2.KeepsCounter ns name)
    (hrange : (crowd.step turn).writes .templatedInstance ⟨ns, name⟩ < 0x10000000000000000) :
    ∃ current', Touching ns name first current' (crowd.step turn) := by
  cases turn with
  | pass i => exact h.call i hrange
  | other r => exact h.other r (hkeeps _ (Crowd.mem_trace_advance.2 (Or.inr rfl)) rfl)

/-- **Any number of turns.** -/
theorem run (h : Touching ns name first current crowd) (turns : List (Turn (Fin n)))
    (hkeeps : ∀ e ∈ (crowd.run turns).trace, e.1 = none → e.2.KeepsCounter ns name)
    (hrange : (crowd.run turns).writes .templatedInstance ⟨ns, name⟩ < 0x10000000000000000) :
    ∃ current', Touching ns name first current' (crowd.run turns) := by
  -- From the end, since what is assumed of a trace holds of what it starts with.
  induction turns using List.reverseRecOn with
  | nil => exact ⟨current, h⟩
  | append_singleton turns turn ih =>
    rw [Crowd.run_concat] at hkeeps hrange ⊢
    obtain ⟨current', h'⟩ := ih
      (fun e he => hkeeps e (((crowd.run turns).trace_step turn).subset he))
      ((Crowd.writes_le_step _ turn _ _).trans_lt hrange)
    exact h'.step turn hkeeps hrange

end Touching

/-- **Touches lose no increment.** Some calls touch an instance, each step of theirs taken at
any time, while others make requests that leave its counter alone. As long as there are fewer
writes than versions, and the counter stays within its range, it is raised once for each call
that has returned, and these return counters of their own; a step of a call changes nothing but
the counter; a call that failed met a conflict, and that at each of its five attempts; two
turns for each attempt are enough for a call, and if fewer than five calls and writes of
others are in its way, it then has returned. -/
theorem touches_lose_nothing {n : Nat} {c : Cluster} (hc : c.Sound) {ns name : String}
    {first : TemplatedInstance}
    (hfirst : c.find? .templatedInstance ⟨ns, name⟩ = some first) (turns : List (Turn (Fin n))) :
    let crowd := (Crowd.start c fun _ => touch ns name).run turns
    (∀ e ∈ crowd.trace, e.1 = none → e.2.KeepsCounter ns name) →
    crowd.writes .templatedInstance ⟨ns, name⟩ < 0x10000000000000000 →
    (counter first).toInt + crowd.successes.card < 2 ^ 63 →
    (∃ last : TemplatedInstance,
      crowd.cluster.find? .templatedInstance ⟨ns, name⟩ = some last ∧
        (counter last).toInt = (counter first).toInt + crowd.successes.card) ∧
    (∀ i j u v, i ≠ j → crowd.rest i = .done (.ok u) → crowd.rest j = .done (.ok v) →
      counter u ≠ counter v) ∧
    (∀ e ∈ crowd.trace, e.1.isSome → e.2.OnlyTouches ns name) ∧
    (∀ i e, crowd.rest i = .done (.error e) → e.isConflict ∧ crowd.refusals i = 5) ∧
    (∀ i, 10 ≤ turns.countP (Turn.isOf i) → ∃ result, crowd.rest i = .done result) ∧
    (n - 1 + crowd.writesOfOthers .templatedInstance ⟨ns, name⟩ ≤ 4 →
      ∀ i, 10 ≤ turns.countP (Turn.isOf i) → ∃ u, crowd.rest i = .done (.ok u)) := by
  intro crowd hkeeps hrange hcounter
  obtain ⟨last, h⟩ : ∃ last, Touching ns name first last crowd :=
    (Touching.start hc hfirst).run turns hkeeps hrange
  have hover : ∀ i, 10 ≤ turns.countP (Turn.isOf i) → ∃ result, crowd.rest i = .done result := by
    intro i hturns
    rcases Crowd.isOver_or_steps_eq c (fun _ => touch ns name) turns i with hdone | hsteps
    · exact hdone
    · exact (h.phase i).done_of_steps (hsteps ▸ hturns)
  refine ⟨⟨last, h.found, ?_⟩, ?_, h.modest, ?_, hover, ?_⟩
  · rw [h.counted]
    exact toInt_add_ofNat hcounter
  · intro i j u v hij hi hj
    exact h.distinct hij (congrArg Pass.value? hi) (congrArg Pass.value? hj)
  · intro i e hi
    obtain ⟨hconflict, hrefusals, -⟩ := (h.phase i).refused hi
    exact ⟨hconflict, hrefusals⟩
  · intro hfew i hturns
    obtain ⟨e | u, hi⟩ := hover i hturns
    · -- Five refusals are paid for by five writes, none of which is the call's own.
      obtain ⟨-, hrefusals, hpaid⟩ := (h.phase i).refused hi
      have hunfinished : i ∉ crowd.successes := by
        rw [Crowd.mem_successes, hi]
        exact Bool.false_ne_true
      have hcard := Finset.card_lt_univ_of_notMem hunfinished
      have hwrites := h.writes
      have hattempts : maxTouchAttempts = 5 := rfl
      rw [Fintype.card_fin] at hcard
      omega
    · exact ⟨u, hi⟩

/-- Two calls read the instance, the first one writes it, somebody else writes its status, and
the second one is refused once. -/
theorem touches_lose_nothing_overtaken :
    let inst : TemplatedInstance :=
      { metadata := {
          name := some "db", ns := some "default", uid := some "u-1", resourceVersion := some "1" }
        spec := { updateRequests := 7 } }
    let synced : TemplatedInstance :=
      { metadata := { name := some "db", ns := some "default" }
        spec := { updateRequests := 8 }
        status := some { synced := true } }
    let turns : List (Turn (Fin 2)) :=
      [.pass 0, .pass 1, .pass 0, .other (.updateStatus .templatedInstance synced)] ++
        List.replicate 10 (.pass 0) ++ List.replicate 10 (.pass 1)
    let crowd := (Crowd.start (Cluster.empty.insert inst).2 fun _ => touch "default" "db").run turns
    crowd.refusals 1 = 1 ∧
      (∃ last : TemplatedInstance,
        crowd.cluster.find? .templatedInstance ⟨"default", "db"⟩ = some last ∧
          (counter last).toInt = 9) ∧
      ∀ i, ∃ u, crowd.rest i = .done (.ok u) := by
  intro inst synced turns crowd
  have hinst : (Cluster.empty.insert inst).2.find? .templatedInstance ⟨"default", "db"⟩ =
      some inst :=
    (Cluster.empty.puts_insert inst).find?_of_place rfl
  have hcard : crowd.successes.card = 2 := by decide +kernel
  have hkeeps : ∀ e ∈ crowd.trace, e.1 = none →
      (e.2.after.find? .templatedInstance ⟨"default", "db"⟩).map counter =
        (e.2.before.find? .templatedInstance ⟨"default", "db"⟩).map counter := by decide +kernel
  obtain ⟨⟨last, hlast, hcounter⟩, -, -, -, -, hreturned⟩ :=
    touches_lose_nothing (Cluster.sound_empty.insert inst) hinst turns hkeeps
      (by decide +kernel) (by decide +kernel)
  refine ⟨by decide +kernel, ⟨last, hlast, ?_⟩, fun i => hreturned (by decide +kernel) i ?_⟩
  · exact hcounter.trans (by rw [hcard]; rfl)
  · revert i
    decide +kernel

end ServiceTemplates
