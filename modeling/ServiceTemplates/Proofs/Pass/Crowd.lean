import Mathlib.Data.Fintype.Card
import Mathlib.Data.List.Induction
import ServiceTemplates.Proofs.Pass.Lagging

/-!
# Many passes on one cluster

Any number of passes take turns on one cluster with each other and with somebody else, who
makes one request at a time. Every step is kept with the pass that took it, so that writes and
refusals can be counted. Main statements: `Cluster.find?_serve_of_writes`, by which a write
that is counted moves the version of what it writes on by one, and
`Crowd.isOver_or_steps_eq`, by which a pass makes a step at each of its turns until it is over.
-/

namespace ServiceTemplates

/-! ## Writes that were accepted -/

namespace Interaction

/-- The object that an accepted write left behind. -/
def stored? : Interaction → Option AnyObject
  | ⟨.create k _, reply⟩ => (show Except Error (Object k) from reply).toOption.map (Sigma.mk k)
  | ⟨.update k _, reply⟩ => (show Except Error (Object k) from reply).toOption.map (Sigma.mk k)
  | ⟨.updateStatus k _, reply⟩ =>
    (show Except Error (Object k) from reply).toOption.map (Sigma.mk k)
  | _ => none

def writes (k : Kind) (key : ObjectKey) (i : Interaction) : Bool :=
  i.stored?.any fun o => o.1 = k ∧ o.2.place = key

def isRefusal : Interaction → Bool
  | ⟨.update _ _, .error _⟩ => true
  | _ => false

end Interaction

namespace Cluster

variable {c : Cluster} {r : Request} {k : Kind} {key : ObjectKey}

/-- The step in which a cluster answers a request. -/
def served (c : Cluster) (r : Request) : Step := ⟨⟨r, (c.serve r).1⟩, c, (c.serve r).2⟩

/-- `c'` is `c` with `stored` put into place, where it has the version after that of what
stood there. -/
structure Succeeds (c : Cluster) (stored : Object k) (c' : Cluster) : Prop where
  puts : c.Puts stored c'
  version : ∀ current, c.find? k stored.place = some current →
    stored.version = some (nextVersion current.version)

/-- A creation that is accepted meets no earlier version. -/
theorem create_succeeds (c : Cluster) (obj : Object k) :
    (∃ e, c.create obj = (.error e, c)) ∨ ∃ o c', c.create obj = (.ok o, c') ∧ c.Succeeds o c' := by
  rcases c.create_cases obj with ⟨-, hrefused⟩ | ⟨hnone, c', hdone, hputs⟩
  · exact Or.inl ⟨_, hrefused⟩
  · refine Or.inr ⟨_, c', hdone, hputs, fun current hcurrent => ?_⟩
    rw [Store.place_stamp, hnone] at hcurrent
    cases hcurrent

/-- A replacement that is accepted has the version after that of what it replaces. -/
theorem replace_succeeds (c : Cluster) (obj : Object k) :
    (∃ e, c.replace obj = (.error e, c)) ∨
      ∃ o c', c.replace obj = (.ok o, c') ∧ c.Succeeds o c' := by
  rcases c.replace_cases obj with hrefused | ⟨found, hfound, -, c', hdone, hputs⟩
  · exact Or.inl hrefused
  · refine Or.inr ⟨_, c', hdone, hputs, fun current hcurrent => ?_⟩
    rw [Store.place_successor, hfound] at hcurrent
    cases hcurrent
    rfl

/-- A request leaves the cluster as it is or puts one object into place. -/
theorem served_cases (c : Cluster) (r : Request) :
    ((c.served r).stored? = none ∧ (c.serve r).2 = c) ∨
      ∃ (k : Kind) (o : Object k), (c.served r).stored? = some ⟨k, o⟩ ∧
        c.Succeeds o (c.serve r).2 := by
  -- The three writes differ only in which of the two lemmas above they fall under.
  have hwrite : ∀ {k : Kind} {answer : Except Error (Object k) × Cluster},
      ((∃ e, answer = (.error e, c)) ∨ ∃ o c', answer = (.ok o, c') ∧ c.Succeeds o c') →
      (answer.1.toOption.map (Sigma.mk k) = none ∧ answer.2 = c) ∨
        ∃ (k' : Kind) (o : Object k'), answer.1.toOption.map (Sigma.mk k) = some ⟨k', o⟩ ∧
          c.Succeeds o answer.2 := by
    rintro k _ (⟨e, rfl⟩ | ⟨o, c', rfl, h⟩)
    · exact Or.inl ⟨rfl, rfl⟩
    · exact Or.inr ⟨k, o, rfl, h⟩
  cases r with
  | create k obj => exact hwrite (c.create_succeeds obj)
  | update k obj => exact hwrite (c.replace_succeeds obj)
  | updateStatus k obj => exact hwrite (c.replace_succeeds obj)
  | _ => exact Or.inl ⟨rfl, rfl⟩

/-- What a request does not write stays as it is. -/
theorem find?_serve_of_not_writes (h : (c.served r).writes k key = false) :
    (c.serve r).2.find? k key = c.find? k key := by
  rcases c.served_cases r with ⟨-, hsame⟩ | ⟨k', o, hstored, hputs⟩
  · rw [hsame]
  · refine hputs.puts.find?_of_ne ?_
    rintro rfl rfl
    simp [Interaction.writes, hstored] at h

/-- **A write that is counted moves the version of what it writes on by one.** -/
theorem find?_serve_of_writes {current : Object k} (hcurrent : c.find? k key = some current)
    (h : (c.served r).writes k key = true) :
    ∃ o, (c.serve r).2.find? k key = some o ∧ o.version = some (nextVersion current.version) := by
  rcases c.served_cases r with ⟨hnone, -⟩ | ⟨k', o, hstored, hputs⟩
  · simp [Interaction.writes, hnone] at h
  · obtain ⟨rfl, rfl⟩ : k' = k ∧ o.place = key := by
      simpa [Interaction.writes, hstored] using h
    exact ⟨o, hputs.puts.find?_of_place rfl, hputs.version current hcurrent⟩

end Cluster

/-! ## Crowds -/

/-- The result of a pass that has ended with one. -/
def Pass.value? {α : Type} : Pass α → Option α
  | .done (.ok a) => some a
  | _ => none

/-- Whose turn it is. -/
inductive Turn (ι : Type) where
  | pass (i : ι)
  /-- Somebody else makes a request. -/
  | other (r : Request)

/-- Many passes on one cluster. -/
structure Crowd (ι α : Type) where
  cluster : Cluster
  rest : ι → Pass α
  /-- The steps so far, each with the pass that took it, or with none. -/
  trace : List (Option ι × Step) := []

variable {ι α : Type}

def Turn.isOf [DecidableEq ι] (i : ι) : Turn ι → Bool
  | .pass j => j = i
  | .other _ => false

namespace Crowd

def start (c : Cluster) (passes : ι → Pass α) : Crowd ι α := ⟨c, passes, []⟩

/-- A request is answered; `rest` is what is left of the passes then. -/
def advance (crowd : Crowd ι α) (who : Option ι) (r : Request) (rest : ι → Pass α) :
    Crowd ι α where
  cluster := (crowd.cluster.serve r).2
  rest := rest
  trace := crowd.trace ++ [(who, crowd.cluster.served r)]

def writes (crowd : Crowd ι α) (k : Kind) (key : ObjectKey) : Nat :=
  crowd.trace.countP fun e => e.2.writes k key

/-- The passes that have ended with a result. -/
def successes [Fintype ι] (crowd : Crowd ι α) : Finset ι :=
  Finset.univ.filter fun i => (crowd.rest i).value?.isSome

section Advance

variable {crowd : Crowd ι α} {who : Option ι} {i : ι} {r : Request} {rest : ι → Pass α}

@[simp] theorem rest_advance : (crowd.advance who r rest).rest = rest := rfl

/-- A turn adds one step to the trace. -/
theorem mem_trace_advance {e : Option ι × Step} :
    e ∈ (crowd.advance who r rest).trace ↔
      e ∈ crowd.trace ∨ e = (who, crowd.cluster.served r) := by
  simp [advance]

/-- That step counts as a write of at most one object. -/
theorem writes_advance {k : Kind} {key : ObjectKey} :
    (crowd.advance who r rest).writes k key = crowd.writes k key +
      if (crowd.cluster.served r).writes k key then 1 else 0 := by
  simp [writes, advance, List.countP_append, List.countP_singleton]

variable [Fintype ι]

theorem mem_successes : i ∈ crowd.successes ↔ (crowd.rest i).value?.isSome := by
  simp [successes]

/-- Whether passes have ended with a result is all that counts. -/
theorem successes_congr {crowd' : Crowd ι α}
    (h : ∀ i, (crowd'.rest i).value?.isSome = (crowd.rest i).value?.isSome) :
    crowd'.successes = crowd.successes := by
  ext i
  rw [mem_successes, mem_successes, h i]

variable [DecidableEq ι]

/-- A pass that ends with a result is one more success. -/
theorem card_successes_advance {a : α} (hi : i ∉ crowd.successes) :
    (crowd.advance who r (Function.update crowd.rest i (.done (.ok a)))).successes.card =
      crowd.successes.card + 1 := by
  rw [← Finset.card_insert_of_notMem hi]
  congr 1
  ext j
  rw [mem_successes, Finset.mem_insert, mem_successes, rest_advance, Function.update_apply]
  -- Only the pass at `i` has changed.
  split
  · next hj => simp [hj, Pass.value?]
  · next hj => simp [hj]

end Advance

/-! ## Turns -/

variable [DecidableEq ι]

/-- One turn; a pass that is over lets it go by. -/
def step (crowd : Crowd ι α) : Turn ι → Crowd ι α
  | .pass i =>
    match crowd.rest i with
    | .done _ => crowd
    | .ask r next =>
      crowd.advance (some i) r (Function.update crowd.rest i (next (crowd.cluster.serve r).1))
  | .other r => crowd.advance none r crowd.rest

def run (crowd : Crowd ι α) (turns : List (Turn ι)) : Crowd ι α := turns.foldl step crowd

/-- How many steps of a pass, or of somebody else, are of a certain sort. -/
def tally (crowd : Crowd ι α) (who : Option ι) (p : Step → Bool) : Nat :=
  crowd.trace.countP fun e => e.1 = who ∧ p e.2

def steps (crowd : Crowd ι α) (i : ι) : Nat := crowd.tally (some i) fun _ => true

def refusals (crowd : Crowd ι α) (i : ι) : Nat := crowd.tally (some i) (·.isRefusal)

def writesOfOthers (crowd : Crowd ι α) (k : Kind) (key : ObjectKey) : Nat :=
  crowd.tally none (·.writes k key)

section Step

variable {crowd : Crowd ι α} {who : Option ι} {i : ι} {r : Request} {rest : ι → Pass α}

/-- A pass that is over lets its turn go by. -/
theorem step_of_done {result : Except Error α} (h : crowd.rest i = .done result) :
    crowd.step (.pass i) = crowd := by
  rw [step, h]

/-- Any other pass makes its next request, to which the cluster replies at once. -/
theorem step_of_ask {next : r.Reply → Pass α} (h : crowd.rest i = .ask r next) :
    crowd.step (.pass i) = crowd.advance (some i) r
      (Function.update crowd.rest i (next (crowd.cluster.serve r).1)) := by
  rw [step, h]

/-- What has happened stays on record. -/
theorem trace_step (crowd : Crowd ι α) (turn : Turn ι) :
    crowd.trace <+: (crowd.step turn).trace := by
  cases turn with
  | other r => exact List.prefix_append _ _
  | pass i =>
    cases h : crowd.rest i with
    | done result => rw [step_of_done h]
    | ask r next =>
      rw [step_of_ask h]
      exact List.prefix_append _ _

theorem writes_le_step (crowd : Crowd ι α) (turn : Turn ι) (k : Kind) (key : ObjectKey) :
    crowd.writes k key ≤ (crowd.step turn).writes k key :=
  (trace_step crowd turn).sublist.countP_le

/-- Steps are counted for whoever took them. -/
theorem tally_advance (who' : Option ι) (p : Step → Bool) :
    (crowd.advance who r rest).tally who' p = crowd.tally who' p +
      if who = who' ∧ p (crowd.cluster.served r) then 1 else 0 := by
  simp [tally, advance, List.countP_append, List.countP_singleton]

theorem tally_advance_of_ne {who' : Option ι} (h : who ≠ who') (p : Step → Bool) :
    (crowd.advance who r rest).tally who' p = crowd.tally who' p := by
  simp [tally_advance, h]

theorem steps_advance_self : (crowd.advance (some i) r rest).steps i = crowd.steps i + 1 := by
  simp [steps, tally_advance]

theorem steps_advance_of_ne (h : who ≠ some i) :
    (crowd.advance who r rest).steps i = crowd.steps i :=
  tally_advance_of_ne h _

/-- A refusal counts for the pass whose replacement was refused. -/
theorem refusals_advance_self : (crowd.advance (some i) r rest).refusals i =
    crowd.refusals i + if (crowd.cluster.served r).isRefusal then 1 else 0 := by
  simp [refusals, tally_advance]

theorem refusals_advance_of_ne (h : who ≠ some i) :
    (crowd.advance who r rest).refusals i = crowd.refusals i :=
  tally_advance_of_ne h _

end Step

theorem run_concat (crowd : Crowd ι α) (turns : List (Turn ι)) (turn : Turn ι) :
    crowd.run (turns ++ [turn]) = (crowd.run turns).step turn := by
  simp [run]

/-- **A pass makes a step at each of its turns until it is over.** -/
theorem isOver_or_steps_eq (c : Cluster) (passes : ι → Pass α) (turns : List (Turn ι)) (i : ι) :
    let crowd := (start c passes).run turns
    (∃ result, crowd.rest i = .done result) ∨ crowd.steps i = turns.countP (Turn.isOf i) := by
  induction turns using List.reverseRecOn with
  | nil => exact Or.inr rfl
  | append_singleton turns turn ih =>
    rw [run_concat, List.countP_append, List.countP_singleton]
    -- The number of its turns grows with every turn of the pass `i` and with no other.
    generalize (start c passes).run turns = crowd at ih ⊢
    cases turn with
    | other r =>
      refine ih.imp_right fun h => ?_
      rw [step, steps_advance_of_ne (by simp), h]
      rfl
    | pass j =>
      cases hj : crowd.rest j with
      | done result =>
        rw [step_of_done hj]
        by_cases hji : j = i
        · exact Or.inl ⟨result, hji ▸ hj⟩
        · simpa [Turn.isOf, hji] using ih
      | ask r next =>
        rw [step_of_ask hj]
        by_cases hji : j = i
        · subst hji
          have hsteps : crowd.steps j = turns.countP (Turn.isOf j) :=
            ih.resolve_left fun ⟨result, h⟩ => by simp [hj] at h
          refine Or.inr ?_
          simp [steps_advance_self, Turn.isOf, hsteps]
        · rcases ih with ⟨result, h⟩ | h
          · refine Or.inl ⟨result, ?_⟩
            rw [rest_advance, Function.update_of_ne (Ne.symm hji), h]
          · refine Or.inr ?_
            rw [steps_advance_of_ne (by simpa using hji)]
            simpa [Turn.isOf, hji] using h

end Crowd

end ServiceTemplates
