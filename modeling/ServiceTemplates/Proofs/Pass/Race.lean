import ServiceTemplates.Proofs.Pass.Interaction

/-!
# Two passes on one cluster

Two passes take turns on one cluster, in any order, one request at a time. What a pass
reads from stores that nobody writes to is settled in the beginning, so between two
requests that matter it can be treated as if it had read all that already. Main
statements: `Racer.step_cases` and `Race.run_induction`.
-/

namespace ServiceTemplates

/-- A pass on its way, and what it has said. -/
structure Racer (α : Type) where
  rest : Pass α
  said : List Interaction := []

/-- Two passes on one cluster. -/
structure Race (α : Type) where
  cluster : Cluster
  racer : Bool → Racer α

variable {α β : Type}

instance Pass.decidableIsDone : (p : Pass α) → Decidable (∃ result, p = .done result)
  | .done result => .isTrue ⟨result, rfl⟩
  | .ask _ _ => .isFalse fun ⟨_, h⟩ => nomatch h

/-- The next request of a pass, if it is not over. -/
def Racer.step (x : Racer α) (c : Cluster) : Racer α × Cluster :=
  match x.rest with
  | .done _ => (x, c)
  | .ask r next => (⟨next (c.serve r).1, x.said ++ [⟨r, (c.serve r).1⟩]⟩, (c.serve r).2)

namespace Race

def start (c : Cluster) (passes : Bool → Pass α) : Race α := ⟨c, fun b => ⟨passes b, []⟩⟩

def step (race : Race α) (b : Bool) : Race α where
  cluster := ((race.racer b).step race.cluster).2
  racer b' := if b' = b then ((race.racer b).step race.cluster).1 else race.racer b'

def run (race : Race α) (turns : List Bool) : Race α := turns.foldl step race

def IsOver (race : Race α) : Prop := ∀ b, ∃ result, (race.racer b).rest = .done result

instance (race : Race α) : Decidable race.IsOver :=
  inferInstanceAs (Decidable (∀ b, ∃ result, (race.racer b).rest = .done result))

def creations (race : Race α) (k : Kind) : Nat :=
  ServiceTemplates.creations k (race.racer true).said +
    ServiceTemplates.creations k (race.racer false).said

/-- What each turn keeps is kept. -/
theorem run_induction {P : Race α → Prop} (hstep : ∀ race b, P race → P (race.step b))
    {race : Race α} (h : P race) (turns : List Bool) : P (race.run turns) := by
  induction turns generalizing race with
  | nil => exact h
  | cons b turns ih => exact ih (hstep race b h)

/-- Whose turn it is makes a step on the cluster as it stands. -/
theorem racer_step_self (race : Race α) (b : Bool) :
    (race.step b).racer b = ((race.racer b).step race.cluster).1 := if_pos rfl

theorem racer_step_of_ne (race : Race α) {b b' : Bool} (h : b' ≠ b) :
    (race.step b).racer b' = race.racer b' := if_neg h

theorem racer_step_not (race : Race α) (b : Bool) : (race.step b).racer (!b) = race.racer (!b) :=
  race.racer_step_of_ne (by simp)

/-- What is created is created by one of the two. -/
theorem creations_eq (race : Race α) (k : Kind) (b : Bool) : race.creations k =
    ServiceTemplates.creations k (race.racer b).said +
      ServiceTemplates.creations k (race.racer (!b)).said := by
  cases b
  · exact Nat.add_comm _ _
  · rfl

end Race

/-! ## What was read already -/

namespace Pass

variable {K : Kind → Prop} {c : Cluster}

/-- Reading nothing but objects of some kinds from `c`, a pass comes to another one. -/
inductive ReadsTo (K : Kind → Prop) (c : Cluster) : Pass α → Pass α → Prop
  | here (p : Pass α) : ReadsTo K c p p
  | later {r : Request} {next : r.Reply → Pass α} {q : Pass α} (hr : r.ReadsOnly K)
      (h : ReadsTo K c (next (c.serve r).1) q) : ReadsTo K c (ask r next) q

/-- What is read from the cluster is what the rest goes on with. -/
theorem ReadsTo.bind_ok {p : Pass α} (hp : p.ReadsOnly K) {a : α}
    (ha : (p.run Cluster.serve c).1 = .ok a) (f : α → Pass β) : ReadsTo K c (p >>= f) (f a) := by
  induction hp with
  | done result =>
    obtain rfl : result = .ok a := ha
    exact .here (f a)
  | @ask r next hr _ ih =>
    rw [run_ask, hr.serve_snd] at ha
    exact .later hr (ih _ ha)

theorem ReadsTo.bind_count (counter : Counter) (f : Unit → Pass β) :
    ReadsTo K c (Pass.count counter >>= f) (f ()) :=
  .later trivial (.here (f ()))

end Pass

namespace Racer

variable {x : Racer α} {c c₀ : Cluster} {q : Pass α} {K : Kind → Prop}

theorem step_of_ask {r : Request} {next : r.Reply → Pass α} (h : x.rest = .ask r next) :
    x.step c = (⟨next (c.serve r).1, x.said ++ [⟨r, (c.serve r).1⟩]⟩, (c.serve r).2) := by
  rw [step, h]

theorem step_of_done {result : Except Error α} (h : x.rest = .done result) : x.step c = (x, c) := by
  rw [step, h]

/-- A pass reads on towards `q`, or is there. -/
theorem step_cases (h : x.rest.ReadsTo K c₀ q) (hsame : ∀ k, K k → c.store k = c₀.store k) :
    (∃ rest, ∃ i : Interaction, i.request.ReadsOnly K ∧ Pass.ReadsTo K c₀ rest q ∧
      x.step c = (⟨rest, x.said ++ [i]⟩, c)) ∨ x.rest = q := by
  obtain ⟨rest, said⟩ := x
  cases h with
  | here => exact Or.inr rfl
  | @later r next _ hr h =>
    have hreply : (c.serve r).1 = (c₀.serve r).1 := hr.serve_congr hsame
    refine Or.inl ⟨next (c.serve r).1, ⟨r, (c.serve r).1⟩, hr, hreply ▸ h, ?_⟩
    rw [step_of_ask rfl, hr.serve_snd]

end Racer

end ServiceTemplates
