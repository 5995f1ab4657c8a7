import ServiceTemplates.Proofs.Pass.Serve

/-!
# Passes whose writes fail

A cluster on which a write may be refused for no reason of its own, or be done while its
reply is lost. If nothing more is written after a refusal, a pass that was hit stops at
one of the clusters that the undisturbed pass goes through. So it is enough to look at
those: where the pass can be resumed from each of them, any number of disturbed attempts
is made up for by one that is not disturbed. Main statements: `Pass.EndsOnRefusal.visits`
and `Pass.resumes_after_attempts`.
-/

namespace ServiceTemplates

/-- What becomes of a write. -/
inductive Fate where
  /-- It is answered as usual. -/
  | answered
  /-- It is refused and has no effect. -/
  | refused (cause : Error)
  /-- It is done as usual, but a failure is reported. -/
  | lost (cause : Error)
deriving Inhabited

/-- Reply and cluster after a write, given what the write would do to the cluster. -/
def Fate.apply {k : Kind} (fate : Fate) (c : Cluster) (done : Except Error (Object k) × Cluster) :
    Except Error (Object k) × Cluster :=
  match fate with
  | answered => done
  | refused cause => (.error cause, c)
  | lost cause => (.error cause, done.2)

/-- Answers everything from a cluster, one write after the other as the fates say; when
they are used up, every write is answered as usual. -/
def Cluster.serveUnreliably : Answerer (Cluster × List Fate)
  | .create _ obj, (c, fate :: rest) =>
    let (reply, c) := fate.apply c (c.create obj)
    (reply, c, rest)
  | .update _ obj, (c, fate :: rest) =>
    let (reply, c) := fate.apply c (c.replace obj)
    (reply, c, rest)
  | .updateStatus _ obj, (c, fate :: rest) =>
    let (reply, c) := fate.apply c (c.replace obj)
    (reply, c, rest)
  | r, (c, fates) =>
    let (reply, c) := c.serve r
    (reply, c, fates)

/-- The reply that refuses a write. -/
def Request.refusal? : (r : Request) → Error → Option r.Reply
  | .create _ _, e => some (.error e)
  | .update _ _, e => some (.error e)
  | .updateStatus _ _, e => some (.error e)
  | _, _ => none

/-- A request is answered as usual, or it is a write that is refused, with or without
having been done. -/
theorem Cluster.serveUnreliably_cases (r : Request) (c : Cluster) (fates : List Fate) :
    (∃ rest, serveUnreliably r (c, fates) = ((c.serve r).1, (c.serve r).2, rest)) ∨
    ∃ reply c' rest e, serveUnreliably r (c, fates) = (reply, c', rest) ∧
      r.refusal? e = some reply ∧ (c' = c ∨ c' = (c.serve r).2) := by
  cases fates with
  | nil => exact Or.inl ⟨[], by cases r <;> rfl⟩
  | cons fate rest =>
    cases r with
    | create k obj =>
      cases fate with
      | answered => exact Or.inl ⟨rest, rfl⟩
      | refused e => exact Or.inr ⟨_, _, _, e, rfl, rfl, Or.inl rfl⟩
      | lost e => exact Or.inr ⟨_, _, _, e, rfl, rfl, Or.inr rfl⟩
    | update k obj =>
      cases fate with
      | answered => exact Or.inl ⟨rest, rfl⟩
      | refused e => exact Or.inr ⟨_, _, _, e, rfl, rfl, Or.inl rfl⟩
      | lost e => exact Or.inr ⟨_, _, _, e, rfl, rfl, Or.inr rfl⟩
    | updateStatus k obj =>
      cases fate with
      | answered => exact Or.inl ⟨rest, rfl⟩
      | refused e => exact Or.inr ⟨_, _, _, e, rfl, rfl, Or.inl rfl⟩
      | lost e => exact Or.inr ⟨_, _, _, e, rfl, rfl, Or.inr rfl⟩
    | _ => exact Or.inl ⟨fate :: rest, rfl⟩

namespace Pass

variable {α β : Type}

/-! ## Where a disturbed pass stops -/

/-- The clusters that a pass goes through. -/
inductive Visits : Pass α → Cluster → Cluster → Prop
  | here (p : Pass α) (c : Cluster) : Visits p c c
  | later {r : Request} {next : r.Reply → Pass α} {c c' : Cluster}
      (h : Visits (next (c.serve r).1) (c.serve r).2 c') : Visits (ask r next) c c'

/-- A pass that is over as soon as a write is refused, with an end that satisfies `Q`. -/
inductive EndsOnRefusal (Q : Except Error α → Prop) : Pass α → Prop
  | done (result : Except Error α) : EndsOnRefusal Q (done result)
  | ask {r : Request} {next : r.Reply → Pass α}
      (refused : ∀ e reply, r.refusal? e = some reply → ∃ result, next reply = .done result ∧ Q result)
      (later : ∀ reply, EndsOnRefusal Q (next reply)) : EndsOnRefusal Q (ask r next)

namespace EndsOnRefusal

variable {Q : Except Error α → Prop}

/-- A pass that fails on a refusal can be followed by any other. -/
theorem bind {Q : Except Error β → Prop} {p : Pass α}
    (hp : p.EndsOnRefusal fun result => ∃ e, result = .error e) {f : α → Pass β}
    (hf : ∀ a, (f a).EndsOnRefusal Q) (hQ : ∀ e, Q (.error e)) : (p >>= f).EndsOnRefusal Q := by
  induction hp with
  | done result =>
    cases result with
    | ok a => exact hf a
    | error e => exact .done _
  | @ask r next refused _ ih =>
    refine .ask (fun e reply hreply => ?_) ih
    obtain ⟨result, hnext, e', rfl⟩ := refused e reply hreply
    exact ⟨.error e', by simp [Pass.bind, hnext], hQ e'⟩

/-- What is made of the result does not matter to where a pass ends. -/
theorem map {p : Pass α} (hp : p.EndsOnRefusal fun _ => True) (f : α → β) :
    (f <$> p).EndsOnRefusal fun _ => True := by
  show (p.bind fun a => .done (.ok (f a))).EndsOnRefusal _
  induction hp with
  | done result => cases result <;> exact .done _
  | @ask r next refused _ ih =>
    refine .ask (fun e reply hreply => ?_) ih
    obtain ⟨result, hnext, -⟩ := refused e reply hreply
    cases result with
    | ok a => exact ⟨.ok (f a), by simp [Pass.bind, hnext], trivial⟩
    | error e' => exact ⟨.error e', by simp [Pass.bind, hnext], trivial⟩

/-- A pass that writes nothing is refused nothing. -/
theorem of_readsOnly {K : Kind → Prop} {p : Pass α} (hp : p.ReadsOnly K) : p.EndsOnRefusal Q := by
  induction hp with
  | done result => exact .done result
  | @ask r next here _ ih =>
    refine .ask (fun e reply hreply => ?_) ih
    cases r <;> first | exact here.elim | cases hreply

theorem create {k : Kind} (obj : Object k) :
    (Pass.create obj).EndsOnRefusal fun result => ∃ e, result = .error e :=
  .ask (by rintro e reply ⟨⟩; exact ⟨_, rfl, e, rfl⟩) fun _ => .done _

theorem update {k : Kind} (obj : Object k) :
    (Pass.update obj).EndsOnRefusal fun result => ∃ e, result = .error e :=
  .ask (by rintro e reply ⟨⟩; exact ⟨_, rfl, e, rfl⟩) fun _ => .done _

/-- A disturbed pass stops at a cluster that the undisturbed one goes through. -/
theorem visits {p : Pass α} (hp : p.EndsOnRefusal Q) (c : Cluster) (fates : List Fate) :
    Visits p c (p.run Cluster.serveUnreliably (c, fates)).2.1 := by
  induction hp generalizing c fates with
  | done result => exact .here _ c
  | @ask r next refused _ ih =>
    rw [run_ask]
    rcases c.serveUnreliably_cases r fates with ⟨rest, h⟩ | ⟨reply, c', rest, e, h, hreply, hc'⟩
    · rw [h]
      exact .later (ih _ _ _)
    · -- The pass is over, and the write was not done or was the last one to be done.
      obtain ⟨result, hnext, -⟩ := refused e reply hreply
      rw [h, hnext]
      rcases hc' with rfl | rfl
      · exact .here _ _
      · exact .later (.here _ _)

end EndsOnRefusal

/-! ## Starting again -/

section Resumable

variable {V : Type} (P : String → Pass α) (Inv : Cluster → Prop)
  (view : Except Error α × Cluster → V)

/-- Wherever `p` is interrupted on its way from `c`, the passes `P` started from there come
to the end that `p` would have come to, as far as `view` shows it. -/
def Resumable (p : Pass α) (c : Cluster) : Prop :=
  ∀ c', Visits p c c' →
    Inv c' ∧ ∀ time, view ((P time).run Cluster.serve c') = view (p.run Cluster.serve c)

variable {P Inv view} {K : Kind → Prop} {c : Cluster}

/-- A pass that is over can be taken up if starting again comes to the same. -/
theorem resumable_done {result : Except Error α} (hc : Inv c)
    (h : ∀ time, view ((P time).run Cluster.serve c) = view (result, c)) :
    Resumable P Inv view (done result) c := by
  rintro c' ⟨⟩
  exact ⟨hc, h⟩

/-- To be resumable across a request, a pass has to be so before it and after it. -/
theorem resumable_ask {r : Request} {next : r.Reply → Pass α} (hc : Inv c)
    (h : ∀ time, view ((P time).run Cluster.serve c) = view ((ask r next).run Cluster.serve c))
    (hnext : Resumable P Inv view (next (c.serve r).1) (c.serve r).2) :
    Resumable P Inv view (ask r next) c := by
  intro c' hvisits
  cases hvisits with
  | here => exact ⟨hc, h⟩
  | later hlater => exact hnext c' hlater

/-- A pass that is about to write can be taken up before it, and after it by assumption. -/
theorem resumable_attempt_bind {r : Request} {g : r.Reply → Except Error β} {reply : r.Reply}
    {b : β} {c' : Cluster} {f : β → Pass α} (hserve : c.serve r = (reply, c'))
    (hb : g reply = .ok b) (hc : Inv c)
    (h : ∀ time, view ((P time).run Cluster.serve c) =
      view ((Pass.attempt r g >>= f).run Cluster.serve c))
    (hnext : Resumable P Inv view (f b) c') :
    Resumable P Inv view (Pass.attempt r g >>= f) c := by
  refine resumable_ask hc h ?_
  rw [hserve]
  show Resumable P Inv view ((Pass.done (g reply)).bind f) c'
  rw [hb]
  exact hnext

theorem resumable_create_bind {k : Kind} {obj stored : Object k} {c' : Cluster}
    {f : Object k → Pass α} (hwrite : c.create obj = (.ok stored, c')) (hc : Inv c)
    (h : ∀ time, view ((P time).run Cluster.serve c) =
      view ((Pass.create obj >>= f).run Cluster.serve c))
    (hnext : Resumable P Inv view (f stored) c') :
    Resumable P Inv view (Pass.create obj >>= f) c :=
  resumable_attempt_bind (r := .create k obj) hwrite rfl hc h hnext

theorem resumable_update_bind {k : Kind} {obj stored : Object k} {c' : Cluster}
    {f : Object k → Pass α} (hwrite : c.replace obj = (.ok stored, c')) (hc : Inv c)
    (h : ∀ time, view ((P time).run Cluster.serve c) =
      view ((Pass.update obj >>= f).run Cluster.serve c))
    (hnext : Resumable P Inv view (f stored) c') :
    Resumable P Inv view (Pass.update obj >>= f) c :=
  resumable_attempt_bind (r := .update k obj) hwrite rfl hc h hnext

/-- Here a refusal is handed on, so that the reply may be one. -/
theorem resumable_tryUpdateStatus_bind {k : Kind} {obj : Object k}
    {reply : Except Error (Object k)} {c' : Cluster} {f : Except Error (Object k) → Pass α}
    (hwrite : c.replace obj = (reply, c')) (hc : Inv c)
    (h : ∀ time, view ((P time).run Cluster.serve c) =
      view ((Pass.tryUpdateStatus obj >>= f).run Cluster.serve c))
    (hnext : Resumable P Inv view (f reply) c') :
    Resumable P Inv view (Pass.tryUpdateStatus obj >>= f) c :=
  resumable_attempt_bind (r := .updateStatus k obj) hwrite rfl hc h hnext

/-- Reading needs no care. -/
theorem resumable_ask_of_readsOnly {r : Request} {next : r.Reply → Pass α} (hr : r.ReadsOnly K)
    (hnext : Resumable P Inv view (next (c.serve r).1) c) :
    Resumable P Inv view (ask r next) c := by
  intro c' hvisits
  -- Before the request and after it the cluster is the same.
  rw [run_ask, hr.serve_snd]
  cases hvisits with
  | here => exact hnext c (.here _ c)
  | later hlater =>
    rw [hr.serve_snd] at hlater
    exact hnext c' hlater

/-- Reading does not matter to where a pass is taken up. -/
theorem resumable_bind_ok {p : Pass β} (hp : p.ReadsOnly K) {b : β}
    (hb : (p.run Cluster.serve c).1 = .ok b) {f : β → Pass α}
    (hf : Resumable P Inv view (f b) c) : Resumable P Inv view (p >>= f) c := by
  induction hp with
  | done result =>
    obtain rfl : result = .ok b := hb
    exact hf
  | ask here _ ih =>
    rw [run_ask, here.serve_snd] at hb
    exact resumable_ask_of_readsOnly here (ih _ hb)

/-- A pass that fails while it reads has to fail again. -/
theorem resumable_bind_error {p : Pass β} (hp : p.ReadsOnly K) {e : Error}
    (he : (p.run Cluster.serve c).1 = .error e) {f : β → Pass α} (hc : Inv c)
    (h : ∀ time, view ((P time).run Cluster.serve c) = view (.error e, c)) :
    Resumable P Inv view (p >>= f) c := by
  induction hp with
  | done result =>
    obtain rfl : result = .error e := he
    exact resumable_done hc h
  | ask here _ ih =>
    rw [run_ask, here.serve_snd] at he
    exact resumable_ask_of_readsOnly here (ih _ he)

end Resumable

/-! ## Attempts -/

/-- A pass at some time with what becomes of its writes. -/
structure Attempt where
  time : String
  /-- What becomes of the writes, one after the other. -/
  fates : List Fate

def Attempt.after (P : String → Pass α) (c : Cluster) (attempt : Attempt) : Cluster :=
  ((P attempt.time).run Cluster.serveUnreliably (c, attempt.fates)).2.1

variable {V : Type} {P : String → Pass α} {Inv : Cluster → Prop}
  {view : Except Error α × Cluster → V} {Q : Except Error α → Prop}

/-- **Disturbed attempts leave no trace.** If passes are over as soon as a write is refused
and can be resumed wherever they stop, an undisturbed pass comes to the same end after any
attempts as without them. -/
theorem resumes_after_attempts (hends : ∀ time, (P time).EndsOnRefusal Q)
    (hresumes : ∀ c, Inv c → ∀ time, Resumable P Inv view (P time) c) {c : Cluster} (hc : Inv c)
    (attempts : List Attempt) (time time' : String) :
    view ((P time').run Cluster.serve (attempts.foldl (Attempt.after P) c)) =
      view ((P time).run Cluster.serve c) := by
  -- Each attempt stops at a cluster that again satisfies the invariant.
  induction attempts generalizing c with
  | nil => exact (hresumes c hc time c (.here _ c)).2 time'
  | cons attempt attempts ih =>
    have hvisits := (hends attempt.time).visits c attempt.fates
    obtain ⟨hinv, hview⟩ := hresumes c hc attempt.time _ hvisits
    calc view ((P time').run Cluster.serve ((attempt :: attempts).foldl (Attempt.after P) c))
        = view ((P time).run Cluster.serve (attempt.after P c)) := ih hinv
      _ = view ((P attempt.time).run Cluster.serve c) := hview time
      _ = view ((P time).run Cluster.serve c) :=
          ((hresumes c hc attempt.time c (.here _ c)).2 time).symm

end Pass

end ServiceTemplates
