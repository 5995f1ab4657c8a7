import ServiceTemplates.Pass.Lemmas
import ServiceTemplates.Proofs.Store.Sound

/-!
# Passes on one cluster

`Cluster.serve` answers the requests of a pass from a cluster and forgets what is let
known, which has no influence on the rest. A pass that only reads leaves the cluster
alone, and its result depends on nothing but the kinds that it reads. Main statements:
`Pass.runOn_result`, `Pass.runOn_cluster` and `Pass.ReadsOnly.run_congr`.
-/

namespace ServiceTemplates

/-! ## Without notes -/

def Cluster.serve : Answerer Cluster
  | .cached k ns name, c => ((c.store k).get? ns name, c)
  | .cachedList k ns filter, c => ((c.store k).list ns filter, c)
  | .fetch k ns name, c => (.ok ((c.store k).get? (some ns) name), c)
  | .create _ obj, c => c.create obj
  | .update _ obj, c => c.replace obj
  | .updateStatus _ obj, c => c.replace obj
  | .warn _ _ _, c => ((), c)
  | .count _, c => ((), c)

def Request.notes : Request → List Note
  | .warn about reason note => [.warned ⟨about, reason, note⟩]
  | .count counter => [.counted counter]
  | _ => []

/-- What is let known is added to the notes and is all that `Cluster.serve` leaves out. -/
theorem Cluster.answer_eq (r : Request) (c : Cluster) (notes : List Note) :
    Cluster.answer r (c, notes) = ((c.serve r).1, (c.serve r).2, notes ++ r.notes) := by
  cases r <;> simp [Cluster.answer, Cluster.answerBeside, Cluster.serve, Request.notes,
    Cluster.listers]

namespace Pass

variable {α β : Type}

theorem run_ask {σ : Type} (answer : Answerer σ) (r : Request) (next : r.Reply → Pass α) (s : σ) :
    (ask r next).run answer s = (next (answer r s).1).run answer (answer r s).2 := rfl

theorem run_map {σ : Type} (answer : Answerer σ) (f : α → β) (p : Pass α) (s : σ) :
    (f <$> p).run answer s = ((p.run answer s).1.map f, (p.run answer s).2) := by
  show (p >>= fun a => pure (f a)).run answer s = _
  rw [run_bind]
  obtain ⟨result, s'⟩ := p.run answer s
  cases result <;> rfl

/-- A pass whose parts end the same from every state ends as they do together. -/
theorem run_bind_fst {σ : Type} (answer : Answerer σ) {p : Pass α} {f : α → Pass β}
    {result : Except Error α} {g : α → Except Error β} {s : σ} (hp : (p.run answer s).1 = result)
    (hf : ∀ a s, ((f a).run answer s).1 = g a) : ((p >>= f).run answer s).1 = result >>= g := by
  subst hp
  rw [run_bind]
  obtain ⟨result, s'⟩ := p.run answer s
  cases result with
  | ok a => exact hf a s'
  | error e => rfl

/-- What is let known has no influence on the result and the cluster. -/
theorem run_answer (p : Pass α) (c : Cluster) (notes : List Note) :
    ∃ more, p.run Cluster.answer (c, notes) =
      ((p.run Cluster.serve c).1, (p.run Cluster.serve c).2, notes ++ more) := by
  -- Each request adds its notes, so the notes so far are general.
  induction p generalizing c notes with
  | done result => exact ⟨[], by simp [run]⟩
  | ask r next ih =>
    obtain ⟨more, hmore⟩ := ih (c.serve r).1 (c.serve r).2 (notes ++ r.notes)
    refine ⟨r.notes ++ more, ?_⟩
    rw [run_ask, run_ask, Cluster.answer_eq, hmore, List.append_assoc]

/-- **A pass ends the same with and without notes.** -/
theorem runOn_result (p : Pass α) (c : Cluster) :
    (p.runOn c).result = (p.run Cluster.serve c).1 := by
  obtain ⟨more, hmore⟩ := run_answer p c []
  simp only [runOn, hmore]

/-- **It leaves the same cluster, too.** -/
theorem runOn_cluster (p : Pass α) (c : Cluster) :
    (p.runOn c).cluster = (p.run Cluster.serve c).2 := by
  obtain ⟨more, hmore⟩ := run_answer p c []
  simp only [runOn, hmore]

theorem run_serve_eq (p : Pass α) (c : Cluster) :
    p.run Cluster.serve c = ((p.runOn c).result, (p.runOn c).cluster) := by
  rw [runOn_result, runOn_cluster]

end Pass

/-- No request makes a sound cluster unsound. -/
theorem Cluster.Sound.serve {c : Cluster} (hc : c.Sound) (r : Request) : (c.serve r).2.Sound := by
  cases r with
  | create k obj => exact hc.create obj
  | update k obj => exact hc.replace obj
  | updateStatus k obj => exact hc.replace obj
  | _ => exact hc

/-- A pass leaves a sound cluster sound, however it ends. -/
theorem Cluster.Sound.runOn {α : Type} {c : Cluster} (hc : c.Sound) (p : Pass α) :
    (p.runOn c).cluster.Sound := by
  rw [Pass.runOn_cluster]
  induction p generalizing c with
  | done result => exact hc
  | ask r next ih => exact ih (c.serve r).1 (hc.serve r)

/-! ## One step at a time -/

namespace Pass

variable {α β : Type} (c : Cluster)

theorem run_cached_bind (k : Kind) (ns : Option String) (name : String)
    (f : Option (Object k) → Pass β) :
    (Pass.cached k ns name >>= f).run Cluster.serve c =
      (f ((c.store k).get? ns name)).run Cluster.serve c := rfl

theorem run_cachedList_bind (k : Kind) (ns : Option String) (filter : LabelFilter)
    (f : List (Object k) → Pass β) :
    (Pass.cachedList k ns filter >>= f).run Cluster.serve c =
      (f ((c.store k).list ns filter)).run Cluster.serve c := rfl

theorem run_count_bind (counter : Counter) (f : Unit → Pass β) :
    (Pass.count counter >>= f).run Cluster.serve c = (f ()).run Cluster.serve c := rfl

/-- A request that is not refused, and what comes after it. -/
theorem run_attempt_bind {r : Request} {g : r.Reply → Except Error α} {reply : r.Reply} {a : α}
    {c' : Cluster} (h : c.serve r = (reply, c')) (ha : g reply = .ok a) (f : α → Pass β) :
    (Pass.attempt r g >>= f).run Cluster.serve c = (f a).run Cluster.serve c' := by
  show (Pass.ask r _).run Cluster.serve c = _
  rw [run_ask, h]
  show ((Pass.done (g reply)).bind f).run Cluster.serve c' = _
  rw [ha]
  rfl

/-- A creation that succeeds, and what comes after it. -/
theorem run_create_bind {k : Kind} {obj o : Object k} {c' : Cluster}
    (h : c.create obj = (.ok o, c')) (f : Object k → Pass β) :
    (Pass.create obj >>= f).run Cluster.serve c = (f o).run Cluster.serve c' :=
  run_attempt_bind (r := .create k obj) (g := id) c h rfl f

/-- A replacement that succeeds, and what comes after it. -/
theorem run_update_bind {k : Kind} {obj o : Object k} {c' : Cluster}
    (h : c.replace obj = (.ok o, c')) (f : Object k → Pass β) :
    (Pass.update obj >>= f).run Cluster.serve c = (f o).run Cluster.serve c' :=
  run_attempt_bind (r := .update k obj) (g := id) c h rfl f

end Pass

/-! ## Passes that only read -/

/-- Whether a request writes nothing and reads at most some kinds. -/
def Request.ReadsOnly (K : Kind → Prop) : Request → Prop
  | .cached k _ _ => K k
  | .cachedList k _ _ => K k
  | .fetch k _ _ => K k
  | .create _ _ => False
  | .update _ _ => False
  | .updateStatus _ _ => False
  | .warn _ _ _ => True
  | .count _ => True

/-- A request that only reads leaves the cluster alone. -/
theorem Request.ReadsOnly.serve_snd {K : Kind → Prop} {r : Request} (h : r.ReadsOnly K)
    (c : Cluster) : (c.serve r).2 = c := by
  cases r <;> first | rfl | exact h.elim

/-- The reply to it depends on nothing but the kinds that it reads. -/
theorem Request.ReadsOnly.serve_congr {K : Kind → Prop} {r : Request} (h : r.ReadsOnly K)
    {c c' : Cluster} (hsame : ∀ k, K k → c.store k = c'.store k) :
    (c.serve r).1 = (c'.serve r).1 := by
  cases r with
  | cached k ns name => simp only [Cluster.serve, hsame k h]
  | cachedList k ns filter => simp only [Cluster.serve, hsame k h]
  | fetch k ns name => simp only [Cluster.serve, hsame k h]
  | warn about reason note => rfl
  | count counter => rfl
  | _ => exact h.elim

namespace Pass

variable {α β : Type} {K : Kind → Prop}

/-- A pass that writes nothing and reads at most some kinds. -/
inductive ReadsOnly (K : Kind → Prop) : Pass α → Prop
  | done (result : Except Error α) : ReadsOnly K (done result)
  | ask {r : Request} {next : r.Reply → Pass α} (here : r.ReadsOnly K)
      (later : ∀ reply, ReadsOnly K (next reply)) : ReadsOnly K (ask r next)

namespace ReadsOnly

/-- Reading passes one after the other read. -/
theorem bind {p : Pass α} (hp : p.ReadsOnly K) {f : α → Pass β} (hf : ∀ a, (f a).ReadsOnly K) :
    (p >>= f).ReadsOnly K := by
  induction hp with
  | done result =>
    cases result with
    | ok a => exact hf a
    | error e => exact .done _
  | ask here _ ih => exact .ask here ih

theorem pure (a : α) : (pure a : Pass α).ReadsOnly K := .done _

theorem ofExcept (result : Except Error α) : (Pass.ofExcept result).ReadsOnly K := .done _

theorem fail (e : Error) : (Pass.fail e : Pass α).ReadsOnly K := .done _

theorem count (counter : Counter) : (Pass.count counter).ReadsOnly K := .ask trivial fun _ => .done _

theorem warn (about : ObjectReference) (reason note : String) :
    (Pass.warn about reason note).ReadsOnly K :=
  .ask trivial fun _ => .done _

theorem cached {k : Kind} (hk : K k) (ns : Option String) (name : String) :
    (Pass.cached k ns name).ReadsOnly K :=
  .ask hk fun _ => .done _

theorem cachedList {k : Kind} (hk : K k) (ns : Option String) (filter : LabelFilter) :
    (Pass.cachedList k ns filter).ReadsOnly K :=
  .ask hk fun _ => .done _

theorem foldlM {xs : List β} {f : α → β → Pass α} (hf : ∀ a x, (f a x).ReadsOnly K) (a : α) :
    (xs.foldlM f a).ReadsOnly K := by
  induction xs generalizing a with
  | nil => exact .pure a
  | cons x xs ih =>
    rw [List.foldlM_cons]
    exact (hf a x).bind ih

/-- **A pass that only reads leaves the cluster alone.** -/
theorem run_snd {p : Pass α} (h : p.ReadsOnly K) (c : Cluster) : (p.run Cluster.serve c).2 = c := by
  induction h with
  | done result => rfl
  | ask here _ ih =>
    rw [run_ask, here.serve_snd]
    exact ih _

/-- The result of a pass that only reads depends on nothing but what it reads. -/
theorem run_congr {p : Pass α} (h : p.ReadsOnly K) {c c' : Cluster}
    (hsame : ∀ k, K k → c.store k = c'.store k) :
    (p.run Cluster.serve c).1 = (p.run Cluster.serve c').1 := by
  induction h with
  | done result => rfl
  | ask here _ ih =>
    rw [run_ask, run_ask, here.serve_snd, here.serve_snd, here.serve_congr hsame]
    exact ih _

/-- After reading, the pass goes on from the same cluster. -/
theorem run_bind_ok {p : Pass α} (h : p.ReadsOnly K) {c : Cluster} {a : α}
    (ha : (p.run Cluster.serve c).1 = .ok a) (f : α → Pass β) :
    (p >>= f).run Cluster.serve c = (f a).run Cluster.serve c := by
  have hrun : p.run Cluster.serve c = (.ok a, c) := Prod.ext ha (h.run_snd c)
  rw [run_bind, hrun]

/-- What goes wrong while reading ends the pass before it has written. -/
theorem run_bind_error {p : Pass α} (h : p.ReadsOnly K) {c : Cluster} {e : Error}
    (he : (p.run Cluster.serve c).1 = .error e) (f : α → Pass β) :
    (p >>= f).run Cluster.serve c = (.error e, c) := by
  have hrun : p.run Cluster.serve c = (.error e, c) := Prod.ext he (h.run_snd c)
  rw [run_bind, hrun]

/-- A computation on what was read succeeds if the reading and the computation do. -/
theorem run_computed_iff {γ : Type} {p : Pass α} (h : p.ReadsOnly K) {c : Cluster}
    {f : α → Except Error β} {g : β → γ} {result : γ} :
    ((p >>= fun a => Pass.ofExcept (f a) >>= fun b => Pure.pure (g b)).run Cluster.serve c).1 =
        .ok result ↔
      ∃ a, (p.run Cluster.serve c).1 = .ok a ∧ ∃ b, f a = .ok b ∧ g b = result := by
  constructor
  · intro hrun
    cases ha : (p.run Cluster.serve c).1 with
    | error e =>
      rw [h.run_bind_error ha] at hrun
      cases hrun
    | ok a =>
      rw [h.run_bind_ok ha] at hrun
      cases hb : f a with
      | error e =>
        rw [hb] at hrun
        cases hrun
      | ok b =>
        rw [hb] at hrun
        exact ⟨a, rfl, b, hb, Except.ok.inj hrun⟩
  · rintro ⟨a, ha, b, hb, rfl⟩
    rw [h.run_bind_ok ha, hb]
    rfl

end ReadsOnly

end Pass

end ServiceTemplates
