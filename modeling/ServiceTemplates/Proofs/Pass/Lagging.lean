import ServiceTemplates.Proofs.Pass.Interaction

/-!
# Passes beside a lagging cache

A pass reads from caches that lag behind the live cluster, each look-up as far behind as
it likes, and others write to the live cluster between its steps. What such a pass does is
a trace of steps. Main statements: `LaggingRun.heeds`, by which a rule that the tree of a
pass keeps is kept along every trace, and `LaggingRun.finishes`, every run comes to an end.
-/

namespace ServiceTemplates

/-! ## What is said -/

/-- What can be relied on in a reply: an object has the key under which it was looked up
or written. -/
def Interaction.Credible : Interaction → Prop
  | ⟨.cached _ ns name, reply⟩ => ∀ o, reply = some o → o.place = ⟨ns.getD "", name⟩
  | ⟨.create _ obj, reply⟩ => ∀ o, reply = .ok o → o.place = obj.place
  | ⟨.update _ obj, reply⟩ => ∀ o, reply = .ok o → o.place = obj.place
  | ⟨.updateStatus _ obj, reply⟩ => ∀ o, reply = .ok o → o.place = obj.place
  | _ => True

/-! ## Paths through a pass -/

namespace Pass

variable {α β : Type}

/-- `Follows p said rest`: after what was said, `rest` is what is left of `p`. -/
inductive Follows : Pass α → List Interaction → Pass α → Prop
  | here (p : Pass α) : Follows p [] p
  | later {r : Request} {next : r.Reply → Pass α} {reply : r.Reply} {said : List Interaction}
      {rest : Pass α} (h : Follows (next reply) said rest) :
      Follows (ask r next) (⟨r, reply⟩ :: said) rest

/-- A path goes on by one more request and its reply. -/
theorem Follows.snoc {p : Pass α} {said : List Interaction} {r : Request}
    {next : r.Reply → Pass α} (h : Follows p said (ask r next)) (reply : r.Reply) :
    Follows p (said ++ [⟨r, reply⟩]) (next reply) := by
  -- The path ends in a request by assumption, which the induction has to know of as an equation.
  generalize hrest : ask r next = rest at h
  induction h with
  | here p =>
    subst hrest
    exact .later (.here _)
  | later _ ih => exact .later (ih hrest)

/-- Whether `p`, after what was `said`, asks nothing against the `rule` as long as the
replies are credible. -/
def Heeds (rule : List Interaction → Request → Prop) : Pass α → List Interaction → Prop
  | done _, _ => True
  | ask r next, said => rule said r ∧
      ∀ reply, Interaction.Credible ⟨r, reply⟩ → (next reply).Heeds rule (said ++ [⟨r, reply⟩])

variable {rule : List Interaction → Request → Prop}

theorem Follows.of_done {result : Except Error α} {said : List Interaction} {rest : Pass α}
    (h : Follows (done result) said rest) : said = [] ∧ rest = done result := by
  cases h
  exact ⟨rfl, rfl⟩

/-- A path is at its start or has heard the first reply. -/
theorem Follows.of_ask {r : Request} {next : r.Reply → Pass α} {said : List Interaction}
    {rest : Pass α} (h : Follows (ask r next) said rest) :
    (said = [] ∧ rest = ask r next) ∨
      ∃ reply said', said = ⟨r, reply⟩ :: said' ∧ Follows (next reply) said' rest := by
  cases h with
  | here => exact Or.inl ⟨rfl, rfl⟩
  | later h => exact Or.inr ⟨_, _, rfl, h⟩

/-- Who heeds a rule heeds any weaker one. -/
theorem Heeds.mono {rule' : List Interaction → Request → Prop}
    (hrule : ∀ said r, rule said r → rule' said r) {p : Pass α} {said : List Interaction}
    (h : p.Heeds rule said) : p.Heeds rule' said := by
  induction p generalizing said with
  | done result => trivial
  | ask r next ih => exact ⟨hrule said r h.1, fun reply hreply => ih reply (h.2 reply hreply)⟩

/-- A rule that a pass heeds is heeded along every path. -/
theorem Follows.heeds {p rest : Pass α} {said : List Interaction} (h : Follows p said rest)
    {before : List Interaction} (hp : p.Heeds rule before) (hsaid : ∀ i ∈ said, i.Credible)
    {earlier later : List Interaction} {i : Interaction} (hsplit : said = earlier ++ i :: later) :
    rule (before ++ earlier) i.request := by
  -- What was said before grows on the way down, so the rule is heeded after any of it.
  induction h generalizing before earlier with
  | here p => simp at hsplit
  | @later r next reply said rest _ ih =>
    cases earlier with
    | nil =>
      obtain rfl := (List.cons.inj hsplit).1
      simpa using hp.1
    | cons first earlier =>
      obtain ⟨rfl, htail⟩ := List.cons.inj hsplit
      have hnext := hp.2 reply (hsaid _ List.mem_cons_self)
      simpa using ih hnext (fun i hi => hsaid i (List.mem_cons_of_mem _ hi)) htail

/-- Reading comes before the rest; what is known only grows. -/
theorem Heeds.bind_of_readsOnly {K : Kind → Prop} {p : Pass α} (hp : p.ReadsOnly K)
    {f : α → Pass β} {said : List Interaction}
    (hrule : ∀ more r, r.ReadsOnly K → rule (said ++ more) r)
    (hf : ∀ more a, (f a).Heeds rule (said ++ more)) : (p >>= f).Heeds rule said := by
  induction hp generalizing said with
  | done result =>
    cases result with
    | ok a =>
      show (f a).Heeds rule said
      simpa using hf [] a
    | error e => trivial
  -- After one more reply the same holds, with what was said that much longer.
  | @ask r next here _ ih =>
    refine ⟨by simpa using hrule [] r here, fun reply _ => ih reply ?_ ?_⟩
    · intro more r' hr'
      rw [List.append_assoc]
      exact hrule _ r' hr'
    · intro more a
      rw [List.append_assoc]
      exact hf _ a

end Pass

/-! ## Runs -/

/-- A step of a pass: what was said, and the live cluster before and after. -/
structure Step extends Interaction where
  before : Cluster
  after : Cluster

def said (trace : List Step) : List Interaction := trace.map Step.toInteraction

/-- Whether a request can be answered so: a look-up from the state that some cluster of
`seen` shows of its kind, anything else by the `live` cluster. -/
def Request.Answers (seen : List Cluster) (live : Cluster) :
    (r : Request) → r.Reply → Cluster → Prop
  | .cached k ns name, reply, after => after = live ∧ ∃ c ∈ seen, reply = (c.store k).get? ns name
  | .cachedList k ns filter, reply, after =>
    after = live ∧ ∃ c ∈ seen, reply = (c.store k).list ns filter
  | r, reply, after => live.serve r = (reply, after)

/-- The runs of a pass beside caches that lag: `seen` are the states that the live cluster
has gone through so far, the present one included, from before the start of the pass on. -/
inductive LaggingRun {α : Type} (p : Pass α) :
    List Cluster → Cluster → List Step → Pass α → Prop
  /-- Nothing is known of the past but that the cluster was sound. -/
  | start {live : Cluster} {past : List Cluster} (h : ∀ c ∈ live :: past, c.Sound) :
      LaggingRun p (live :: past) live [] p
  | others {seen : List Cluster} {live after : Cluster} {trace : List Step} {rest : Pass α}
      (run : LaggingRun p seen live trace rest) (h : after.Sound) :
      LaggingRun p (after :: seen) after trace rest
  | step {seen : List Cluster} {live after : Cluster} {trace : List Step} {r : Request}
      {next : r.Reply → Pass α} {reply : r.Reply}
      (run : LaggingRun p seen live trace (.ask r next)) (h : r.Answers seen live reply after) :
      LaggingRun p (after :: seen) after (trace ++ [⟨⟨r, reply⟩, live, after⟩]) (next reply)

/-- However outdated a reply is, the live cluster changes as the request says. -/
theorem Request.Answers.after_eq {seen : List Cluster} {live after : Cluster} {r : Request}
    {reply : r.Reply} (h : r.Answers seen live reply after) : after = (live.serve r).2 := by
  cases r with
  | cached k ns name => exact h.1
  | cachedList k ns filter => exact h.1
  | _ => exact (congrArg Prod.snd h).symm

/-- A creation that succeeds puts the object that it returns where nothing stood. -/
theorem Cluster.puts_of_create {c c' : Cluster} {k : Kind} {obj o : Object k}
    (h : c.create obj = (.ok o, c')) :
    o.place = obj.place ∧ c.find? k obj.place = none ∧ c.Puts o c' := by
  rcases c.create_cases obj with ⟨-, hrefused⟩ | ⟨hnone, c₁, hdone, hputs⟩
  · rw [hrefused] at h
    cases h
  · rw [hdone] at h
    cases h
    exact ⟨rfl, hnone, hputs⟩

/-- A replacement that succeeds puts the object that it returns in place of one that has
the version it names. -/
theorem Cluster.puts_of_replace {c c' : Cluster} {k : Kind} {obj o : Object k}
    (h : c.replace obj = (.ok o, c')) :
    o.place = obj.place ∧ c.Puts o c' ∧ ∃ current, c.find? k obj.place = some current ∧
      (obj.version.isSome → current.version = obj.version) := by
  rcases c.replace_cases obj with ⟨e, hrefused⟩ | ⟨current, hcurrent, hfresh, c₁, hdone, hputs⟩
  · rw [hrefused] at h
    cases h
  · rw [hdone] at h
    cases h
    exact ⟨rfl, hputs, current, hcurrent, fun hv => (staleness?_eq_none_iff hv).1 hfresh⟩

/-- A creation that fails leaves everything alone. -/
theorem Cluster.create_error {c c' : Cluster} {k : Kind} {obj : Object k} {e : Error}
    (h : c.create obj = (.error e, c')) : c' = c := by
  rcases c.create_cases obj with ⟨-, hrefused⟩ | ⟨-, c₁, hdone, -⟩
  · rw [hrefused] at h
    exact (Prod.mk.inj h).2.symm
  · rw [hdone] at h
    cases h

/-- So does a replacement. -/
theorem Cluster.replace_error {c c' : Cluster} {k : Kind} {obj : Object k} {e : Error}
    (h : c.replace obj = (.error e, c')) : c' = c := by
  rcases c.replace_cases obj with ⟨e', hrefused⟩ | ⟨current, -, -, c₁, hdone, -⟩
  · rw [hrefused] at h
    exact (Prod.mk.inj h).2.symm
  · rw [hdone] at h
    cases h

section Answers

variable {seen : List Cluster} {live after : Cluster}

/-- What is answered from sound clusters can be relied on. -/
theorem Request.Answers.credible {r : Request} {reply : r.Reply}
    (h : r.Answers seen live reply after) (hsound : ∀ c ∈ seen, c.Sound) :
    Interaction.Credible ⟨r, reply⟩ := by
  cases r with
  | cached k ns name =>
    obtain ⟨-, c, hc, rfl⟩ := h
    exact fun o ho => (hsound c hc).place ho
  | create k obj =>
    rintro o rfl
    exact (Cluster.puts_of_create h).1
  | update k obj =>
    rintro o rfl
    exact (Cluster.puts_of_replace h).1
  | updateStatus k obj =>
    rintro o rfl
    exact (Cluster.puts_of_replace h).1
  | _ => trivial

/-- An object that is told of in a reply stands, or stood, under its key. -/
theorem Request.Answers.stored {r : Request} {reply : r.Reply}
    (h : r.Answers seen live reply after) (hsound : ∀ c ∈ seen, c.Sound) {k : Kind} {o : Object k}
    (ho : Interaction.object? ⟨r, reply⟩ = some ⟨k, o⟩) :
    ∃ c ∈ after :: seen, c.find? k o.place = some o := by
  -- What was written stands there afterwards; what was looked up stood there when it was seen.
  have hwritten : ∀ {k' : Kind} {stored : Object k'}, live.Puts stored after →
      (⟨k', stored⟩ : AnyObject) = ⟨k, o⟩ → ∃ c ∈ after :: seen, c.find? k o.place = some o := by
    rintro k' stored hputs ⟨⟩
    exact ⟨after, List.mem_cons_self, hputs.find?_of_place rfl⟩
  cases r with
  | cached k' ns name =>
    obtain ⟨-, c, hc, rfl⟩ := h
    obtain ⟨o', ho', he⟩ := Option.map_eq_some_iff.1 ho
    cases he
    have hfind : c.find? k ⟨ns.getD "", name⟩ = some o := ho'
    exact ⟨c, List.mem_cons_of_mem _ hc, (hsound c hc).place hfind ▸ hfind⟩
  | create k' obj =>
    cases reply with
    | ok stored => exact hwritten (Cluster.puts_of_create h).2.2 (Option.some.inj ho)
    | error e => cases ho
  | update k' obj =>
    cases reply with
    | ok stored => exact hwritten (Cluster.puts_of_replace h).2.1 (Option.some.inj ho)
    | error e => cases ho
  | updateStatus k' obj =>
    cases reply with
    | ok stored => exact hwritten (Cluster.puts_of_replace h).2.1 (Option.some.inj ho)
    | error e => cases ho
  | _ => cases ho

end Answers

namespace LaggingRun

variable {α : Type} {p rest : Pass α} {seen : List Cluster} {live : Cluster} {trace : List Step}

theorem live_mem (run : LaggingRun p seen live trace rest) : live ∈ seen := by
  cases run <;> exact List.mem_cons_self

/-- Every cluster that was seen is sound. -/
theorem sound (run : LaggingRun p seen live trace rest) : ∀ c ∈ seen, c.Sound := by
  induction run with
  | start h => exact h
  | others _ h ih =>
    intro c hc
    rcases List.mem_cons.1 hc with rfl | hc
    · exact h
    · exact ih c hc
  | @step seen live after trace r next reply run h ih =>
    intro c hc
    rcases List.mem_cons.1 hc with rfl | hc
    · rw [h.after_eq]
      exact (ih live run.live_mem).serve r
    · exact ih c hc

/-- What was said along a run is a path through the pass. -/
theorem follows (run : LaggingRun p seen live trace rest) : p.Follows (said trace) rest := by
  induction run with
  | start h => exact .here p
  | others _ _ ih => exact ih
  | step _ _ ih =>
    rw [said, List.map_append]
    exact ih.snoc _

/-- Along a run every reply can be relied on. -/
theorem credible (run : LaggingRun p seen live trace rest) : ∀ i ∈ said trace, i.Credible := by
  induction run with
  | start _ =>
    intro i hi
    cases hi
  | others _ _ ih => exact ih
  | step run h ih =>
    intro i hi
    rw [said, List.map_append] at hi
    rcases List.mem_append.1 hi with hi | hi
    · exact ih i hi
    · obtain rfl := List.mem_singleton.1 hi
      exact h.credible run.sound

/-- Whatever a pass knows stands, or stood, under its key. -/
theorem stored_of_knows (run : LaggingRun p seen live trace rest) {k : Kind} {o : Object k}
    (h : Knows (said trace) o) : ∃ c ∈ seen, c.find? k o.place = some o := by
  induction run with
  | start _ =>
    obtain ⟨i, hi, -⟩ := h
    cases hi
  | others _ _ ih =>
    obtain ⟨c, hc, ho⟩ := ih h
    exact ⟨c, List.mem_cons_of_mem _ hc, ho⟩
  | step run hanswers ih =>
    obtain ⟨i, hi, ho⟩ := h
    rw [said, List.map_append] at hi
    rcases List.mem_append.1 hi with hi | hi
    · obtain ⟨c, hc, ho⟩ := ih ⟨i, hi, ho⟩
      exact ⟨c, List.mem_cons_of_mem _ hc, ho⟩
    · obtain rfl := List.mem_singleton.1 hi
      exact hanswers.stored run.sound ho

/-- A step of a run is made in a run that has come that far. -/
theorem split (run : LaggingRun p seen live trace rest) {earlier later : List Step} {e : Step}
    (h : trace = earlier ++ e :: later) :
    ∃ seen' next, LaggingRun p seen' e.before earlier (.ask e.request next) ∧
      e.request.Answers seen' e.before e.reply e.after ∧ ∀ c ∈ seen', c ∈ seen := by
  induction run generalizing later with
  | start _ => simp at h
  | others _ _ ih =>
    obtain ⟨seen', next, hrun, hanswers, hsub⟩ := ih h
    exact ⟨seen', next, hrun, hanswers, fun c hc => List.mem_cons_of_mem _ (hsub c hc)⟩
  | @step seen live after trace r next reply run hanswers ih =>
    -- A run grows at its end: the step in question is the last one or belongs to what was before.
    rcases List.eq_nil_or_concat later with rfl | ⟨later, last, rfl⟩
    · obtain ⟨rfl, he⟩ := List.append_inj' h rfl
      obtain rfl := (List.cons.inj he).1
      exact ⟨seen, next, run, hanswers, fun c hc => List.mem_cons_of_mem _ hc⟩
    · rw [List.concat_eq_append, ← List.cons_append, ← List.append_assoc] at h
      obtain ⟨hinit, -⟩ := List.append_inj' h rfl
      obtain ⟨seen', next', hrun, hanswers', hsub⟩ := ih hinit
      exact ⟨seen', next', hrun, hanswers', fun c hc => List.mem_cons_of_mem _ (hsub c hc)⟩

/-- **A rule that the tree of a pass heeds is heeded by every step of every run.** -/
theorem heeds {rule : List Interaction → Request → Prop} (hp : p.Heeds rule [])
    (run : LaggingRun p seen live trace rest) {earlier later : List Step} {e : Step}
    (h : trace = earlier ++ e :: later) : rule (said earlier) e.request := by
  have hsplit : said trace = said earlier ++ e.toInteraction :: said later := by simp [said, h]
  simpa using run.follows.heeds hp run.credible hsplit

/-- There is an answer to every request, from the live cluster if need be. -/
theorem exists_answer (run : LaggingRun p seen live trace rest) (r : Request) :
    ∃ reply after, r.Answers seen live reply after := by
  cases r with
  | cached k ns name => exact ⟨_, live, rfl, live, run.live_mem, rfl⟩
  | cachedList k ns filter => exact ⟨_, live, rfl, live, run.live_mem, rfl⟩
  | _ => exact ⟨_, _, rfl⟩

/-- **Every run comes to an end.** -/
theorem finishes (run : LaggingRun p seen live trace rest) :
    ∃ seen' live' more result, LaggingRun p seen' live' (trace ++ more) (.done result) := by
  -- On what is left of the pass, which every answer makes smaller.
  induction rest generalizing seen live trace with
  | done result => exact ⟨seen, live, [], result, by simpa using run⟩
  | ask r next ih =>
    obtain ⟨reply, after, hanswers⟩ := run.exists_answer r
    obtain ⟨seen', live', more, result, hend⟩ := ih reply (run.step hanswers)
    rw [List.append_assoc] at hend
    exact ⟨seen', live', _, result, hend⟩

end LaggingRun

end ServiceTemplates
