import ServiceTemplates.Proofs.Pass.Race
import ServiceTemplates.Proofs.Reconcile.Setting

/-!
# How far a pass has come

Before something is provisioned, two passes resolve the same template, one of them stores
it, and one of them creates. Afterwards the creator, the winner, has to report only, and
the other one finds out in one of several ways that it came too late. A stage says how far
a pass has come, and each stage is followed through one step. Main statements:
`Flow.Setting.Early.step`, `Flow.Setting.Winner.step` and `Flow.Setting.Late.step`.
-/

namespace ServiceTemplates

namespace Flow

variable {t p : Kind}

/-- A pass that comes to its report comes to its end or to something to be recorded. -/
theorem reads_report {F : Flow t p} {K : Kind → Prop} {c : Cluster} {time : String} {o : Object t}
    {s : Object p} {q : Pass (Option (Object t))}
    (h : q.ReadsTo K c (some <$> F.report time (o, s))) :
    (∃ result, q.ReadsTo K c (.done result)) ∨ ∃ status, q.ReadsTo K c (recording o status) := by
  rcases F.report_cases time o s with hreport | ⟨status, hreport⟩
  · rw [hreport] at h
    exact Or.inl ⟨_, h⟩
  · rw [hreport] at h
    exact Or.inr ⟨status, h⟩

namespace Setting

variable {F : Flow t p} (S : F.Setting)

/-! ## How far a pass has come -/

/-- A pass comes to `q` by reading templates only, and has a log. -/
structure At (x : Racer (Option (Object t))) (q : Pass (Option (Object t)))
    (o? : Option (Object t)) (s? : Option (Object p)) (created : Nat) : Prop where
  reads : x.rest.ReadsTo F.Sources S.start q
  log : Log t p S.ns S.name x.said o? s? created

/-- Templates are what they were in the beginning. -/
def Unread (c : Cluster) : Prop := ∀ k, F.Sources k → c.store k = S.start.store k

section At

variable {S} {x : Racer (Option (Object t))} {q : Pass (Option (Object t))}
  {o? : Option (Object t)} {s? : Option (Object p)} {created : Nat} {c : Cluster}

/-- On its way to a stage a runner writes nothing; it stays on the way or has arrived. -/
theorem At.step_cases (h : S.At x q o? s? created) (hsame : S.Unread c) :
    (∃ x', x.step c = (x', c) ∧ S.At x' q o? s? created) ∨ x.rest = q := by
  rcases Racer.step_cases h.reads hsame with ⟨rest, i, hi, hreads, hstep⟩ | hrest
  · exact Or.inl ⟨_, hstep, hreads,
      h.log.snoc_readsOnly hi F.templated_not_source F.provisioned_not_source⟩
  · exact Or.inr hrest

/-- A runner that is over can only be at an end. -/
theorem At.eq_of_done (h : S.At x q o? s? created) {result : Except Error (Option (Object t))}
    (hx : x.rest = .done result) : q = .done result := by
  have hreads := h.reads
  rw [hx] at hreads
  cases hreads
  rfl

variable {r : Request} {next : r.Reply → Pass (Option (Object t))}

/-- A pass that does not look anything up reads on, or makes its request. -/
theorem At.step_write (h : S.At x (.ask r next) o? s? created) (hsame : S.Unread c)
    (hr : ∀ k ns name, r ≠ .cached k ns name) :
    (∃ x', x.step c = (x', c) ∧ S.At x' (.ask r next) o? s? created) ∨
      ∃ said, x.step c = (⟨next (c.serve r).1, said⟩, (c.serve r).2) ∧
        Log t p S.ns S.name said o? s?
          (created + if Interaction.isCreation p ⟨r, (c.serve r).1⟩ then 1 else 0) := by
  rcases h.step_cases hsame with hsilent | hrest
  · exact Or.inl hsilent
  · exact Or.inr ⟨_, Racer.step_of_ask hrest, h.log.snoc (hr t) (hr p)⟩

/-- A look-up takes what stands there at that moment. -/
theorem At.step_read {k : Kind} {f : Option (Object k) → Pass (Option (Object t))}
    (h : S.At x (Pass.cached k (some S.ns) S.name >>= f) o? s? created) (hsame : S.Unread c) :
    (∃ x', x.step c = (x', c) ∧
      S.At x' (Pass.cached k (some S.ns) S.name >>= f) o? s? created) ∨
      x.step c = (⟨f (c.find? k ⟨S.ns, S.name⟩),
        x.said ++ [⟨.cached k (some S.ns) S.name, c.find? k ⟨S.ns, S.name⟩⟩]⟩, c) := by
  rcases h.step_cases hsame with hsilent | hrest
  · exact Or.inl hsilent
  · exact Or.inr (Racer.step_of_ask hrest)

end At

/-- What is provisioned in the end, by what a pass found: what was asked for in the
beginning if that was pushed down, and what was built otherwise. -/
structure Outcome (o? : Option (Object t)) (s? : Option (Object p)) (found : p.Spec) : Prop where
  pushed : o? = some S.old → s?.isSome → ¬ F.inSync S.old.spec S.desired.spec →
    found = F.refresh S.old.spec S.desired.spec
  kept : ¬ (o? = some S.old ∧ s?.isSome ∧ ¬ F.inSync S.old.spec S.desired.spec) →
    found = S.desired.spec

/-- A pass before anything is provisioned, while `T` is the templated object. -/
inductive Early (time : String) (T : Object t) (x : Racer (Option (Object t))) : Prop
  | starting (h : S.At x (F.pass time S.key) none none 0)
  | holding (o : Object t) (ho : o = S.old ∨ (o = S.new ∧ T = S.new))
      (h : S.At x (Pass.cached p (some S.ns) S.name >>= F.proceed time o) (some o) none 0)
  | storing (hdiffers : ¬ F.sameSpec S.spec S.old.spec)
      (h : S.At x (F.storing time S.old S.spec) (some S.old) none 0)
  | creating (o : Object t) (hT : T = S.new)
      (h : S.At x (F.creation time S.new S.desired) (some o) none 0)
  | refused (o : Object t) (result : Except Error (Option (Object t)))
      (hT : T.version ≠ S.old.version) (h : S.At x (.done result) (some o) none 0)

/-- A state in which a pass may have seen the object. -/
structure Held (o : Object t) : Prop where
  kin : S.old.Kin o
  versioned : o.version.isSome
  spec : o = S.old ∨ o.spec = S.new.spec

/-- A pass that is too late, while `s` is provisioned. -/
inductive Late (time : String) (s : Object p) (x : Racer (Option (Object t))) : Prop
  | starting (hs : s.spec = S.desired.spec) (h : S.At x (F.pass time S.key) none none 0)
  | holding (o : Object t) (ho : S.Held o) (hs : s.spec = S.desired.spec)
      (h : S.At x (Pass.cached p (some S.ns) S.name >>= F.proceed time o) (some o) none 0)
  | storing (hdiffers : ¬ F.sameSpec S.spec S.old.spec) (hs : s.spec = S.desired.spec)
      (h : S.At x (F.storing time S.old S.spec) (some S.old) none 0)
  | creating (o : Object t) (hs : s.spec = S.desired.spec)
      (h : S.At x (F.creation time S.new S.desired) (some o) none 0)
  | pushing (hdrift : ¬ F.inSync S.old.spec S.desired.spec) (hs : s.spec = S.desired.spec)
      (h : S.At x (F.push time S.old s) (some S.old) (some s) 0)
  | reporting (o : Object t) (found : Option (Object p)) (status : t.Status) (ho : S.Held o)
      (hs : S.Outcome (some o) found s.spec) (h : S.At x (recording o status) (some o) found 0)

/-- A pass that was too late and is over. -/
def LateOver (s : Object p) (x : Racer (Option (Object t))) : Prop :=
  ∃ result o? s?, S.Outcome o? s? s.spec ∧ S.At x (.done result) o? s? 0

/-- The pass that has created what is provisioned. -/
inductive Winner (x : Racer (Option (Object t))) : Prop
  | reporting (o : Object t) (status : t.Status)
      (h : S.At x (recording S.new status) (some o) none 1)
  | finished (o : Object t) (result : Except Error (Option (Object t)))
      (h : S.At x (.done result) (some o) none 1)

/-! ## One step before anything is provisioned -/

section Early

variable {S} {time : String} {T : Object t} {x : Racer (Option (Object t))} {c : Cluster}

/-- A runner that starts finds the request and goes on to look for what is provisioned. -/
theorem At.step_starting (h : S.At x (F.pass time S.key) none none 0) (hsame : S.Unread c)
    (hT : c.find? t ⟨S.ns, S.name⟩ = some T) :
    ∃ x', x.step c = (x', c) ∧ (S.At x' (F.pass time S.key) none none 0 ∨
      S.At x' (Pass.cached p (some S.ns) S.name >>= F.proceed time T) (some T) none 0) := by
  rw [pass_of_wellFormed S.wellFormed] at h ⊢
  rcases h.step_read hsame with ⟨x', hstep, h'⟩ | hstep
  · exact ⟨x', hstep, Or.inl h'⟩
  · rw [hT] at hstep
    exact ⟨_, hstep, Or.inr ⟨.here _, h.log.snoc_templated F.templated_ne_provisioned _⟩⟩

/-- A pass that has something to create creates it unless it is there already. -/
theorem At.step_creating {o : Object t}
    (h : S.At x (F.creation time S.new S.desired) (some o) none 0) (hsame : S.Unread c) :
    ∃ x' c', x.step c = (x', c') ∧
      ((c' = c ∧ S.At x' (F.creation time S.new S.desired) (some o) none 0) ∨
        (c' = c ∧ (c.find? p ⟨S.ns, S.name⟩).isSome ∧
          ∃ result, S.At x' (.done result) (some o) none 0) ∨
        (c.find? p ⟨S.ns, S.name⟩ = none ∧
          ∃ uid, c.Puts (Store.stamp S.desired uid "1") c' ∧ S.Winner x')) := by
  rcases At.step_write h hsame nofun with ⟨x', hstep, h'⟩ | ⟨said, hstep, hlog⟩
  · exact ⟨x', c, hstep, Or.inl ⟨rfl, h'⟩⟩
  have hserve : c.serve (.create p S.desired) = c.create S.desired := rfl
  rw [hserve] at hstep hlog
  rcases c.create_cases S.desired with ⟨htaken, hcreate⟩ | ⟨hvacant, c', hcreate, hputs⟩
  · rw [hcreate] at hstep hlog
    rw [S.desired_place] at htaken
    exact ⟨_, c, hstep, Or.inr (Or.inl ⟨rfl, htaken, _, .here _, hlog⟩)⟩
  · rw [hcreate] at hstep hlog
    rw [S.desired_place] at hvacant
    refine ⟨_, c', hstep, Or.inr (Or.inr ⟨hvacant, _, hputs, ?_⟩)⟩
    have hcreated : Log t p S.ns S.name said (some o) none 1 := by
      simpa [Interaction.isCreation] using hlog
    rcases reads_report (F := F) (K := F.Sources) (c := S.start)
      (.bind_count (.writes p .create) fun _ => some <$> F.report time (S.new, _)) with
      ⟨result, hreads⟩ | ⟨status, hreads⟩
    · exact .finished o result ⟨hreads, hcreated⟩
    · exact .reporting o status ⟨hreads, hcreated⟩

/-- What is stored is stored unless the object has changed since it was looked up. -/
theorem At.step_storing (h : S.At x (F.storing time S.old S.spec) (some S.old) none 0)
    (hsame : S.Unread c) (hT : c.find? t ⟨S.ns, S.name⟩ = some T) :
    ∃ x' c', x.step c = (x', c') ∧
      ((c' = c ∧ S.At x' (F.storing time S.old S.spec) (some S.old) none 0) ∨
        (c' = c ∧ T.version ≠ S.old.version ∧ ∃ result, S.At x' (.done result) (some S.old) none 0) ∨
        (T.version = S.old.version ∧ c.Puts (Store.successor T { S.old with spec := S.spec }) c' ∧
          S.At x' (F.createFor (Store.successor T { S.old with spec := S.spec }) >>= fun ready =>
            some <$> F.report time ready) (some S.old) none 0)) := by
  rcases At.step_write h hsame nofun with ⟨x', hstep, h'⟩ | ⟨said, hstep, hlog⟩
  · exact ⟨x', c, hstep, Or.inl ⟨rfl, h'⟩⟩
  have hserve : c.serve (.update t { S.old with spec := S.spec }) =
      c.replace { S.old with spec := S.spec } := rfl
  rw [hserve] at hstep hlog
  have hplace : Object.place { S.old with spec := S.spec } = ⟨S.ns, S.name⟩ := S.old_place
  have hversioned : S.old.version.isSome := S.sound.versioned S.templated
  rw [← hplace] at hT
  rcases Cluster.replace_versioned_cases hT hversioned with
    ⟨hversion, e, hreplace⟩ | ⟨hversion, c', hreplace, hputs⟩
  · rw [hreplace] at hstep hlog
    exact ⟨_, c, hstep, Or.inr (Or.inl ⟨rfl, hversion, _, .here _, hlog⟩)⟩
  · rw [hreplace] at hstep hlog
    exact ⟨_, c', hstep, Or.inr (Or.inr ⟨hversion, hputs, .here _, hlog⟩)⟩

/-- A pass that finds nothing provisioned has its template to store or comes to creating. -/
theorem reads_proceed_none {o : Object t} (ho : o = S.old ∨ o = S.new) (time : String) :
    (¬ F.sameSpec S.spec S.old.spec ∧ o = S.old ∧
      Pass.ReadsTo F.Sources S.start (F.proceed time o none) (F.storing time S.old S.spec)) ∨
    (o = S.new ∧
      Pass.ReadsTo F.Sources S.start (F.proceed time o none) (F.creation time S.new S.desired)) := by
  -- Whichever of the two was seen, it resolves to the same; only one of them has to be stored.
  have hreads : ∀ {o}, ((F.resolve o).run Cluster.serve S.start).1 = .ok S.spec →
      Pass.ReadsTo F.Sources S.start (F.proceed time o none)
        ((if F.sameSpec S.spec o.spec then pure o else Pass.update { o with spec := S.spec }) >>=
          fun o => F.createFor o >>= fun ready => some <$> F.report time ready) := by
    intro o h
    rw [proceed_none, Flow.storeApplied, Pass.bind_assoc]
    exact .bind_ok (F.resolve_readsOnly o) h _
  have hcreates : F.createFor S.new >>= (fun ready => some <$> F.report time ready) =
      F.creation time S.new S.desired := createFor_of_ok S.built _
  by_cases hsameSpec : F.sameSpec S.spec S.old.spec
  · obtain rfl : o = S.new := by
      rcases ho with rfl | rfl
      · exact (S.same hsameSpec).symm
      · rfl
    have hread := hreads (S.same hsameSpec ▸ S.resolved)
    rw [S.same hsameSpec, if_pos hsameSpec, ← S.same hsameSpec] at hread
    exact Or.inr ⟨rfl, hcreates ▸ hread⟩
  · rcases ho with rfl | rfl
    · have hread := hreads S.resolved
      rw [if_neg hsameSpec] at hread
      exact Or.inl ⟨hsameSpec, rfl, hread⟩
    · have hread := hreads (S.again hsameSpec)
      have hspec : S.new.spec = S.spec := by rw [S.differs hsameSpec]; rfl
      rw [hspec, if_pos (F.sameSpec_self S.spec)] at hread
      exact Or.inr ⟨rfl, hcreates ▸ hread⟩

/-- **One step of a pass before anything is provisioned**: it goes on, or stores the
template, or creates. -/
theorem Early.step (h : S.Early time T x) (hsame : S.Unread c)
    (hT : c.find? t ⟨S.ns, S.name⟩ = some T) (hcase : T = S.old ∨ T = S.new)
    (hvacant : c.find? p ⟨S.ns, S.name⟩ = none) :
    ∃ x' c', x.step c = (x', c') ∧
      ((c' = c ∧ S.Early time T x') ∨
        (T = S.old ∧ c.Puts S.new c' ∧
          ∃ o, S.At x' (F.creation time S.new S.desired) (some o) none 0) ∨
        (T = S.new ∧ ∃ uid, c.Puts (Store.stamp S.desired uid "1") c' ∧ S.Winner x')) := by
  cases h with
  | starting h =>
    obtain ⟨x', hstep, h' | h'⟩ := h.step_starting hsame hT
    · exact ⟨x', c, hstep, Or.inl ⟨rfl, .starting h'⟩⟩
    · exact ⟨x', c, hstep, Or.inl ⟨rfl, .holding T (hcase.imp_right fun h => ⟨h, h⟩) h'⟩⟩
  | holding o ho h =>
    rcases h.step_read hsame with ⟨x', hstep, h'⟩ | hstep
    · exact ⟨x', c, hstep, Or.inl ⟨rfl, .holding o ho h'⟩⟩
    rw [hvacant] at hstep
    have hlog := h.log.snoc_provisioned F.templated_ne_provisioned none
    refine ⟨_, c, hstep, Or.inl ⟨rfl, ?_⟩⟩
    -- Nothing is provisioned yet, so the pass resolves.
    rcases reads_proceed_none (ho.imp_right And.left) time with
      ⟨hdiffers, rfl, hreads⟩ | ⟨rfl, hreads⟩
    · exact .storing hdiffers ⟨hreads, hlog⟩
    · refine .creating S.new ?_ ⟨hreads, hlog⟩
      rcases ho with hold | ⟨-, hnew⟩
      · exact hcase.elim (fun h => h.trans hold.symm) id
      · exact hnew
  | storing hdiffers h =>
    obtain ⟨x', c', hstep, ⟨rfl, h'⟩ | ⟨rfl, hversion, result, h'⟩ | ⟨hversion, hputs, h'⟩⟩ :=
      h.step_storing hsame hT
    · exact ⟨x', c', hstep, Or.inl ⟨rfl, .storing hdiffers h'⟩⟩
    · exact ⟨x', c', hstep, Or.inl ⟨rfl, .refused _ result hversion h'⟩⟩
    · -- The version has not moved on, so nobody has stored the template yet.
      obtain rfl : T = S.old := by
        rcases hcase with hold | rfl
        · exact hold
        · exact absurd hversion (S.version_ne_of_moved S.moved_new hdiffers)
      rw [← S.differs hdiffers, createFor_of_ok S.built] at h'
      rw [← S.differs hdiffers] at hputs
      exact ⟨x', c', hstep, Or.inr (Or.inl ⟨rfl, hputs, _, h'⟩)⟩
  | creating o hnew h =>
    obtain ⟨x', c', hstep, ⟨rfl, h'⟩ | ⟨-, htaken, -⟩ | ⟨-, uid, hputs, hwinner⟩⟩ :=
      h.step_creating hsame
    · exact ⟨x', c', hstep, Or.inl ⟨rfl, .creating o hnew h'⟩⟩
    · rw [hvacant] at htaken
      cases htaken
    · exact ⟨x', c', hstep, Or.inr (Or.inr ⟨hnew, uid, hputs, hwinner⟩)⟩
  | refused o result hversion h =>
    rcases h.step_cases hsame with ⟨x', hstep, h'⟩ | hrest
    · exact ⟨x', c, hstep, Or.inl ⟨rfl, .refused o result hversion h'⟩⟩
    · exact ⟨x, c, Racer.step_of_done hrest, Or.inl ⟨rfl, .refused o result hversion h⟩⟩

end Early

/-! ## One step after something is provisioned -/

theorem held_old : S.Held S.old := ⟨.refl _, S.sound.versioned S.templated, Or.inl rfl⟩

/-- The request as it is stored is held like the one that was found. -/
theorem held_new : S.Held S.new where
  kin := S.new_kin
  versioned := by
    by_cases h : F.sameSpec S.spec S.old.spec
    · rw [S.same h]
      exact S.sound.versioned S.templated
    · rw [S.new_version h]
      rfl
  spec := Or.inr rfl

/-- `T` carries its template and `s` is provisioned for it. -/
structure Standing (c : Cluster) (T : Object t) (s : Object p) : Prop where
  unread : S.Unread c
  sound : c.Sound
  templated : c.find? t ⟨S.ns, S.name⟩ = some T
  held : S.Held T
  spec : T.spec = S.new.spec
  provisioned : c.find? p ⟨S.ns, S.name⟩ = some s
  owners : s.metadata.ownerReferences = some [S.new.controllerReference]

section Standing

variable {S} {time : String} {T : Object t} {s : Object p} {x : Racer (Option (Object t))}
  {c c' : Cluster} {o? : Option (Object t)} {s? : Option (Object p)} {created : Nat}

/-- Templates look the same after writes to anything else. -/
theorem Unread.puts {k : Kind} {stored : Object k} (h : S.Unread c) (hputs : c.Puts stored c')
    (hk : ¬ F.Sources k) : S.Unread c' := fun k' hk' =>
  (hputs.store k' fun e => hk (e ▸ hk')).trans (h k' hk')

/-- A report on a request that is held leaves everything standing. -/
theorem Standing.record (h : S.Standing c T s) {o : Object t} (ho : S.Held o)
    (hspec : o.spec = S.new.spec) {status : Option t.Status}
    (hputs : c.Puts (Store.successor T { o with status := status }) c') :
    S.Standing c' (Store.successor T { o with status := status }) s where
  unread := h.unread.puts hputs F.templated_not_source
  sound := hputs.sound h.sound rfl
  templated := hputs.find?_of_place (ho.kin.place.trans S.old_place)
  held := ⟨ho.kin.successor h.held.kin _ _, rfl, Or.inr hspec⟩
  spec := hspec
  provisioned := (hputs.find?_of_ne fun e => absurd e F.templated_ne_provisioned.symm).trans
    h.provisioned
  owners := h.owners

/-- So does a push. -/
theorem Standing.push (h : S.Standing c T s) {found : p.Spec}
    (hputs : c.Puts (Store.successor s { s with spec := found }) c') :
    S.Standing c' T (Store.successor s { s with spec := found }) where
  unread := h.unread.puts hputs F.provisioned_not_source
  sound := hputs.sound h.sound rfl
  templated := (hputs.find?_of_ne fun e => absurd e F.templated_ne_provisioned).trans h.templated
  held := h.held
  spec := h.spec
  provisioned :=
    have hplace : s.place = ⟨S.ns, S.name⟩ := h.sound.place h.provisioned
    hputs.find?_of_place hplace
  owners := h.owners

/-- A runner that is over stays so. -/
theorem At.step_over {result : Except Error (Option (Object t))}
    (h : S.At x (.done result) o? s? created) (hsame : S.Unread c) :
    ∃ x', x.step c = (x', c) ∧ S.At x' (.done result) o? s? created := by
  rcases h.step_cases hsame with hsilent | hrest
  · exact hsilent
  · exact ⟨x, Racer.step_of_done hrest, h⟩

/-- A pass that has something to record is over afterwards. What it saw, and records, is
present or its record is refused. -/
theorem At.step_recording {o : Object t} {status : t.Status}
    (h : S.At x (recording o status) o? s? created) (hc : S.Standing c T s) (ho : S.Held o)
    (hspec : T.version = o.version → o.spec = S.new.spec) :
    ∃ x' c' T', x.step c = (x', c') ∧ S.Standing c' T' s ∧
      ((T' = T ∧ S.At x' (recording o status) o? s? created) ∨
        ((∃ result, S.At x' (.done result) o? s? created) ∧
          (T' = T ∨ ∃ obj, T' = Store.successor T obj))) := by
  obtain ⟨result, hrecording⟩ := recording_eq o status
  have hask := h
  rw [hrecording] at hask
  rcases hask.step_write hc.unread nofun with ⟨x', hstep, h'⟩ | ⟨said, hstep, hlog⟩
  · rw [← hrecording] at h'
    exact ⟨x', c, T, hstep, hc, Or.inl ⟨rfl, h'⟩⟩
  have hserve : c.serve (.updateStatus t { o with status := some status }) =
      c.replace { o with status := some status } := rfl
  rw [hserve] at hstep hlog
  have hplace : Object.place { o with status := some status } = ⟨S.ns, S.name⟩ :=
    ho.kin.place.trans S.old_place
  have hversioned : o.version.isSome := ho.versioned
  have hT := hc.templated
  rw [← hplace] at hT
  rcases Cluster.replace_versioned_cases hT hversioned with
    ⟨-, e, hreplace⟩ | ⟨hversion, c', hreplace, hputs⟩
  · rw [hreplace] at hstep hlog
    exact ⟨_, c, T, hstep, hc, Or.inr ⟨⟨_, .here _, hlog⟩, Or.inl rfl⟩⟩
  · rw [hreplace] at hstep hlog
    exact ⟨_, c', _, hstep, hc.record ho (hspec hversion) hputs,
      Or.inr ⟨⟨_, .here _, hlog⟩, Or.inr ⟨_, rfl⟩⟩⟩

/-- **One step of the winner**: it records, at most. -/
theorem Winner.step (h : S.Winner x) (hc : S.Standing c T s) :
    ∃ x' c' T', x.step c = (x', c') ∧ S.Standing c' T' s ∧ S.Winner x' ∧
      (T' = T ∨ (∃ result o, S.At x' (.done result) (some o) none 1) ∧
        ∃ obj, T' = Store.successor T obj) := by
  cases h with
  | reporting o status h =>
    obtain ⟨x', c', T', hstep, hc', ⟨rfl, h'⟩ | ⟨⟨result, h'⟩, hT'⟩⟩ :=
      h.step_recording hc S.held_new fun _ => rfl
    · exact ⟨x', c', T', hstep, hc', .reporting o status h', Or.inl rfl⟩
    · exact ⟨x', c', T', hstep, hc', .finished o result h', hT'.imp_right fun h => ⟨⟨_, _, h'⟩, h⟩⟩
  | finished o result h =>
    obtain ⟨x', hstep, h'⟩ := h.step_over hc.unread
    exact ⟨x', c, T, hstep, hc, .finished o result h', Or.inl rfl⟩

theorem outcome_unpaired (hs : s.spec = S.desired.spec) : S.Outcome o? none s.spec where
  pushed := nofun
  kept _ := hs

/-- Where nothing has drifted, nothing is pushed. -/
theorem outcome_inSync {o : Object t} (hs : s.spec = S.desired.spec)
    (hsync : F.inSync o.spec s.spec) : S.Outcome (some o) (some s) s.spec where
  pushed ho _ hdrift := by
    obtain rfl := Option.some.inj ho
    exact absurd (hs ▸ hsync) hdrift
  kept _ := hs

/-- What is left after an object under control was found: a report, or a request of the
beginning to be pushed down. -/
theorem At.found_provisioned {o : Object t} (ho : S.Held o) (hc : S.Standing c T s)
    (hs : s.spec = S.desired.spec) (h : S.At x (F.proceed time o (some s)) (some o) (some s) 0) :
    S.LateOver s x ∨ S.Late time s x := by
  have hctl : s.metadata.isControlledBy o := S.new_kin.controls ho.kin S.old_name hc.owners
  by_cases hsync : F.inSync o.spec s.spec
  · rw [proceed_of_inSync time hctl hsync] at h
    have houtcome := outcome_inSync hs hsync
    rcases reads_report h.reads with ⟨result, hreads⟩ | ⟨status, hreads⟩
    · exact Or.inl ⟨result, _, _, houtcome, hreads, h.log⟩
    · exact Or.inr (.reporting o _ status ho houtcome ⟨hreads, h.log⟩)
  · rw [proceed_of_drift time hctl hsync] at h
    -- What carries its template is followed already.
    obtain rfl : o = S.old := by
      rcases ho.spec with hold | hspec
      · exact hold
      · rw [hspec, hs] at hsync
        exact absurd (F.inSync_build S.built) hsync
    exact Or.inr (.pushing (hs ▸ hsync) hs h)

/-- A runner that is to push has still to push, or has pushed and may have to report. -/
theorem At.step_pushing (h : S.At x (F.push time S.old s) (some S.old) (some s) 0)
    (hc : S.Standing c T s) (hdrift : ¬ F.inSync S.old.spec S.desired.spec)
    (hs : s.spec = S.desired.spec) :
    ∃ x' c' s', x.step c = (x', c') ∧ S.Standing c' T s' ∧
      (S.LateOver s' x' ∨ S.Late time s' x') := by
  rcases At.step_write h hc.unread nofun with ⟨x', hstep, h'⟩ | ⟨said, hstep, hlog⟩
  · exact ⟨x', c, s, hstep, hc, Or.inr (.pushing hdrift hs h')⟩
  obtain ⟨c', hreplace, hputs⟩ := hc.sound.replace_read hc.provisioned
    { s with spec := F.refresh S.old.spec s.spec } rfl
  have hserve : c.serve (.update p { s with spec := F.refresh S.old.spec s.spec }) =
      c.replace { s with spec := F.refresh S.old.spec s.spec } := rfl
  rw [hserve, hreplace] at hstep hlog
  refine ⟨_, c', _, hstep, hc.push hputs, ?_⟩
  have houtcome : S.Outcome (some S.old) (some s) (F.refresh S.old.spec s.spec) :=
    ⟨fun _ _ _ => by rw [hs], fun h => absurd ⟨rfl, rfl, hdrift⟩ h⟩
  rcases reads_report (F := F) (K := F.Sources) (c := S.start)
    (.bind_count (.writes p .update) fun _ => some <$> F.report time (S.old, _)) with
    ⟨result, hreads⟩ | ⟨status, hreads⟩
  · exact Or.inl ⟨result, _, _, houtcome, hreads, hlog⟩
  · exact Or.inr (.reporting S.old _ status S.held_old houtcome ⟨hreads, hlog⟩)

/-- **One step of a pass that is too late**: it finds out, or pushes down the request of
the beginning. -/
theorem Late.step (h : S.Late time s x) (hc : S.Standing c T s) (hmoved : S.Moved T) :
    ∃ x' c' T' s', x.step c = (x', c') ∧ S.Standing c' T' s' ∧
      (S.LateOver s' x' ∨ (S.Late time s' x' ∧ T' = T)) := by
  cases h with
  | starting hs h =>
    obtain ⟨x', hstep, h' | h'⟩ := h.step_starting hc.unread hc.templated
    · exact ⟨x', c, T, s, hstep, hc, Or.inr ⟨.starting hs h', rfl⟩⟩
    · exact ⟨x', c, T, s, hstep, hc, Or.inr ⟨.holding T hc.held hs h', rfl⟩⟩
  | holding o ho hs h =>
    rcases h.step_read hc.unread with ⟨x', hstep, h'⟩ | hstep
    · exact ⟨x', c, T, s, hstep, hc, Or.inr ⟨.holding o ho hs h', rfl⟩⟩
    rw [hc.provisioned] at hstep
    have hlog := h.log.snoc_provisioned F.templated_ne_provisioned (some s)
    refine ⟨_, c, T, s, hstep, hc, ?_⟩
    exact (At.found_provisioned ho hc hs ⟨.here _, hlog⟩).imp_right fun h => ⟨h, rfl⟩
  | storing hdiffers hs h =>
    obtain ⟨x', c', hstep, ⟨rfl, h'⟩ | ⟨rfl, -, result, h'⟩ | ⟨hversion, -, -⟩⟩ :=
      h.step_storing hc.unread hc.templated
    · exact ⟨x', c', T, s, hstep, hc, Or.inr ⟨.storing hdiffers hs h', rfl⟩⟩
    · exact ⟨x', c', T, s, hstep, hc, Or.inl ⟨result, _, _, outcome_unpaired hs, h'⟩⟩
    · -- The winner's template was stored before, so the write is stale.
      exact absurd hversion (S.version_ne_of_moved hmoved hdiffers)
  | creating o hs h =>
    obtain ⟨x', c', hstep, ⟨rfl, h'⟩ | ⟨rfl, -, result, h'⟩ | ⟨hvacant, -⟩⟩ :=
      h.step_creating hc.unread
    · exact ⟨x', c', T, s, hstep, hc, Or.inr ⟨.creating o hs h', rfl⟩⟩
    · exact ⟨x', c', T, s, hstep, hc, Or.inl ⟨result, _, _, outcome_unpaired hs, h'⟩⟩
    · rw [hc.provisioned] at hvacant
      cases hvacant
  | pushing hdrift hs h =>
    obtain ⟨x', c', s', hstep, hc', h'⟩ := h.step_pushing hc hdrift hs
    exact ⟨x', c', T, s', hstep, hc', h'.imp_right fun h => ⟨h, rfl⟩⟩
  | reporting o found status ho hs h =>
    -- A report on the object of the beginning is refused if that was rewritten since.
    have hspec : T.version = o.version → o.spec = S.new.spec := by
      intro hversion
      rcases ho.spec with rfl | hnew
      · exact hmoved.resolve_right fun h => h hversion
      · exact hnew
    obtain ⟨x', c', T', hstep, hc', ⟨rfl, h'⟩ | ⟨⟨result, h'⟩, -⟩⟩ := h.step_recording hc ho hspec
    · exact ⟨x', c', T', s, hstep, hc', Or.inr ⟨.reporting o found status ho hs h', rfl⟩⟩
    · exact ⟨x', c', T', s, hstep, hc', Or.inl ⟨result, _, _, hs, h'⟩⟩

end Standing

end Setting

end Flow

end ServiceTemplates
