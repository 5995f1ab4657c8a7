import ServiceTemplates.Proofs.Reconcile.Course
import ServiceTemplates.Proofs.Reconcile.Fits
import ServiceTemplates.Proofs.Reconcile.Setting

/-!
# What a disturbed pass leaves

Every write of a pass may be refused, or be done while its reply is lost. `Pass.Ends` says what a
pass comes to whatever becomes of its writes, and has one law for each way in which a pass goes on.
By these laws a disturbed pass either fails without having touched what is provisioned, or what
is provisioned follows the request, however the pass ends. Main statement: `Flow.pass_ends`.
-/

namespace ServiceTemplates

namespace Pass

variable {α β : Type} {K : Kind → Prop} {c c' : Cluster}

/-- Whether a pass ends on a cluster as `Q` says, whatever becomes of its writes. -/
structure Ends (p : Pass α) (c : Cluster) (Q : Except Error α → Cluster → Prop) : Prop where
  run : ∀ fates, Q (p.run Cluster.serveUnreliably (c, fates)).1
    (p.run Cluster.serveUnreliably (c, fates)).2.1

/-! ## How passes go on -/

variable {Q : Except Error α → Cluster → Prop}

theorem ends_done {result : Except Error α} (h : Q result c) : (done result).Ends c Q := by
  constructor
  intro fates
  exact h

/-- A request is answered as usual, or it is refused, with or without having been done. -/
theorem ends_ask {r : Request} {next : r.Reply → Pass α}
    (hanswered : (next (c.serve r).1).Ends (c.serve r).2 Q)
    (hrefused : ∀ e reply, r.refusal? e = some reply →
      (next reply).Ends c Q ∧ (next reply).Ends (c.serve r).2 Q) : (ask r next).Ends c Q := by
  constructor
  intro fates
  rw [run_ask]
  rcases c.serveUnreliably_cases r fates with ⟨rest, h⟩ | ⟨reply, c', rest, e, h, hreply, hc'⟩
  · rw [h]
    exact hanswered.run rest
  · obtain ⟨hundone, hdone⟩ := hrefused e reply hreply
    rw [h]
    rcases hc' with rfl | rfl
    · exact hundone.run rest
    · exact hdone.run rest

/-- A pass that only reads is not disturbed, and what follows depends on its result. -/
theorem ends_bind {p : Pass β} (hp : p.ReadsOnly K) {f : β → Pass α}
    (hok : ∀ b, (p.run Cluster.serve c).1 = .ok b → (f b).Ends c Q)
    (herror : ∀ e, (p.run Cluster.serve c).1 = .error e → Q (.error e) c) :
    (p >>= f).Ends c Q := by
  induction hp with
  | done result =>
    cases result with
    | ok b => exact hok b rfl
    | error e => exact ends_done (herror e rfl)
  | @ask r next here _ ih =>
    rw [run_ask, here.serve_snd] at hok herror
    apply ends_ask
    · rw [here.serve_snd]
      exact ih _ hok herror
    · intro e reply hreply
      cases r <;> first | exact here.elim | cases hreply

/-- Reading cannot be disturbed. -/
theorem ends_bind_ok {p : Pass β} (hp : p.ReadsOnly K) {b : β}
    (hb : (p.run Cluster.serve c).1 = .ok b) {f : β → Pass α} (h : (f b).Ends c Q) :
    (p >>= f).Ends c Q := by
  apply ends_bind hp
  · intro b' hb'
    obtain rfl : b = b' := Except.ok.inj (hb.symm.trans hb')
    exact h
  · intro e he
    rw [hb] at he
    cases he

/-- A pass goes on after a write, or fails with or without it. -/
theorem ends_attempt_bind {r : Request} {g : r.Reply → Except Error β} {reply : r.Reply} {b : β}
    {f : β → Pass α} (hserve : c.serve r = (reply, c')) (hb : g reply = .ok b)
    (hfails : ∀ e refusal, r.refusal? e = some refusal → g refusal = .error e)
    (h : (f b).Ends c' Q) (hundone : ∀ e, Q (.error e) c) (hlost : ∀ e, Q (.error e) c') :
    (Pass.attempt r g >>= f).Ends c Q := by
  apply ends_ask
  · rw [hserve]
    show ((Pass.done (g reply)).bind f).Ends c' Q
    rw [hb]
    exact h
  · intro e refusal hrefusal
    show ((Pass.done (g refusal)).bind f).Ends c Q ∧ ((Pass.done (g refusal)).bind f).Ends _ Q
    rw [hserve, hfails e refusal hrefusal]
    exact ⟨ends_done (hundone e), ends_done (hlost e)⟩

section Writes

variable {k : Kind} {obj stored : Object k} {f : Object k → Pass α}

/-- A creation is done, is refused, or is done and its reply is lost. -/
theorem ends_create_bind (hwrite : c.create obj = (.ok stored, c')) (h : (f stored).Ends c' Q)
    (hundone : ∀ e, Q (.error e) c) (hlost : ∀ e, Q (.error e) c') :
    (Pass.create obj >>= f).Ends c Q :=
  ends_attempt_bind (r := .create k obj) hwrite rfl (by rintro e refusal ⟨⟩; rfl) h hundone hlost

/-- So is a replacement. -/
theorem ends_update_bind (hwrite : c.replace obj = (.ok stored, c')) (h : (f stored).Ends c' Q)
    (hundone : ∀ e, Q (.error e) c) (hlost : ∀ e, Q (.error e) c') :
    (Pass.update obj >>= f).Ends c Q :=
  ends_attempt_bind (r := .update k obj) hwrite rfl (by rintro e refusal ⟨⟩; rfl) h hundone hlost

end Writes

end Pass

namespace Flow

variable {t p : Kind} {F : Flow t p} {key : ObjectKey} {c c₁ : Cluster} {o o₁ : Object t}
  {s : Object p}

/-! ## What is left of the request -/

/-- Whether an object is what a pass has made of `o` so far: it keeps its identity, and only where
nothing was provisioned its desired state is what templates make of it. -/
structure Resumes (F : Flow t p) (key : ObjectKey) (c : Cluster) (o o₁ : Object t) : Prop where
  identity : o.SameButVersion o₁
  spec : o₁.spec = o.spec ∨
    (c.find? p key = none ∧ ((F.resolve o).run Cluster.serve c).1 = .ok o₁.spec)

theorem Resumes.refl (F : Flow t p) (key : ObjectKey) (c : Cluster) (o : Object t) :
    F.Resumes key c o o :=
  ⟨.refl o, Or.inl rfl⟩

/-- A request that is reported on is still the one to resume from. -/
theorem Resumes.recorded (h : F.Resumes key c o o₁) (status : Option t.Status) :
    F.Resumes key c o (Store.successor o₁ { o₁ with status := status }) :=
  ⟨h.identity.trans (.successor o₁ o₁.spec status), h.spec⟩

/-- What was rewritten depends on the desired state of the request alone. -/
theorem Rewrites.congr {o' : Object t} {before : Option (Object p)} (h : F.Rewrites o₁ before s)
    (hspec : o'.spec = o₁.spec) : F.Rewrites o' before s := by
  cases h with
  | untouched same => exact .untouched same
  | pushed found spec => exact .pushed found (by rw [spec, hspec])
  | built vacant asked build spec => exact .built vacant (by rw [asked, hspec]) build spec

/-- How a disturbed pass leaves what was provisioned: it fails without having touched it, or
it ends in whatever way and what is provisioned follows the request. -/
inductive Ending (F : Flow t p) (o' : Object t) (before : Option (Object p)) :
    Except Error (Option (Object t)) → Option (Object p) → Prop
  | failed (e : Error) : Ending F o' before (.error e) before
  | followed (result : Except Error (Option (Object t))) (s' : Object p)
      (rewrites : F.Rewrites o' before s') (inSync : F.inSync o'.spec s'.spec) :
      Ending F o' before result (some s')

/-- What a disturbed pass leaves under a key under which it has found `o`. -/
structure Left (F : Flow t p) (key : ObjectKey) (c : Cluster) (o : Object t)
    (result : Except Error (Option (Object t))) (c' : Cluster) (o' : Object t) : Prop where
  sound : c'.Sound
  templated : c'.find? t key = some o'
  resumes : F.Resumes key c o o'
  ending : F.Ending o' (c.find? p key) result (c'.find? p key)

/-- A failure before anything provisioned is written. -/
theorem Left.of_failed (hc₁ : c₁.Sound) (ho₁ : c₁.find? t key = some o₁)
    (hresumes : F.Resumes key c o o₁) (hsame : c₁.find? p key = c.find? p key) (e : Error) :
    F.Left key c o (.error e) c₁ o₁ := by
  refine ⟨hc₁, ho₁, hresumes, ?_⟩
  rw [hsame]
  exact .failed e

/-- What fits the request has been left as it should. -/
theorem Left.of_fits (hc₁ : c₁.Sound) (hfits : F.Fits key c₁ o₁ s)
    (hresumes : F.Resumes key c o o₁) (hrewrites : F.Rewrites o₁ (c.find? p key) s)
    (result : Except Error (Option (Object t))) : F.Left key c o result c₁ o₁ := by
  refine ⟨hc₁, hfits.templated, hresumes, ?_⟩
  rw [hfits.provisioned]
  exact .followed result s hrewrites hfits.inSync

/-- What is provisioned afterwards was there before, or carries what was pushed down. -/
theorem Left.rewrites {result : Except Error (Option (Object t))} (h : F.Left key c o result c₁ o₁)
    (hs : c₁.find? p key = some s) : F.Rewrites o₁ (c.find? p key) s := by
  have hending := h.ending
  rw [hs] at hending
  generalize c.find? p key = before at hending ⊢
  cases hending with
  | failed e => exact .untouched rfl
  | followed _ _ rewrites inSync => exact rewrites

/-- A pass that does not fail leaves something provisioned that follows the request. -/
theorem Left.inSync {found : Option (Object t)} (h : F.Left key c o (.ok found) c₁ o₁) :
    ∃ s, c₁.find? p key = some s ∧ F.inSync o₁.spec s.spec := by
  have hending := h.ending
  generalize c₁.find? p key = after at hending ⊢
  cases hending with
  | followed _ s' rewrites inSync => exact ⟨s', rfl, inSync⟩

/-! ## Stage by stage -/

/-- Once the two fit, a pass only reports, and they fit whatever becomes of the report. -/
theorem report_ends (hc₁ : c₁.Sound) (hfits : F.Fits key c₁ o₁ s)
    (hresumes : F.Resumes key c o o₁) (hrewrites : F.Rewrites o₁ (c.find? p key) s)
    (time : String) :
    (some <$> F.report time (o₁, s)).Ends c₁
      fun result c' => ∃ o', F.Left key c o result c' o' := by
  have hhere := Left.of_fits hc₁ hfits hresumes hrewrites
  rcases F.report_cases time o₁ s with hreport | ⟨status, hreport⟩
  · rw [hreport]
    exact Pass.ends_done ⟨o₁, hhere _⟩
  · obtain ⟨result, hrecording⟩ := recording_eq o₁ status
    obtain ⟨c', hwrite, hputs⟩ :=
      hc₁.replace_read hfits.templated { o₁ with status := some status } rfl
    have hserve : c₁.serve (.updateStatus t { o₁ with status := some status }) =
        (.ok (Store.successor o₁ { o₁ with status := some status }), c') := hwrite
    have hthere := Left.of_fits (hputs.sound hc₁ rfl) (hfits.recorded hc₁ hputs)
      (hresumes.recorded (some status)) (hrewrites.congr rfl)
    rw [hreport, hrecording]
    apply Pass.ends_ask
    · rw [hserve]
      exact Pass.ends_done ⟨_, hthere _⟩
    · intro e reply _
      rw [hserve]
      exact ⟨Pass.ends_done ⟨_, hhere _⟩, Pass.ends_done ⟨_, hthere _⟩⟩

/-- Creating what is to be provisioned, and all that comes after it. -/
theorem createFor_ends (hc₁ : c₁.Sound) (ho₁ : c₁.find? t key = some o₁) (hname : key.name ≠ "")
    (hresumes : F.Resumes key c o o₁) (hvacant : c.find? p key = none)
    (hsame : c₁.find? p key = c.find? p key) (time : String) :
    (F.createFor o₁ >>= fun ready => some <$> F.report time ready).Ends c₁
      fun result c' => ∃ o', F.Left key c o result c' o' := by
  have hfailed := Left.of_failed hc₁ ho₁ hresumes hsame
  cases hbuild : F.build o₁ with
  | error e =>
    rw [createFor_of_error hbuild]
    exact Pass.ends_done ⟨o₁, hfailed e⟩
  | ok desired =>
    have hplace : desired.place = key :=
      Object.place_of_provisioned (hc₁.place ho₁) hname (F.build_metadata hbuild)
    have hfree : c₁.find? p desired.place = none := by rw [hplace, hsame, hvacant]
    obtain ⟨c', hwrite, hputs⟩ := c₁.create_of_none hfree
    have hc' := hputs.sound hc₁ rfl
    have hfits := Fits.created hc₁ ho₁ hname hbuild hputs
    have hrewrites : F.Rewrites o₁ (c.find? p key) (Store.stamp desired c₁.nextUid "1") :=
      .built hvacant rfl hbuild rfl
    rw [createFor_of_ok hbuild]
    apply Pass.ends_create_bind hwrite
    · apply Pass.ends_bind_ok (K := fun _ => True) (.count _) rfl
      exact report_ends hc' hfits hresumes hrewrites time
    · intro e
      exact ⟨o₁, hfailed e⟩
    · intro e
      exact ⟨o₁, Left.of_fits hc' hfits hresumes hrewrites _⟩

/-- What follows where nothing is provisioned yet. -/
theorem proceed_none_ends (hc : c.Sound) (ho : c.find? t key = some o) (hname : key.name ≠ "")
    (hvacant : c.find? p key = none) (time : String) :
    (F.proceed time o none).Ends c fun result c' => ∃ o', F.Left key c o result c' o' := by
  have hfailed := Left.of_failed hc ho (.refl F key c o) rfl
  rw [proceed_none, storeApplied, Pass.bind_assoc]
  apply Pass.ends_bind (F.resolve_readsOnly o)
  · intro spec hspec
    by_cases hsameSpec : F.sameSpec spec o.spec
    · rw [if_pos hsameSpec]
      exact createFor_ends hc ho hname (.refl F key c o) hvacant rfl time
    · rw [if_neg hsameSpec]
      obtain ⟨c', hwrite, hputs⟩ := hc.replace_read ho { o with spec := spec } rfl
      have hc' := hputs.sound hc rfl
      have hplace : o.place = key := hc.place ho
      have ho' := hputs.find?_of_place hplace
      have hsame : c'.find? p key = c.find? p key :=
        hputs.find?_of_ne fun e => absurd e F.templated_ne_provisioned.symm
      have hresumes : F.Resumes key c o (Store.successor o { o with spec := spec }) :=
        ⟨.successor o spec o.status, Or.inr ⟨hvacant, hspec⟩⟩
      apply Pass.ends_update_bind hwrite
      · exact createFor_ends hc' ho' hname hresumes hvacant hsame time
      · intro e
        exact ⟨o, hfailed e⟩
      · intro e
        exact ⟨_, Left.of_failed hc' ho' hresumes hsame e⟩
  · intro e _
    exact ⟨o, hfailed e⟩

/-- What follows where something is provisioned already. -/
theorem proceed_some_ends (hc : c.Sound) (ho : c.find? t key = some o)
    (hs : c.find? p key = some s) (time : String) :
    (F.proceed time o (some s)).Ends c fun result c' => ∃ o', F.Left key c o result c' o' := by
  have hresumes := Resumes.refl F key c o
  have hfailed := Left.of_failed hc ho hresumes rfl
  by_cases hctl : s.metadata.isControlledBy o
  · by_cases hsync : F.inSync o.spec s.spec
    · rw [proceed_of_inSync time hctl hsync]
      exact report_ends hc ⟨ho, hs, hctl, hsync⟩ hresumes (.untouched hs) time
    · obtain ⟨c', hwrite, hputs⟩ :=
        hc.replace_read hs { s with spec := F.refresh o.spec s.spec } rfl
      have hc' := hputs.sound hc rfl
      have hfits := Fits.pushed hc ho hs hctl hputs
      have hrewrites : F.Rewrites o (c.find? p key)
          (Store.successor s { s with spec := F.refresh o.spec s.spec }) := .pushed hs rfl
      rw [proceed_of_drift time hctl hsync]
      apply Pass.ends_update_bind hwrite
      · apply Pass.ends_bind_ok (K := fun _ => True) (.count _) rfl
        exact report_ends hc' hfits hresumes hrewrites time
      · intro e
        exact ⟨o, hfailed e⟩
      · intro e
        exact ⟨o, Left.of_fits hc' hfits hresumes hrewrites _⟩
  · rw [proceed_of_foreign time hctl]
    apply Pass.ends_bind_ok (K := fun _ => True) (.count _) rfl
    apply Pass.ends_bind_ok (K := fun _ => True) (.warn _ _ _) rfl
    exact Pass.ends_done ⟨o, hfailed _⟩

/-- **What a disturbed pass leaves.** Whatever becomes of the writes of a pass, it fails without
having touched what is provisioned, or what is provisioned follows the request afterwards. -/
theorem pass_ends (hc : c.Sound) {keyText ns name : String}
    (hkey : wellFormedKey? keyText = some (ns, name)) (ho : c.find? t ⟨ns, name⟩ = some o)
    (time : String) :
    (F.pass time keyText).Ends c fun result c' => ∃ o', F.Left ⟨ns, name⟩ c o result c' o' := by
  have hfound : ∀ k, ((Pass.cached k (some ns) name).run Cluster.serve c).1 =
      .ok (c.find? k ⟨ns, name⟩) := fun _ => rfl
  rw [pass_of_wellFormed hkey]
  apply Pass.ends_bind_ok (K := fun _ => True) (.cached trivial _ _) (hfound t)
  rw [ho]
  apply Pass.ends_bind_ok (K := fun _ => True) (.cached trivial _ _) (hfound p)
  cases hs : c.find? p ⟨ns, name⟩ with
  | none => exact proceed_none_ends hc ho (wellFormedKey?_ne hkey).2 hs time
  | some s => exact proceed_some_ends hc ho hs time

end Flow

end ServiceTemplates
