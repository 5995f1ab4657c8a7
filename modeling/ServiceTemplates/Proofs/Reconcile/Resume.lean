import ServiceTemplates.Proofs.Reconcile.Dates
import ServiceTemplates.Proofs.Reconcile.Fits

/-!
# Starting again from what is left

A pass writes up to three times. Where it was interrupted, the next one finds a request
that carries its template already, or a provisioned object that no request has been
reported on, and comes to the same end. Main statement: `Flow.resumable_pass`.
-/

namespace ServiceTemplates

variable {k : Kind}

/-- What is assumed of a cluster before a pass and holds after it. -/
structure Cluster.Orderly (c : Cluster) : Prop where
  sound : c.Sound
  plain : c.PlainTemplates

theorem Cluster.Orderly.puts {c c' : Cluster} {stored : Object k} (hc : c.Orderly)
    (h : c.Puts stored c') (hv : stored.version.isSome) (hk : ¬ k.IsTemplate) : c'.Orderly where
  sound := h.sound hc.sound hv
  plain := hc.plain.of_store_eq fun k' hk' => h.store k' fun e => hk (e ▸ hk')

namespace Flow

variable {t p : Kind} (F : Flow t p)

/-- Wherever `q` is interrupted on its way from `c`, a new pass for the key comes to the
same end up to dates. -/
def Resumable (key : String) (q : Pass (Option (Object t))) (c : Cluster) : Prop :=
  Pass.Resumable (fun time => F.pass time key) Cluster.Orderly undatedEnd q c

variable {F} {key ns name : String} {c : Cluster} {o : Object t} {s : Object p}

theorem templated_not_template (F : Flow t p) : ¬ t.IsTemplate := fun h =>
  F.templated_not_source (F.source_of_isTemplate h)

theorem provisioned_not_template (F : Flow t p) : ¬ p.IsTemplate := fun h =>
  F.provisioned_not_source (F.source_of_isTemplate h)

/-- A pass that starts at some other time ends as the one that is on its way would. -/
theorem undatedEnd_pass (hkey : wellFormedKey? key = some (ns, name))
    (ho : c.find? t ⟨ns, name⟩ = some o) {provisioned : Option (Object p)}
    (hs : c.find? p ⟨ns, name⟩ = provisioned) (time time' : String) :
    undatedEnd ((F.pass time' key).run Cluster.serve c) =
      undatedEnd ((F.proceed time o provisioned).run Cluster.serve c) := by
  rw [run_pass hkey ho, hs]
  exact F.undatedEnd_proceed c time' time o provisioned

/-- A templated object and what is provisioned for it fit together, in an orderly cluster. -/
structure Settled (F : Flow t p) (key : ObjectKey) (c : Cluster) (o : Object t) (s : Object p) :
    Prop extends F.Fits key c o s where
  orderly : c.Orderly

/-- What was reported is not reported again. -/
theorem report_of_status (o : Object t) (s : Object p) {time : String}
    (h : o.status = some (F.observe o.spec s time)) (time' : String) :
    F.report time' (o, s) = pure o := by
  have hreports : reports o.status (F.observe o.spec s time') := by
    simp [reports, h, F.undated_observe o.spec s time time']
  exact if_pos hreports

/-- What is settled can be reported on again. -/
theorem resumable_report (hkey : wellFormedKey? key = some (ns, name))
    (h : F.Settled ⟨ns, name⟩ c o s) (time : String) :
    F.Resumable key (some <$> F.report time (o, s)) c := by
  have hhere : ∀ time', undatedEnd ((F.pass time' key).run Cluster.serve c) =
      undatedEnd ((some <$> F.report time (o, s)).run Cluster.serve c) := by
    intro time'
    rw [undatedEnd_pass (F := F) hkey h.templated h.provisioned time, h.proceed_eq]
  -- Either nothing is left to do or one status is written, which is not written again.
  by_cases hreports : reports o.status (F.observe o.spec s time)
  · have hreport : F.report time (o, s) = pure o := if_pos hreports
    rw [hreport] at hhere ⊢
    exact Pass.resumable_done h.orderly hhere
  · have hreport : F.report time (o, s) =
        recordStatus { o with status := some (F.observe o.spec s time) } := if_neg hreports
    rw [hreport] at hhere ⊢
    obtain ⟨c', hwrite, hputs⟩ := h.orderly.sound.replace_read h.templated
      { o with status := some (F.observe o.spec s time) } rfl
    have h' : F.Settled ⟨ns, name⟩ c' _ s :=
      ⟨h.recorded h.orderly.sound hputs, h.orderly.puts hputs rfl F.templated_not_template⟩
    refine Pass.resumable_tryUpdateStatus_bind hwrite h.orderly hhere ?_
    refine Pass.resumable_done h'.orderly fun time' => ?_
    rw [undatedEnd_pass (F := F) hkey h'.templated h'.provisioned time, h'.proceed_eq,
      report_of_status _ _ rfl]
    rfl

/-- A push can be taken up: what was pushed is in sync. -/
theorem resumable_push (hkey : wellFormedKey? key = some (ns, name)) (hc : c.Orderly)
    (ho : c.find? t ⟨ns, name⟩ = some o) (hs : c.find? p ⟨ns, name⟩ = some s)
    (hctl : s.metadata.isControlledBy o) (time : String) :
    F.Resumable key (F.proceed time o (some s)) c := by
  by_cases hsync : F.inSync o.spec s.spec
  · have h : F.Settled ⟨ns, name⟩ c o s := ⟨⟨ho, hs, hctl, hsync⟩, hc⟩
    rw [h.proceed_eq]
    exact resumable_report hkey h time
  · have hhere := undatedEnd_pass (F := F) hkey ho hs time
    rw [proceed_of_drift time hctl hsync] at hhere ⊢
    obtain ⟨c', hwrite, hputs⟩ := hc.sound.replace_read hs
      { s with spec := F.refresh o.spec s.spec } rfl
    have h' : F.Settled ⟨ns, name⟩ c' o _ :=
      ⟨.pushed hc.sound ho hs hctl hputs, hc.puts hputs rfl F.provisioned_not_template⟩
    -- After the write the two fit together, and only the report is left.
    refine Pass.resumable_update_bind hwrite hc hhere ?_
    exact Pass.resumable_bind_ok (K := F.Sources) (.count _) rfl (resumable_report hkey h' time)

/-- A creation can be taken up: what was created is in sync. -/
theorem resumable_create (hkey : wellFormedKey? key = some (ns, name)) (hc : c.Orderly)
    (ho : c.find? t ⟨ns, name⟩ = some o) (hs : c.find? p ⟨ns, name⟩ = none) {spec : t.Spec}
    (hspec : ((F.resolve o).run Cluster.serve c).1 = .ok spec) (hsame : F.sameSpec spec o.spec)
    (time : String) :
    F.Resumable key (F.createFor o >>= fun ready => some <$> F.report time ready) c := by
  have hhere : ∀ time', undatedEnd ((F.pass time' key).run Cluster.serve c) =
      undatedEnd ((F.createFor o >>= fun ready =>
        some <$> F.report time ready).run Cluster.serve c) := by
    intro time'
    rw [undatedEnd_pass (F := F) hkey ho hs time, proceed_none, Flow.storeApplied,
      Pass.bind_assoc, (F.resolve_readsOnly o).run_bind_ok hspec, if_pos hsame]
    rfl
  cases hbuild : F.build o with
  | error e =>
    rw [createFor_of_error hbuild] at hhere ⊢
    exact Pass.resumable_done hc hhere
  | ok desired =>
    rw [createFor_of_ok hbuild] at hhere ⊢
    have hname := (wellFormedKey?_ne hkey).2
    have hbuilt : desired.place = ⟨ns, name⟩ :=
      Object.place_of_provisioned (hc.sound.place ho) hname (F.build_metadata hbuild)
    obtain ⟨c', hwrite, hputs⟩ := c.create_of_none (hbuilt ▸ hs)
    have h' : F.Settled ⟨ns, name⟩ c' o _ :=
      ⟨.created hc.sound ho hname hbuild hputs, hc.puts hputs rfl F.provisioned_not_template⟩
    refine Pass.resumable_create_bind hwrite hc hhere ?_
    exact Pass.resumable_bind_ok (K := F.Sources) (.count _) rfl (resumable_report hkey h' time)

/-- A first pass can be taken up: what it stored resolves to itself. -/
theorem resumable_first (hagain : F.ResolvesAgain) (hkey : wellFormedKey? key = some (ns, name))
    (hc : c.Orderly) (ho : c.find? t ⟨ns, name⟩ = some o) (hs : c.find? p ⟨ns, name⟩ = none)
    (time : String) : F.Resumable key (F.proceed time o none) c := by
  have hhere := undatedEnd_pass (F := F) hkey ho hs time
  rw [proceed_none, Flow.storeApplied, Pass.bind_assoc] at hhere ⊢
  cases hresolve : ((F.resolve o).run Cluster.serve c).1 with
  | error e =>
    rw [(F.resolve_readsOnly o).run_bind_error hresolve] at hhere
    exact Pass.resumable_bind_error (F.resolve_readsOnly o) hresolve hc hhere
  | ok spec =>
    refine Pass.resumable_bind_ok (F.resolve_readsOnly o) hresolve ?_
    rw [(F.resolve_readsOnly o).run_bind_ok hresolve] at hhere
    by_cases hsame : F.sameSpec spec o.spec
    · rw [if_pos hsame]
      exact resumable_create hkey hc ho hs hresolve hsame time
    · rw [if_neg hsame] at hhere ⊢
      obtain ⟨c', hwrite, hputs⟩ := hc.sound.replace_read ho { o with spec := spec } rfl
      have hplace : o.place = ⟨ns, name⟩ := hc.sound.place ho
      have hsources : ∀ k, F.Sources k → c'.store k = c.store k := fun k hk =>
        hputs.store k fun e => F.templated_not_source (e ▸ hk)
      -- A new pass resolves the stored request to itself, and so does not store it again.
      have hresolve' : ((F.resolve (Store.successor o { o with spec := spec })).run
          Cluster.serve c').1 = .ok spec := by
        rw [(F.resolve_readsOnly _).run_congr hsources]
        exact hagain hc.plain hresolve o.status rfl
      refine Pass.resumable_update_bind hwrite hc hhere ?_
      exact resumable_create hkey (hc.puts hputs rfl F.templated_not_template)
        (hputs.find?_of_place hplace)
        ((hputs.find?_of_ne fun e => absurd e F.templated_ne_provisioned.symm).trans hs)
        hresolve' (F.sameSpec_self spec) time

/-- **A pass can be started again wherever it was interrupted.** -/
theorem resumable_pass (hagain : F.ResolvesAgain) (hc : c.Orderly) (key time : String) :
    F.Resumable key (F.pass time key) c := by
  cases hkey : wellFormedKey? key with
  | none =>
    rw [pass_of_malformed hkey]
    exact Pass.resumable_done hc fun time' => by rw [pass_of_malformed hkey]; rfl
  | some place =>
    obtain ⟨ns, name⟩ := place
    rw [pass_of_wellFormed hkey]
    refine Pass.resumable_bind_ok (K := fun _ => True) (.cached trivial _ _) rfl ?_
    show F.Resumable key (F.visit time ns name (c.find? t ⟨ns, name⟩)) c
    cases ho : c.find? t ⟨ns, name⟩ with
    | none =>
      have hget : (c.store t).get? (some ns) name = none := ho
      refine Pass.resumable_done hc fun time' => ?_
      rw [pass_of_wellFormed hkey, Pass.run_cached_bind, hget]
      rfl
    | some o =>
      refine Pass.resumable_bind_ok (K := fun _ => True) (.cached trivial _ _) rfl ?_
      show F.Resumable key (F.proceed time o (c.find? p ⟨ns, name⟩)) c
      cases hs : c.find? p ⟨ns, name⟩ with
      | none => exact resumable_first hagain hkey hc ho hs time
      | some s =>
        by_cases hctl : s.metadata.isControlledBy o
        · exact resumable_push hkey hc ho hs hctl time
        · have hhere := undatedEnd_pass (F := F) hkey ho hs time
          rw [proceed_of_foreign time hctl] at hhere ⊢
          refine Pass.resumable_bind_ok (K := fun _ => True) (.count _) rfl ?_
          exact Pass.resumable_bind_ok (K := fun _ => True) (.warn _ _ _) rfl
            (Pass.resumable_done hc hhere)

end Flow

end ServiceTemplates
