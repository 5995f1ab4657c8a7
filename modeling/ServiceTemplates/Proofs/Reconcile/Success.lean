import ServiceTemplates.Proofs.Reconcile.Effect
import ServiceTemplates.Proofs.Reconcile.Fits

/-!
# What a pass leaves that succeeds

A pass that ends with a templated object leaves it, what is provisioned for it and the
report on it in line, and touches nothing else. Main statements: `Flow.run_first` for a key
under which nothing is provisioned yet, `Flow.run_existing` for one under which something is,
and `Flow.pass_leaves` for every key.
-/

namespace ServiceTemplates

variable {t p : Kind}

namespace Flow

/-! ## Objects in line -/

/-- Whether a templated object, what is provisioned for it and the report on it fit
together. -/
structure InLine (F : Flow t p) (key : ObjectKey) (c : Cluster) (o : Object t) (s : Object p) :
    Prop where
  templated : c.find? t key = some o
  provisioned : c.find? p key = some s
  controlled : s.metadata.isControlledBy o
  inSync : F.inSync o.spec s.spec
  reported : ∀ time, reports o.status (F.observe o.spec s time)

variable {F : Flow t p} {key ns name : String} {c : Cluster} {o : Object t} {s : Object p}

theorem Fits.inLine {place : ObjectKey} (h : F.Fits place c o s)
    (hreported : ∀ time, reports o.status (F.observe o.spec s time)) : F.InLine place c o s :=
  ⟨h.templated, h.provisioned, h.controlled, h.inSync, hreported⟩

theorem InLine.fits {place : ObjectKey} (h : F.InLine place c o s) : F.Fits place c o s :=
  ⟨h.templated, h.provisioned, h.controlled, h.inSync⟩

/-- For what is in line nothing is to be done. -/
theorem InLine.run_pass (h : F.InLine ⟨ns, name⟩ c o s)
    (hkey : wellFormedKey? key = some (ns, name)) (time : String) :
    (F.pass time key).run Cluster.serve c = (.ok (some o), c) := by
  have hreport : F.report time (o, s) = pure o := if_pos (h.reported time)
  rw [Flow.run_pass hkey h.templated, h.provisioned, h.fits.proceed_eq, hreport]
  rfl

/-- What a pass leaves that started from `c` and `o` and succeeded. -/
structure Leaves (F : Flow t p) (key : ObjectKey) (c : Cluster) (o : Object t) (c' : Cluster)
    (o' : Object t) (s' : Object p) : Prop where
  sound : c'.Sound
  inLine : F.InLine key c' o' s'
  metadata : o.SameButVersion o'
  beyond : Cluster.AgreesBeyond t p key c c'

/-- What is stored of a template changes the version of the metadata only. -/
theorem stored_sameButVersion (F : Flow t p) (o : Object t) (spec : t.Spec) :
    o.SameButVersion (F.stored o spec) := by
  unfold stored
  split
  · exact .refl o
  · exact .successor o spec o.status

theorem reported_sameButVersion (F : Flow t p) (time : String) (o : Object t) (s : Object p) :
    o.SameButVersion (F.reported time o s) := by
  unfold reported
  split
  · exact .refl o
  · exact .successor o o.spec _

/-- A report leaves the desired state alone. -/
theorem reported_spec (F : Flow t p) (time : String) (o : Object t) (s : Object p) :
    (F.reported time o s).spec = o.spec := by
  unfold reported
  split <;> rfl

/-- A pass leaves a templated object with its identity, and with its spec or the one that was
resolved. -/
theorem effect_templated (F : Flow t p) (time uid : String)
    (resolve : Object t → Except Error t.Spec) (o : Object t) (found : Option (Object p)) :
    ∃ o', (F.effect time uid resolve (some o) found).templated = some o' ∧ o.SameButVersion o' ∧
      (o'.spec = o.spec ∨ resolve o = .ok o'.spec) := by
  cases found with
  | none =>
    show ∃ o', (F.provisioning time uid o (resolve o)).templated = some o' ∧ _
    cases hresolve : resolve o with
    | error e => exact ⟨o, rfl, .refl o, Or.inl rfl⟩
    | ok spec =>
      have hmetadata := F.stored_sameButVersion o spec
      have hstored : (F.stored o spec).spec = o.spec ∨ spec = (F.stored o spec).spec := by
        unfold stored
        split
        · exact Or.inl rfl
        · exact Or.inr rfl
      have hspec := hstored.imp_right fun h => congrArg (Except.ok (ε := Error)) h
      cases hbuild : F.build (F.stored o spec) with
      | error e => exact ⟨F.stored o spec, by rw [provisioning_of_unbuilt hbuild], hmetadata, hspec⟩
      | ok desired =>
        rw [provisioning_of_built hbuild]
        refine ⟨F.reported time (F.stored o spec) (Store.stamp desired uid "1"), rfl,
          hmetadata.trans (F.reported_sameButVersion time _ _), ?_⟩
        rw [reported_spec]
        exact hspec
  | some s =>
    by_cases hctl : s.metadata.isControlledBy o
    · rw [effect_of_controlled hctl]
      exact ⟨F.reported time o (F.pushed o s), rfl, F.reported_sameButVersion time o _,
        Or.inl (F.reported_spec time o _)⟩
    · rw [effect_of_foreign hctl]
      exact ⟨o, rfl, .refl o, Or.inl rfl⟩

/-- What was reported is not reported again at any other time. -/
theorem reports_reported (F : Flow t p) (time : String) (o : Object t) (s : Object p)
    (time' : String) :
    reports (F.reported time o s).status (F.observe (F.reported time o s).spec s time') := by
  have hobserved := F.undated_observe o.spec s time time'
  rw [reported_spec]
  unfold reported
  split
  · next hreports => rwa [← reports_congr o.status hobserved]
  · exact decide_eq_true hobserved

/-- A pass that ends with the report leaves in line what it reports on. -/
theorem Has.leaves {place : ObjectKey} {run : Except Error (Option (Object t)) × Cluster}
    {time : String} (h : Has place c run (F.reporting time o s)) (hctl : s.metadata.isControlledBy o)
    (hsync : F.inSync o.spec s.spec) : F.Leaves place c o run.2 (F.reported time o s) s where
  sound := h.sound
  inLine := {
    templated := h.templated
    provisioned := h.provisioned
    controlled := ((F.reported_sameButVersion time o s).controls s.metadata).trans hctl
    inSync := by rwa [reported_spec]
    reported := F.reports_reported time o s }
  metadata := F.reported_sameButVersion time o s
  beyond := h.beyond

/-! ## Where nothing is provisioned yet -/

/-- What comes of a pass that finds nothing provisioned for `o`. -/
inductive First (F : Flow t p) (place : ObjectKey) (c : Cluster) (o : Object t) :
    Except Error (Option (Object t)) × Cluster → Prop
  | unresolved {e : Error} (resolve : ((F.resolve o).run Cluster.serve c).1 = .error e) :
    First F place c o (.error e, c)
  | unbuilt {spec : t.Spec} {e : Error} {c' : Cluster}
    (resolve : ((F.resolve o).run Cluster.serve c).1 = .ok spec)
    (build : F.build (F.stored o spec) = .error e) : First F place c o (.error e, c')
  | provisioned {spec : t.Spec} {desired : Object p} {uid : String} {c' : Cluster} {o' : Object t}
    (resolve : ((F.resolve o).run Cluster.serve c).1 = .ok spec)
    (build : F.build (F.stored o spec) = .ok desired) (spec_eq : o'.spec = (F.stored o spec).spec)
    (leaves : F.Leaves place c o c' o' (Store.stamp desired uid "1")) :
    First F place c o (.ok (some o'), c')

/-- What is built for an object is controlled by it. -/
theorem controls_built {desired : Object p} (hbuild : F.build o = .ok desired)
    (hname : o.metadata.name = some name) (uid version : String) :
    (Store.stamp desired uid version).metadata.isControlledBy o :=
  Object.controls_provisioned hname (by rw [Store.stamp, F.build_metadata hbuild]; rfl)

/-- **How a pass ends that finds nothing provisioned.** -/
theorem run_first (hc : c.Sound) (hkey : wellFormedKey? key = some (ns, name))
    (ho : c.find? t ⟨ns, name⟩ = some o) (hs : c.find? p ⟨ns, name⟩ = none) (time : String) :
    F.First ⟨ns, name⟩ c o ((F.pass time key).run Cluster.serve c) := by
  have hname := (wellFormedKey?_ne hkey).2
  obtain ⟨uid, hhas⟩ := run_provisioning_has (F := F) hc hname ho hs time
  rw [Flow.run_pass hkey ho, hs]
  cases hspec : ((F.resolve o).run Cluster.serve c).1 with
  | error e =>
    rw [run_unresolved hspec]
    exact .unresolved hspec
  | ok spec =>
    have hmetadata := F.stored_sameButVersion o spec
    rw [hspec] at hhas
    generalize (F.proceed time o none).run Cluster.serve c = run at hhas
    obtain ⟨result, c'⟩ := run
    cases hbuild : F.build (F.stored o spec) with
    | error e =>
      rw [provisioning_of_unbuilt hbuild] at hhas
      obtain rfl : result = .error e := hhas.result
      exact .unbuilt hspec hbuild
    | ok desired =>
      rw [provisioning_of_built hbuild] at hhas
      obtain rfl : result = .ok (some _) := hhas.result
      have hstored := hmetadata.name_eq.trans (Object.name_of_place (hc.place ho) hname)
      have hsync : F.inSync (F.stored o spec).spec desired.spec := F.inSync_build hbuild
      have hleaves := hhas.leaves (controls_built hbuild hstored uid "1") hsync
      exact .provisioned hspec hbuild (F.reported_spec time _ _)
        { hleaves with metadata := hmetadata.trans hleaves.metadata }

/-! ## Where something is provisioned -/

/-- **How a pass ends that finds something under its control.** -/
theorem run_existing (hc : c.Sound) (hkey : wellFormedKey? key = some (ns, name))
    (ho : c.find? t ⟨ns, name⟩ = some o) (hs : c.find? p ⟨ns, name⟩ = some s)
    (hctl : s.metadata.isControlledBy o) (time : String) :
    ∃ c' o' s', (F.pass time key).run Cluster.serve c = (.ok (some o'), c') ∧ o'.spec = o.spec ∧
      s'.spec = (if F.inSync o.spec s.spec then s.spec else F.refresh o.spec s.spec) ∧
      F.Leaves ⟨ns, name⟩ c o c' o' s' := by
  have hhas := run_existing_has (F := F) hc ho hs hctl time
  rw [Flow.run_pass hkey ho, hs]
  refine ⟨_, _, F.pushed o s, Prod.ext hhas.result rfl, F.reported_spec time o _, ?_,
    hhas.leaves ?_ ?_⟩
  · unfold pushed
    split <;> rfl
  · unfold pushed
    split <;> exact hctl
  · unfold pushed
    split
    · next hsync => exact hsync
    · exact F.inSync_refresh o.spec s.spec

/-! ## Every key -/

/-- Whether there is nothing to do for a key. -/
def Idle (t : Kind) (key : String) (c : Cluster) : Prop :=
  ∀ ns name, wellFormedKey? key = some (ns, name) → c.find? t ⟨ns, name⟩ = none

/-- A pass that finds no request does nothing. -/
theorem Idle.run_pass (h : Idle t key c) (F : Flow t p) (time : String) :
    (F.pass time key).run Cluster.serve c = (.ok none, c) := by
  cases hkey : wellFormedKey? key with
  | none =>
    rw [pass_of_malformed hkey]
    rfl
  | some place =>
    obtain ⟨ns, name⟩ := place
    have hget : (c.store t).get? (some ns) name = none := h ns name hkey
    rw [pass_of_wellFormed hkey, Pass.run_cached_bind, hget]
    rfl

/-- **A pass that succeeds had nothing to do, or leaves things in line.** -/
theorem pass_leaves (hc : c.Sound) {time : String} {result : Option (Object t)} {c' : Cluster}
    (h : (F.pass time key).run Cluster.serve c = (.ok result, c')) :
    (Idle t key c ∧ result = none ∧ c' = c) ∨
      ∃ ns name o o' s', wellFormedKey? key = some (ns, name) ∧ result = some o' ∧
        F.Leaves ⟨ns, name⟩ c o c' o' s' := by
  by_cases hidle : Idle t key c
  · rw [hidle.run_pass] at h
    cases h
    exact Or.inl ⟨hidle, rfl, rfl⟩
  · simp only [Idle, Classical.not_forall] at hidle
    obtain ⟨ns, name, hkey, hfound⟩ := hidle
    obtain ⟨o, ho⟩ := Option.ne_none_iff_exists'.1 hfound
    refine Or.inr ⟨ns, name, o, ?_⟩
    cases hs : c.find? p ⟨ns, name⟩ with
    | none =>
      have hfirst := run_first (F := F) hc hkey ho hs time
      rw [h] at hfirst
      cases hfirst with
      | provisioned hresolve hbuild hspec hleaves => exact ⟨_, _, hkey, rfl, hleaves⟩
    | some s =>
      by_cases hctl : s.metadata.isControlledBy o
      · obtain ⟨c₁, o', s', hrun, -, -, hleaves⟩ := run_existing (F := F) hc hkey ho hs hctl time
        rw [hrun] at h
        cases h
        exact ⟨o', s', hkey, rfl, hleaves⟩
      · rw [Flow.run_pass hkey ho, hs, proceed_of_foreign time hctl] at h
        cases h

end Flow

end ServiceTemplates
