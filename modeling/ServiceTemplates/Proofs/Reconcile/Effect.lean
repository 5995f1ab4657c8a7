import ServiceTemplates.Proofs.Reconcile.Dates

/-!
# What a pass does, from what it finds

A pass that has a cluster to itself depends on the objects under its key and on what its
templates resolve to. `Flow.effect` computes from them, the time and an identity that is given
out how the pass ends and what stands under the key afterwards. Main statement:
`Flow.run_pass_has`, by which this and nothing else comes of the pass.
-/

namespace ServiceTemplates

variable {k t p : Kind}

/-! ## What stays as it was -/

/-- Whether two clusters hold the same objects, apart from those of two kinds under one
key. -/
def Cluster.AgreesBeyond (t p : Kind) (key : ObjectKey) (c c' : Cluster) : Prop :=
  ∀ k place, ¬ ((k = t ∨ k = p) ∧ place = key) → c'.find? k place = c.find? k place

namespace Cluster.AgreesBeyond

variable {key : ObjectKey} {c c₁ c₂ : Cluster}

theorem refl (c : Cluster) : AgreesBeyond t p key c c := fun _ _ _ => rfl

theorem trans (h₁ : AgreesBeyond t p key c c₁) (h₂ : AgreesBeyond t p key c₁ c₂) :
    AgreesBeyond t p key c c₂ :=
  fun k place hne => (h₂ k place hne).trans (h₁ k place hne)

end Cluster.AgreesBeyond

/-- What is put under the key shows nowhere else. -/
theorem Cluster.Puts.agreesBeyond {c c' : Cluster} {stored : Object k} {key : ObjectKey}
    (h : c.Puts stored c') (hk : k = t ∨ k = p) (hplace : stored.place = key) :
    AgreesBeyond t p key c c' :=
  fun _ _ hne => h.find?_of_ne fun hk' hplace' => hne ⟨hk' ▸ hk, hplace'.trans hplace⟩

/-- Whether two objects have the same metadata but for the version. -/
def Object.SameButVersion (o o' : Object k) : Prop :=
  o'.metadata = { o.metadata with resourceVersion := o'.metadata.resourceVersion }

namespace Object.SameButVersion

variable {o o₁ o₂ : Object k}

theorem refl (o : Object k) : o.SameButVersion o := rfl

/-- Later states of a later state are later states. -/
theorem trans (h₁ : o.SameButVersion o₁) (h₂ : o₁.SameButVersion o₂) : o.SameButVersion o₂ := by
  unfold SameButVersion at h₁ h₂ ⊢
  rw [h₁] at h₂
  exact h₂

/-- A replacement changes nothing of the metadata but the version. -/
theorem successor (o : Object k) (spec : k.Spec) (status : Option k.Status) :
    o.SameButVersion (Store.successor o ⟨o.metadata, spec, status⟩) := rfl

theorem name_eq (h : o.SameButVersion o₁) : o₁.metadata.name = o.metadata.name := by
  unfold SameButVersion at h
  rw [h]

/-- Whoever is controlled by an object is controlled by its later states. -/
theorem controls (h : o.SameButVersion o₁) (m : Metadata) :
    m.isControlledBy o₁ = m.isControlledBy o := by
  unfold SameButVersion at h
  simp only [Metadata.isControlledBy]
  rw [h]

end Object.SameButVersion

namespace Flow

/-! ## The effect -/

/-- How a pass ends and what stands under its key then. -/
structure Effect (t p : Kind) where
  result : Except Error (Option (Object t))
  templated : Option (Object t)
  provisioned : Option (Object p)

/-- The failure of a pass that finds something provisioned under another controller. -/
def unmanaged (s : Object p) : Error := .unmanagedResource p.name s.nsOrEmpty s.displayName

section Effect

variable (F : Flow t p)

/-- The templated object as it stands once its template is resolved. -/
def stored (o : Object t) (spec : t.Spec) : Object t :=
  if F.sameSpec spec o.spec then o else Store.successor o { o with spec := spec }

/-- The templated object as it stands once it is reported on. -/
def reported (time : String) (o : Object t) (s : Object p) : Object t :=
  if reports o.status (F.observe o.spec s time) then o
  else Store.successor o { o with status := some (F.observe o.spec s time) }

/-- What is provisioned as it stands once changes of the request are pushed down. -/
def pushed (o : Object t) (s : Object p) : Object p :=
  if F.inSync o.spec s.spec then s
  else Store.successor s { s with spec := F.refresh o.spec s.spec }

/-- The effect of reporting, which ends every pass that succeeds. -/
def reporting (time : String) (o : Object t) (s : Object p) : Effect t p where
  result := .ok (some (F.reported time o s))
  templated := some (F.reported time o s)
  provisioned := some s

def creating (time uid : String) (o : Object t) : Except Error (Object p) → Effect t p
  | .error e => ⟨.error e, some o, none⟩
  | .ok desired => F.reporting time o (Store.stamp desired uid "1")

def provisioning (time uid : String) (o : Object t) : Except Error t.Spec → Effect t p
  | .error e => ⟨.error e, some o, none⟩
  | .ok spec => F.creating time uid (F.stored o spec) (F.build (F.stored o spec))

/-- The effect of a pass on what it finds under its key. -/
def effect (time uid : String) (resolve : Object t → Except Error t.Spec) :
    Option (Object t) → Option (Object p) → Effect t p
  | none, found => ⟨.ok none, none, found⟩
  | some o, none => F.provisioning time uid o (resolve o)
  | some o, some s =>
    if s.metadata.isControlledBy o then F.reporting time o (F.pushed o s)
    else ⟨.error (unmanaged s), some o, some s⟩

variable {F} {o : Object t} {s : Object p}

/-- A request that cannot be built from is stored all the same. -/
theorem provisioning_of_unbuilt {spec : t.Spec} {e : Error}
    (h : F.build (F.stored o spec) = .error e) (time uid : String) :
    F.provisioning time uid o (.ok spec) = ⟨.error e, some (F.stored o spec), none⟩ := by
  show F.creating time uid (F.stored o spec) (F.build (F.stored o spec)) = _
  rw [h]
  rfl

/-- What was built has the first version when it is reported on. -/
theorem provisioning_of_built {spec : t.Spec} {desired : Object p}
    (h : F.build (F.stored o spec) = .ok desired) (time uid : String) :
    F.provisioning time uid o (.ok spec) =
      F.reporting time (F.stored o spec) (Store.stamp desired uid "1") := by
  show F.creating time uid (F.stored o spec) (F.build (F.stored o spec)) = _
  rw [h]
  rfl

theorem effect_of_controlled (h : s.metadata.isControlledBy o) (time uid : String)
    (resolve : Object t → Except Error t.Spec) :
    F.effect time uid resolve (some o) (some s) = F.reporting time o (F.pushed o s) := if_pos h

theorem effect_of_foreign (h : ¬ s.metadata.isControlledBy o) (time uid : String)
    (resolve : Object t → Except Error t.Spec) :
    F.effect time uid resolve (some o) (some s) = ⟨.error (unmanaged s), some o, some s⟩ := if_neg h

end Effect

/-- Whether a run from `c` has an effect at a key, and none elsewhere. -/
structure Has (place : ObjectKey) (c : Cluster)
    (run : Except Error (Option (Object t)) × Cluster) (e : Effect t p) : Prop where
  result : run.1 = e.result
  sound : run.2.Sound
  templated : run.2.find? t place = e.templated
  provisioned : run.2.find? p place = e.provisioned
  beyond : Cluster.AgreesBeyond t p place c run.2

/-- What was written before does not matter if it was written under the key. -/
theorem Has.after {place : ObjectKey} {c c' : Cluster}
    {run : Except Error (Option (Object t)) × Cluster} {e : Effect t p} (h : Has place c' run e)
    (hbefore : Cluster.AgreesBeyond t p place c c') : Has place c run e :=
  { h with beyond := hbefore.trans h.beyond }

variable {F : Flow t p} {place : ObjectKey} {key ns name : String} {c c' : Cluster} {o : Object t}
  {s : Object p}

/-! ## Stage by stage -/

/-- Reporting writes to the templated object, unless the report stands there already. -/
theorem run_report_has (hc : c.Sound) (ho : c.find? t place = some o)
    (hs : c.find? p place = some s) (time : String) :
    Has place c ((some <$> F.report time (o, s)).run Cluster.serve c) (F.reporting time o s) := by
  unfold reporting reported
  by_cases hreports : reports o.status (F.observe o.spec s time)
  · have hreport : F.report time (o, s) = pure o := if_pos hreports
    rw [hreport, if_pos hreports]
    exact ⟨rfl, hc, ho, hs, .refl c⟩
  · have hreport : F.report time (o, s) =
        recordStatus { o with status := some (F.observe o.spec s time) } := if_neg hreports
    -- The object was just looked up, so its version is the present one.
    obtain ⟨c', hwrite, hputs⟩ := hc.replace_read ho
      { o with status := some (F.observe o.spec s time) } rfl
    have hplace : o.place = place := hc.place ho
    rw [hreport, if_neg hreports, Pass.run_map, run_recordStatus, hwrite]
    exact {
      result := rfl
      sound := hputs.sound hc rfl
      templated := hputs.find?_of_place hplace
      provisioned := (hputs.find?_of_ne fun e => absurd e F.templated_ne_provisioned.symm).trans hs
      beyond := hputs.agreesBeyond (Or.inl rfl) hplace }

/-- Storing what was resolved writes to the templated object, unless it is nothing new. -/
theorem run_storeApplied {place : ObjectKey} (hc : c.Sound) (ho : c.find? t place = some o)
    (hs : c.find? p place = none) {spec : t.Spec}
    (hspec : ((F.resolve o).run Cluster.serve c).1 = .ok spec) :
    ∃ c', (F.storeApplied o).run Cluster.serve c = (.ok (F.stored o spec), c') ∧ c'.Sound ∧
      c'.find? t place = some (F.stored o spec) ∧ c'.find? p place = none ∧
      Cluster.AgreesBeyond t p place c c' ∧ (F.sameSpec spec o.spec → c' = c) := by
  rw [Flow.storeApplied, (F.resolve_readsOnly o).run_bind_ok hspec, stored]
  by_cases hsame : F.sameSpec spec o.spec
  · rw [if_pos hsame, if_pos hsame]
    exact ⟨c, rfl, hc, ho, hs, .refl c, fun _ => rfl⟩
  · obtain ⟨c', hwrite, hputs⟩ := hc.replace_read ho { o with spec := spec } rfl
    have hplace : o.place = place := hc.place ho
    rw [if_neg hsame, if_neg hsame]
    refine ⟨c', ?_, hputs.sound hc rfl, hputs.find?_of_place hplace, ?_,
      hputs.agreesBeyond (Or.inl rfl) hplace, fun h => absurd h hsame⟩
    · have hserve : c.serve (.update t { o with spec := spec }) = _ := hwrite
      rw [Pass.update, Pass.run_attempt, hserve]
      rfl
    · exact (hputs.find?_of_ne fun e => absurd e F.templated_ne_provisioned.symm).trans hs

/-- Creating what was built writes where nothing stood. -/
theorem run_createFor_has (hc : c.Sound) (hname : place.name ≠ "")
    (ho : c.find? t place = some o) (hs : c.find? p place = none) (time : String) :
    ∃ uid, Has place c
      ((F.createFor o >>= fun ready => some <$> F.report time ready).run Cluster.serve c)
      (F.creating time uid o (F.build o)) := by
  cases hbuild : F.build o with
  | error e =>
    rw [createFor_of_error hbuild]
    exact ⟨"", rfl, hc, ho, hs, .refl c⟩
  | ok desired =>
    have hbuilt : desired.place = place :=
      Object.place_of_provisioned (hc.place ho) hname (F.build_metadata hbuild)
    -- What is built for the request belongs under its key, where nothing stands.
    obtain ⟨c', hwrite, hputs⟩ := c.create_of_none (hbuilt ▸ hs)
    have ho' : c'.find? t place = some o :=
      (hputs.find?_of_ne fun e => absurd e F.templated_ne_provisioned).trans ho
    have hs' := hputs.find?_of_place hbuilt
    rw [createFor_of_ok hbuild, Pass.run_create_bind c hwrite, Pass.run_count_bind]
    have hreport := run_report_has (F := F) (hputs.sound hc rfl) ho' hs' time
    exact ⟨_, hreport.after (hputs.agreesBeyond (Or.inr rfl) hbuilt)⟩

/-! ## The whole pass -/

/-- A pass whose templates do not resolve leaves everything alone. -/
theorem run_unresolved {e : Error} (hspec : ((F.resolve o).run Cluster.serve c).1 = .error e)
    (time : String) : (F.proceed time o none).run Cluster.serve c = (.error e, c) := by
  rw [proceed_none, Flow.storeApplied, Pass.bind_assoc,
    (F.resolve_readsOnly o).run_bind_error hspec]

/-- The stages of a first pass one after the other. -/
theorem run_provisioning_has (hc : c.Sound) (hname : place.name ≠ "")
    (ho : c.find? t place = some o) (hs : c.find? p place = none) (time : String) :
    ∃ uid, Has place c ((F.proceed time o none).run Cluster.serve c)
      (F.provisioning time uid o ((F.resolve o).run Cluster.serve c).1) := by
  cases hspec : ((F.resolve o).run Cluster.serve c).1 with
  | error e =>
    rw [run_unresolved hspec]
    exact ⟨"", rfl, hc, ho, hs, .refl c⟩
  | ok spec =>
    obtain ⟨c₁, hstore, hc₁, ho₁, hs₁, hbeyond₁, -⟩ := run_storeApplied hc ho hs hspec
    rw [proceed_none, Pass.run_bind, hstore]
    obtain ⟨uid, hcreate⟩ := run_createFor_has (F := F) hc₁ hname ho₁ hs₁ time
    exact ⟨uid, hcreate.after hbeyond₁⟩

/-- Pushing changes down, and reporting. -/
theorem run_existing_has (hc : c.Sound) (ho : c.find? t place = some o)
    (hs : c.find? p place = some s) (hctl : s.metadata.isControlledBy o) (time : String) :
    Has place c ((F.proceed time o (some s)).run Cluster.serve c)
      (F.reporting time o (F.pushed o s)) := by
  unfold pushed
  by_cases hsync : F.inSync o.spec s.spec
  · rw [if_pos hsync, proceed_of_inSync time hctl hsync]
    exact run_report_has hc ho hs time
  · obtain ⟨c', hwrite, hputs⟩ := hc.replace_read hs { s with spec := F.refresh o.spec s.spec } rfl
    have hplace : s.place = place := hc.place hs
    have ho' : c'.find? t place = some o :=
      (hputs.find?_of_ne fun e => absurd e F.templated_ne_provisioned).trans ho
    rw [if_neg hsync, proceed_of_drift time hctl hsync, Pass.run_update_bind c hwrite,
      Pass.run_count_bind]
    have hreport := run_report_has (F := F) (hputs.sound hc rfl) ho'
      (hputs.find?_of_place hplace) time
    exact hreport.after (hputs.agreesBeyond (Or.inr rfl) hplace)

/-- **A pass has its effect and no other.** -/
theorem run_pass_has (hc : c.Sound) (hkey : wellFormedKey? key = some (ns, name)) (time : String) :
    ∃ uid, Has ⟨ns, name⟩ c ((F.pass time key).run Cluster.serve c)
      (F.effect time uid (fun o => ((F.resolve o).run Cluster.serve c).1)
        (c.find? t ⟨ns, name⟩) (c.find? p ⟨ns, name⟩)) := by
  cases ho : c.find? t ⟨ns, name⟩ with
  | none =>
    have hget : (c.store t).get? (some ns) name = none := ho
    rw [pass_of_wellFormed hkey, Pass.run_cached_bind, hget]
    exact ⟨"", rfl, hc, ho, rfl, .refl c⟩
  | some o =>
    rw [Flow.run_pass hkey ho]
    cases hs : c.find? p ⟨ns, name⟩ with
    | none => exact run_provisioning_has hc (wellFormedKey?_ne hkey).2 ho hs time
    | some s =>
      refine ⟨"", ?_⟩
      by_cases hctl : s.metadata.isControlledBy o
      · rw [effect_of_controlled hctl]
        exact run_existing_has hc ho hs hctl time
      · rw [effect_of_foreign hctl, proceed_of_foreign time hctl]
        exact ⟨rfl, hc, ho, hs, .refl c⟩

/-- Whatever the key, a pass leaves at a place what it found there or what its effect is. -/
theorem run_pass_at (F : Flow t p) (hc : c.Sound) (time key : String) (place : ObjectKey) :
    let left := ((F.pass time key).run Cluster.serve c).2
    (left.find? t place = c.find? t place ∧ left.find? p place = c.find? p place) ∨
    ∃ uid,
      let e := F.effect time uid (fun o => ((F.resolve o).run Cluster.serve c).1)
        (c.find? t place) (c.find? p place)
      left.find? t place = e.templated ∧ left.find? p place = e.provisioned := by
  intro left
  cases hkey : wellFormedKey? key with
  | none =>
    have hleft : left = c := congrArg (fun pass => (pass.run Cluster.serve c).2)
      (pass_of_malformed (F := F) hkey time)
    exact Or.inl ⟨by rw [hleft], by rw [hleft]⟩
  | some here =>
    obtain ⟨uid, hhas⟩ := run_pass_has (F := F) hc hkey time
    -- The effect is at the key; elsewhere nothing happens.
    by_cases hplace : place = ⟨here.1, here.2⟩
    · subst hplace
      exact Or.inr ⟨uid, hhas.templated, hhas.provisioned⟩
    · have hbeyond := fun k => hhas.beyond k place fun hand => hplace hand.2
      exact Or.inl ⟨hbeyond t, hbeyond p⟩

end Flow

end ServiceTemplates
