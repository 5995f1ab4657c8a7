import ServiceTemplates.Proofs.Reconcile.Flow

/-!
# Up to dates

Two passes that differ in their time only leave the same behind, except for the times at
which statuses were recorded. Main statement: `Flow.undatedEnd_proceed`.
-/

namespace ServiceTemplates

variable {k : Kind}

/-! ## Objects and clusters without dates -/

/-- An object without the time at which its status was recorded. -/
def Object.undated (obj : Object k) : Object k := { obj with status := obj.status.map k.undated }

/-- What a cluster holds, up to the times at which statuses were recorded. -/
def Cluster.undated (c : Cluster) (k : Kind) (key : ObjectKey) : Option (Object k) :=
  (c.find? k key).map Object.undated

/-- The end of a pass and what it leaves, up to dates. -/
def undatedEnd (ending : Except Error (Option (Object k)) × Cluster) :
    Except Error (Option (Object k)) × ((k : Kind) → ObjectKey → Option (Object k)) :=
  (ending.1.map (Option.map Object.undated), ending.2.undated)

theorem Object.place_undated (obj : Object k) : obj.undated.place = obj.place := rfl

/-- Objects that differ in their dates only have everything else in common. -/
theorem undated_eq_iff {obj₁ obj₂ : Object k} : obj₁.undated = obj₂.undated ↔
    obj₁.metadata = obj₂.metadata ∧ obj₁.spec = obj₂.spec ∧
      obj₁.status.map k.undated = obj₂.status.map k.undated := by
  simp [Object.undated]

/-- A replacement carries no date but that of its status. -/
theorem undated_successor (current : Object k) {obj₁ obj₂ : Object k}
    (h : obj₁.undated = obj₂.undated) :
    (Store.successor current obj₁).undated = (Store.successor current obj₂).undated := by
  obtain ⟨hm, hspec, hstatus⟩ := undated_eq_iff.1 h
  exact undated_eq_iff.2 ⟨by simp only [Store.successor, hm], hspec, hstatus⟩

/-- Clusters into which the same was put but for dates are the same but for dates. -/
theorem Cluster.Puts.undated_congr {c c₁ c₂ : Cluster} {stored₁ stored₂ : Object k}
    (h₁ : c.Puts stored₁ c₁) (h₂ : c.Puts stored₂ c₂) (h : stored₁.undated = stored₂.undated) :
    c₁.undated = c₂.undated := by
  have hplace : stored₁.place = stored₂.place := by
    rw [← stored₁.place_undated, h, stored₂.place_undated]
  funext k' key
  by_cases hk : k' = k
  · subst hk
    rw [Cluster.undated, Cluster.undated, h₁.find?, h₂.find?, hplace]
    split
    · exact congrArg some h
    · rfl
  · rw [Cluster.undated, Cluster.undated, h₁.find?_of_ne fun e => absurd e hk,
      h₂.find?_of_ne fun e => absurd e hk]

/-! ## Recording with another date -/

/-- Whether a replacement is refused depends on the metadata alone. -/
theorem Cluster.replace_congr (c : Cluster) {obj₁ obj₂ : Object k}
    (hm : obj₁.metadata = obj₂.metadata) :
    (∃ e, c.replace obj₁ = (.error e, c) ∧ c.replace obj₂ = (.error e, c)) ∨
    ∃ current c₁ c₂, c.replace obj₁ = (.ok (Store.successor current obj₁), c₁) ∧
      c.replace obj₂ = (.ok (Store.successor current obj₂), c₂) ∧
      c.Puts (Store.successor current obj₁) c₁ ∧ c.Puts (Store.successor current obj₂) c₂ := by
  have hplace : obj₁.place = obj₂.place := congrArg ObjectKey.ofMetadata hm
  have hstale : ∀ current, Store.staleness? current obj₁ = Store.staleness? current obj₂ := by
    intro current
    simp only [Store.staleness?, hm]
  cases h : c.find? k obj₁.place with
  | none =>
    refine Or.inl ⟨_, c.replace_of_none h, ?_⟩
    rw [hplace]
    exact c.replace_of_none (hplace ▸ h)
  | some current =>
    cases he : Store.staleness? current obj₁ with
    | some e =>
      exact Or.inl ⟨e, c.replace_of_stale h he, c.replace_of_stale (hplace ▸ h) (hstale _ ▸ he)⟩
    | none =>
      obtain ⟨c₁, hr₁, hputs₁⟩ := c.replace_of_fresh h he
      obtain ⟨c₂, hr₂, hputs₂⟩ := c.replace_of_fresh (hplace ▸ h) (hstale _ ▸ he)
      exact Or.inr ⟨current, c₁, c₂, hr₁, hr₂, hputs₁, hputs₂⟩

theorem run_recordStatus (c : Cluster) (obj : Object k) :
    (recordStatus obj).run Cluster.serve c =
      (match (c.replace obj).1 with
        | .ok written => pure written
        | .error e => if e.isNotFound then pure obj else Pass.fail e :
          Pass (Object k)).run Cluster.serve (c.replace obj).2 := rfl

/-- Recording with another date ends the same but for dates. -/
theorem undatedEnd_recordStatus (c : Cluster) {obj₁ obj₂ : Object k}
    (h : obj₁.undated = obj₂.undated) :
    undatedEnd ((some <$> recordStatus obj₁).run Cluster.serve c) =
      undatedEnd ((some <$> recordStatus obj₂).run Cluster.serve c) := by
  rw [Pass.run_map, Pass.run_map]
  rcases c.replace_congr (undated_eq_iff.1 h).1 with
    ⟨e, h₁, h₂⟩ | ⟨current, c₁, c₂, h₁, h₂, hputs₁, hputs₂⟩
  · rw [run_recordStatus, run_recordStatus, h₁, h₂]
    dsimp only
    split
    · exact Prod.ext (congrArg (Except.ok ∘ some) h) rfl
    · rfl
  · rw [run_recordStatus, run_recordStatus, h₁, h₂]
    have hsucc := undated_successor current h
    exact Prod.ext (congrArg (Except.ok ∘ some) hsucc) (hputs₁.undated_congr hputs₂ hsucc)

/-! ## The time of a pass only shows in dates -/

namespace Flow

variable {t p : Kind} (F : Flow t p)

/-- Whether there is something to report does not depend on the date. -/
theorem reports_congr (current : Option t.Status) {observed observed' : t.Status}
    (h : t.undated observed = t.undated observed') :
    reports current observed = reports current observed' := by
  simp only [reports, h]

/-- Neither does anything else that comes of a report. -/
theorem undatedEnd_report (c : Cluster) (time time' : String) (ready : Object t × Object p) :
    undatedEnd ((some <$> F.report time ready).run Cluster.serve c) =
      undatedEnd ((some <$> F.report time' ready).run Cluster.serve c) := by
  have hobserved := F.undated_observe ready.1.spec ready.2 time time'
  unfold Flow.report
  dsimp only
  rw [reports_congr ready.1.status hobserved]
  split
  · rfl
  · exact undatedEnd_recordStatus c (undated_eq_iff.2 ⟨rfl, rfl, congrArg some hobserved⟩)

/-- The time of a pass only shows in dates. -/
theorem undatedEnd_proceed (c : Cluster) (time time' : String) (o : Object t)
    (provisioned : Option (Object p)) :
    undatedEnd ((F.proceed time o provisioned).run Cluster.serve c) =
      undatedEnd ((F.proceed time' o provisioned).run Cluster.serve c) := by
  unfold Flow.proceed
  rw [Pass.run_bind, Pass.run_bind]
  obtain ⟨result, c'⟩ := (F.prepare o provisioned).run Cluster.serve c
  cases result with
  | ok ready => exact F.undatedEnd_report c' time time' ready
  | error e => rfl

end Flow

end ServiceTemplates
