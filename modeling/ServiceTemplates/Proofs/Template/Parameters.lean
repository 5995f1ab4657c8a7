import ServiceTemplates.Proofs.Json.Overlay
import ServiceTemplates.Template.Merge

/-!
# Merging parameters

Parameters are plain if they are absent or an object; plain parameters can always be
merged, and the result is plain again. Other parameters can only be merged with none. Main
statements: `PlainParameters.merge` and `mergeParameters_again`, by which parameters that
were laid on top once change nothing when they are laid on top again.
-/

namespace ServiceTemplates

/-! ## Results in sequence -/

/-- A sequence succeeds exactly if both parts do. -/
theorem bind_eq_ok_iff {α β : Type} {x : Except Error α} {f : α → Except Error β} {b : β} :
    x >>= f = .ok b ↔ ∃ a, x = .ok a ∧ f a = .ok b := by
  cases x with
  | error e => simp [bind, Except.bind]
  | ok a => simp [bind, Except.bind]

/-- It fails exactly if one of the parts does, the second only after the first has succeeded. -/
theorem bind_eq_error_iff {α β : Type} {x : Except Error α} {f : α → Except Error β} {e : Error} :
    x >>= f = .error e ↔ x = .error e ∨ ∃ a, x = .ok a ∧ f a = .error e := by
  cases x with
  | error e => simp [bind, Except.bind]
  | ok a => simp [bind, Except.bind]

/-! ## Two documents -/

def PlainParameters (p : Option Document) : Prop := ∀ d, p = some d → d.json.isObject

theorem plainParameters_none : PlainParameters none := nofun

theorem plainParameters_some {d : Document} (h : d.json.isObject) : PlainParameters (some d) := by
  rintro _ ⟨⟩
  exact h

/-- Two objects are overlaid. -/
theorem mergeParameters_of_isObject {base upper : Document} (hb : base.json.isObject)
    (hu : upper.json.isObject) :
    mergeParameters (some base) (some upper) = .ok (some (base.overlay upper)) := by
  obtain ⟨fields, hfields⟩ := Json.isObject_iff.1 hb
  obtain ⟨upperFields, hupper⟩ := Json.isObject_iff.1 hu
  simp [mergeParameters, requireObject, hfields, hupper, bind, Except.bind, pure, Except.pure]

/-- What is said of a document that is no object; `side` says which of the two it was. -/
def notAnObject (side : String) (d : Document) : Error :=
  .malformedParameters (side ++ " parameters must be a JSON object, got " ++ d.json.typeName)

theorem requireObject_of_not_isObject {d : Document} (side : String) (h : ¬ d.json.isObject) :
    requireObject side d = .error (notAnObject side d) := by
  unfold requireObject
  split
  · next fields hfields => exact absurd (Json.isObject_iff.2 ⟨fields, hfields⟩) h
  · rfl

/-- The base is checked first. -/
theorem mergeParameters_of_base {base : Document} (hb : ¬ base.json.isObject) (upper : Document) :
    mergeParameters (some base) (some upper) = .error (notAnObject "base" base) := by
  simp [mergeParameters, requireObject_of_not_isObject "base" hb, bind, Except.bind]

/-- The overlay is checked if the base is an object. -/
theorem mergeParameters_of_upper {base upper : Document} (hb : base.json.isObject)
    (hu : ¬ upper.json.isObject) :
    mergeParameters (some base) (some upper) = .error (notAnObject "overlay" upper) := by
  obtain ⟨fields, hfields⟩ := Json.isObject_iff.1 hb
  have hbase : requireObject "base" base = .ok () := by rw [requireObject, hfields]; rfl
  simp [mergeParameters, hbase, requireObject_of_not_isObject "overlay" hu, bind, Except.bind]

/-- Two documents can only be merged if the lower one is an object. -/
theorem isObject_of_mergeParameters {base upper : Document} {merged : Option Document}
    (h : mergeParameters (some base) (some upper) = .ok merged) : base.json.isObject := by
  by_cases hb : base.json.isObject
  · exact hb
  · rw [mergeParameters_of_base hb] at h
    cases h

/-- Two documents can only be merged if the upper one is an object. -/
theorem upper_isObject_of_mergeParameters {base upper : Document} {merged : Option Document}
    (h : mergeParameters (some base) (some upper) = .ok merged) : upper.json.isObject := by
  by_cases hu : upper.json.isObject
  · exact hu
  · rw [mergeParameters_of_upper (isObject_of_mergeParameters h) hu] at h
    cases h

/-- Plain parameters can always be merged, and the merge is plain. -/
theorem PlainParameters.merge {base upper : Option Document} (hb : PlainParameters base)
    (hu : PlainParameters upper) :
    ∃ merged, mergeParameters base upper = .ok merged ∧ PlainParameters merged := by
  cases upper with
  | none => exact ⟨base, rfl, hb⟩
  | some upper =>
    cases base with
    | none => exact ⟨some upper, rfl, hu⟩
    | some base =>
      refine ⟨_, mergeParameters_of_isObject (hb _ rfl) (hu _ rfl), plainParameters_some ?_⟩
      exact (Json.isObject_overlay _ _).trans (hu _ rfl)

theorem PlainParameters.of_merge {base upper merged : Option Document}
    (hb : PlainParameters base) (hu : PlainParameters upper)
    (h : mergeParameters base upper = .ok merged) : PlainParameters merged := by
  obtain ⟨parameters, hmerge, hplain⟩ := hb.merge hu
  rw [hmerge] at h
  obtain rfl := Except.ok.inj h
  exact hplain

/-- Parameters that were laid on top change nothing when they are laid on top again. -/
theorem mergeParameters_again {base upper merged : Option Document} (hu : PlainParameters upper)
    (h : mergeParameters base upper = .ok merged) : mergeParameters merged upper = .ok merged := by
  cases upper with
  | none => rfl
  | some upper =>
    have hupper : upper.json.isObject := hu _ rfl
    cases base with
    | none =>
      obtain rfl : some upper = merged := Except.ok.inj h
      rw [mergeParameters_of_isObject hupper hupper]
      exact congrArg (Except.ok ∘ some) (Document.ext_json (Json.overlay_self upper.canonical))
    | some base =>
      rw [mergeParameters_of_isObject (isObject_of_mergeParameters h) hupper] at h
      obtain rfl := Except.ok.inj h
      rw [mergeParameters_of_isObject ((Json.isObject_overlay _ _).trans hupper) hupper]
      refine congrArg (Except.ok ∘ some) (Document.ext_json ?_)
      exact Json.overlay_overlay_self base.canonical upper.canonical

/-- A document that is no object can only be laid on top of nothing, and then not a second time. -/
theorem mergeParameters_refused {base merged : Option Document} {upper : Document}
    (hu : ¬ upper.json.isObject) (h : mergeParameters base (some upper) = .ok merged) :
    mergeParameters merged (some upper) = .error (notAnObject "base" upper) := by
  cases base with
  | none =>
    obtain rfl := Except.ok.inj h
    exact mergeParameters_of_base hu upper
  | some base => exact absurd (upper_isObject_of_mergeParameters h) hu

/-- Nothing but malformed parameters can be said of documents that cannot be merged. -/
theorem mergeParameters_error {base upper : Option Document} {e : Error}
    (h : mergeParameters base upper = .error e) : ∃ text, e = .malformedParameters text := by
  cases upper with
  | none => cases base <;> cases h
  | some upper =>
    cases base with
    | none => cases h
    | some base =>
      by_cases hb : base.json.isObject
      · by_cases hu : upper.json.isObject
        · rw [mergeParameters_of_isObject hb hu] at h
          cases h
        · rw [mergeParameters_of_upper hb hu] at h
          exact ⟨_, (Except.error.inj h).symm⟩
      · rw [mergeParameters_of_base hb] at h
        exact ⟨_, (Except.error.inj h).symm⟩

/-! ## Merging defaults -/

theorem InstanceDefaults.merge_map_parameters (base upper : InstanceDefaults) :
    (base.merge upper).map (·.parameters) = mergeParameters base.parameters upper.parameters := by
  unfold InstanceDefaults.merge
  cases mergeParameters base.parameters upper.parameters <;> rfl

theorem BindingDefaults.merge_map_parameters (base upper : BindingDefaults) :
    (base.merge upper).map (·.parameters) = mergeParameters base.parameters upper.parameters := by
  unfold BindingDefaults.merge
  cases mergeParameters base.parameters upper.parameters <;> rfl

/-- Defaults can be merged exactly if their parameters can, and the rest is merged field by field.
-/
theorem InstanceDefaults.merge_eq_ok_iff {base upper merged : InstanceDefaults} :
    base.merge upper = .ok merged ↔
      ∃ parameters, mergeParameters base.parameters upper.parameters = .ok parameters ∧
        ⟨base.plan.merge upper.plan, parameters,
          mergeSources upper.parameterSources base.parameterSources⟩ = merged := by
  unfold InstanceDefaults.merge
  rw [bind_eq_ok_iff]
  simp only [pure, Except.pure, Except.ok.injEq]

theorem BindingDefaults.merge_eq_ok_iff {base upper merged : BindingDefaults} :
    base.merge upper = .ok merged ↔
      ∃ parameters, mergeParameters base.parameters upper.parameters = .ok parameters ∧
        ⟨parameters, mergeSources upper.parameterSources base.parameterSources,
          mergeRenames base.secretKeys upper.secretKeys⟩ = merged := by
  unfold BindingDefaults.merge
  rw [bind_eq_ok_iff]
  simp only [pure, Except.pure, Except.ok.injEq]

end ServiceTemplates
