import ServiceTemplates.Proofs.Template.Precedence
import ServiceTemplates.Proofs.Template.Renames

/-!
# What the merge of all tiers says

Field by field the last tier that says something counts: an identifier of the class or the plan
that is not empty, a list of parameter sources with an entry, a new name for a secret key. Only
the parameters are merged, and only they can be refused, if there are several documents and one of
them is no object. Main statement: `foldTemplates_fieldwise`.
-/

namespace ServiceTemplates

/-! ## Identifiers -/

namespace PlanReference

/-- The eight identifiers of a class and a plan. -/
def identifiers : List (PlanReference → Option String) :=
  [clusterClassExternalName, clusterClassName, classExternalName, className,
    clusterPlanExternalName, clusterPlanName, planExternalName, planName]

theorem map_identifiers (r : PlanReference) : identifiers.map (· r) = r.classes ++ r.plans := rfl

/-- A reference is empty if none of its identifiers says anything. -/
theorem isEmpty_iff_unset (r : PlanReference) :
    r.isEmpty ↔ ∀ f ∈ identifiers, ¬ isSet (f r) := by
  have hall : r.isEmpty = !(identifiers.map (· r)).any isSet := by
    rw [map_identifiers, List.any_append, Bool.not_or]
    rfl
  simp [hall]

/-- Identifier by identifier a merge takes the narrower one if it is set. -/
theorem merge_fromLast {Defaults : Type} (plan : Defaults → PlanReference) (base upper : Defaults)
    {f : PlanReference → Option String} (hf : f ∈ identifiers) :
    FromLast (fun i => isSet i) (fun t => f (plan t)) [base, upper]
      (f ((plan base).merge (plan upper))) := by
  unfold merge
  split
  · next hupper => exact .base ((isEmpty_iff_unset _).1 hupper f hf)
  split
  · next hbase =>
    have hunset := (isEmpty_iff_unset _).1 hbase f hf
    by_cases hset : isSet (f (plan upper))
    · exact .upper hset
    · exact .neither hunset hset hset
  · have hpick : FromLast (fun i => isSet i) (fun t => f (plan t)) [base, upper]
        (pick (f (plan base)) (f (plan upper))) := by
      unfold pick
      split
      · next hset => exact .upper hset
      · next hset => exact .base hset
    simp only [identifiers, List.mem_cons, List.not_mem_nil, or_false] at hf
    rcases hf with rfl | rfl | rfl | rfl | rfl | rfl | rfl | rfl <;> exact hpick

end PlanReference

/-! ## Parameter sources -/

/-- Sources come from the upper tier, if that has any. -/
theorem mergeSources_fromLast {Defaults : Type} (sources : Defaults → List ParameterSource)
    (base upper : Defaults) :
    FromLast (· ≠ []) sources [base, upper] (mergeSources (sources upper) (sources base)) := by
  unfold mergeSources
  split
  · next h => exact .base fun hne => hne (List.isEmpty_iff.1 h)
  · next h => exact .upper fun hnil => h (List.isEmpty_iff.2 hnil)

/-! ## Parameters -/

/-- Whether several documents are to be merged and one of them is no object. -/
def Clashing (docs : List Document) : Prop := 2 ≤ docs.length ∧ ∃ d ∈ docs, ¬ d.json.isObject

/-- What the parameter documents of some tiers come to. -/
inductive ComeTo : List Document → Option Document → Prop where
  | nothing : ComeTo [] none
  | single (d : Document) : ComeTo [d] (some d)
  | several {docs : List Document} {merged : Option Document} (length : 2 ≤ docs.length)
      (merge : mergeAll docs = .ok merged) : ComeTo docs merged

/-- A document that is no object cannot be merged with any other. -/
theorem foldlM_mergeParameters_error {base : Document} {docs : List Document}
    (h : (¬ base.json.isObject ∧ docs ≠ []) ∨ ∃ d ∈ docs, ¬ d.json.isObject) :
    ∃ text, docs.foldlM (fun merged d => mergeParameters merged (some d)) (some base) =
      .error (.malformedParameters text) := by
  induction docs generalizing base with
  | nil => simp at h
  | cons d docs ih =>
    rw [List.foldlM_cons]
    by_cases hb : base.json.isObject
    · by_cases hd : d.json.isObject
      · rw [mergeParameters_of_isObject hb hd]
        exact ih (Or.inr (by simpa [hb, hd] using h))
      · rw [mergeParameters_of_upper hb hd]
        exact ⟨_, rfl⟩
    · rw [mergeParameters_of_base hb]
      exact ⟨_, rfl⟩

/-- Documents that clash cannot be merged. -/
theorem mergeAll_of_clashing {docs : List Document} (h : Clashing docs) :
    ∃ text, mergeAll docs = .error (.malformedParameters text) := by
  obtain ⟨hlength, d, hmem, hd⟩ := h
  match docs with
  | base :: next :: rest =>
    suffices hbase : (¬ base.json.isObject ∧ next :: rest ≠ []) ∨
        ∃ d ∈ next :: rest, ¬ d.json.isObject from foldlM_mergeParameters_error hbase
    rcases List.mem_cons.1 hmem with rfl | hmem
    · exact Or.inl ⟨hd, List.cons_ne_nil _ _⟩
    · exact Or.inr ⟨d, hmem, hd⟩

/-- All others can, and come to their overlay. -/
theorem mergeAll_of_not_clashing {docs : List Document} (h : ¬ Clashing docs) :
    ∃ merged, mergeAll docs = .ok merged ∧ ComeTo docs merged := by
  match docs with
  | [] => exact ⟨none, rfl, .nothing⟩
  | [d] => exact ⟨some d, rfl, .single d⟩
  | d :: next :: rest =>
    have hlength : 2 ≤ (d :: next :: rest).length := by simp
    have hobj : ∀ e ∈ d :: next :: rest, e.json.isObject := by
      simpa [Clashing] using h
    obtain ⟨merged, hmerged, -⟩ := mergeAll_showsLast (List.cons_ne_nil d _) hobj []
    exact ⟨some merged, hmerged, .several hlength hmerged⟩

section Fold

variable {Defaults : Type} [Mergeable Defaults] {parameters : Defaults → Option Document}

/-- If a merge of two tiers merges their parameters, that of all tiers merges all documents. -/
theorem foldTemplates_map_parameters (hblank : parameters Mergeable.blank = none)
    (hmerge : ∀ base upper, (Mergeable.merge base upper).map parameters =
      mergeParameters (parameters base) (parameters upper)) (tiers : List Defaults) :
    (foldTemplates tiers).map parameters = mergeAll (tiers.filterMap parameters) := by
  induction tiers using List.reverseRecOn with
  | nil => exact congrArg Except.ok hblank
  | append_singleton tiers t ih =>
    have hstep : (foldTemplates tiers >>= fun merged => Mergeable.merge merged t).map parameters =
        ((foldTemplates tiers).map parameters).bind fun p => mergeParameters p (parameters t) := by
      cases foldTemplates tiers with
      | error e => rfl
      | ok merged => exact hmerge merged t
    rw [foldTemplates_append_singleton, hstep, ih, List.filterMap_append]
    cases ht : parameters t with
    | none =>
      rw [List.filterMap_cons_none ht, List.filterMap_nil, List.append_nil]
      cases mergeAll (tiers.filterMap parameters) <;> rfl
    | some d =>
      rw [List.filterMap_cons_some ht, List.filterMap_nil, mergeAll_append_singleton]

/-- The fold of some tiers is refused if their parameters clash, and merges them otherwise. -/
theorem foldTemplates_ends (hblank : parameters Mergeable.blank = none)
    (hmerge : ∀ base upper, (Mergeable.merge base upper).map parameters =
      mergeParameters (parameters base) (parameters upper)) (tiers : List Defaults) :
    (Clashing (tiers.filterMap parameters) ∧
        ∃ text, foldTemplates tiers = .error (.malformedParameters text)) ∨
      (¬ Clashing (tiers.filterMap parameters) ∧
        ∃ merged, foldTemplates tiers = .ok merged ∧
          ComeTo (tiers.filterMap parameters) (parameters merged)) := by
  have hparameters := foldTemplates_map_parameters hblank hmerge tiers
  by_cases hclash : Clashing (tiers.filterMap parameters)
  · obtain ⟨text, htext⟩ := mergeAll_of_clashing hclash
    rw [htext] at hparameters
    refine Or.inl ⟨hclash, text, ?_⟩
    cases hfold : foldTemplates tiers with
    | error e =>
      rw [hfold] at hparameters
      exact congrArg Except.error (Except.error.inj hparameters)
    | ok merged =>
      rw [hfold] at hparameters
      cases hparameters
  · obtain ⟨p, hp, hcome⟩ := mergeAll_of_not_clashing hclash
    rw [hp] at hparameters
    refine Or.inr ⟨hclash, ?_⟩
    cases hfold : foldTemplates tiers with
    | error e =>
      rw [hfold] at hparameters
      cases hparameters
    | ok merged =>
      rw [hfold] at hparameters
      exact ⟨merged, rfl, Except.ok.inj hparameters ▸ hcome⟩

end Fold

/-! ## All fields -/

/-- What the merge of instance defaults says, in terms of the tiers. -/
structure InstanceDefaults.MergeOf (tiers : List InstanceDefaults) (merged : InstanceDefaults) :
    Prop where
  identifiers : ∀ f ∈ PlanReference.identifiers,
    FromLast (fun i => PlanReference.isSet i) (fun t => f t.plan) tiers (f merged.plan)
  sources : FromLast (· ≠ []) InstanceDefaults.parameterSources tiers merged.parameterSources
  parameters : ComeTo (tiers.filterMap (·.parameters)) merged.parameters

/-- What the merge of binding defaults says, in terms of the tiers. -/
structure BindingDefaults.MergeOf (tiers : List BindingDefaults) (merged : BindingDefaults) :
    Prop where
  renames : ∀ key, FromLast (fun name => name.isSome) (fun t => t.secretKeys.find? key) tiers
    (merged.secretKeys.find? key)
  sources : FromLast (· ≠ []) BindingDefaults.parameterSources tiers merged.parameterSources
  parameters : ComeTo (tiers.filterMap (·.parameters)) merged.parameters

/-- The merge of defaults for instances, field by field. -/
theorem InstanceDefaults.mergeOf_fold {tiers : List InstanceDefaults} {merged : InstanceDefaults}
    (h : foldTemplates tiers = .ok merged)
    (hcome : ComeTo (tiers.filterMap (·.parameters)) merged.parameters) : MergeOf tiers merged where
  identifiers f hf := by
    have hblank := (PlanReference.isEmpty_iff_unset {}).1 rfl f hf
    refine foldTemplates_fromLast (fun i => PlanReference.isSet i) (fun t => f t.plan) hblank
      (fun hmerge => ?_) h
    obtain ⟨parameters, -, rfl⟩ := merge_eq_ok_iff.1 hmerge
    exact PlanReference.merge_fromLast InstanceDefaults.plan _ _ hf
  sources := by
    refine foldTemplates_fromLast (· ≠ []) (·.parameterSources) (fun h => h rfl) (fun hmerge => ?_) h
    obtain ⟨parameters, -, rfl⟩ := merge_eq_ok_iff.1 hmerge
    exact mergeSources_fromLast InstanceDefaults.parameterSources _ _
  parameters := hcome

/-- The merge of defaults for bindings, field by field. -/
theorem BindingDefaults.mergeOf_fold {tiers : List BindingDefaults} {merged : BindingDefaults}
    (h : foldTemplates tiers = .ok merged)
    (hcome : ComeTo (tiers.filterMap (·.parameters)) merged.parameters) : MergeOf tiers merged where
  renames key := foldTemplates_rename h key
  sources := by
    refine foldTemplates_fromLast (· ≠ []) (·.parameterSources) (fun h => h rfl) (fun hmerge => ?_) h
    obtain ⟨parameters, -, rfl⟩ := merge_eq_ok_iff.1 hmerge
    exact mergeSources_fromLast BindingDefaults.parameterSources _ _
  parameters := hcome

/-- **The merge of all tiers, field by field.** It is refused exactly if there are several
parameter documents and one of them is no object. -/
theorem foldTemplates_fieldwise :
    (∀ tiers : List InstanceDefaults,
      (Clashing (tiers.filterMap (·.parameters)) ∧
          ∃ text, foldTemplates tiers = .error (.malformedParameters text)) ∨
        (¬ Clashing (tiers.filterMap (·.parameters)) ∧
          ∃ merged, foldTemplates tiers = .ok merged ∧ InstanceDefaults.MergeOf tiers merged)) ∧
    ∀ tiers : List BindingDefaults,
      (Clashing (tiers.filterMap (·.parameters)) ∧
          ∃ text, foldTemplates tiers = .error (.malformedParameters text)) ∨
        (¬ Clashing (tiers.filterMap (·.parameters)) ∧
          ∃ merged, foldTemplates tiers = .ok merged ∧ BindingDefaults.MergeOf tiers merged) := by
  constructor
  · intro tiers
    have hends := foldTemplates_ends rfl InstanceDefaults.merge_map_parameters tiers
    refine hends.imp_right fun ⟨hclash, merged, hmerged, hcome⟩ => ?_
    exact ⟨hclash, merged, hmerged, InstanceDefaults.mergeOf_fold hmerged hcome⟩
  · intro tiers
    have hends := foldTemplates_ends rfl BindingDefaults.merge_map_parameters tiers
    refine hends.imp_right fun ⟨hclash, merged, hmerged, hcome⟩ => ?_
    exact ⟨hclash, merged, hmerged, BindingDefaults.mergeOf_fold hmerged hcome⟩

/-- An identifier that is empty does not hide the one of a broader tier. -/
example :
    let plan := PlanReference.ofClusterExternal "mysql" "small"
    foldTemplates [({ plan } : InstanceDefaults),
        { plan := { clusterPlanExternalName := some "", className := some "db" } }] =
      .ok { plan := { plan with className := some "db" } } := by
  rfl

end ServiceTemplates
