import ServiceTemplates.Proofs.Template.Parameters
import ServiceTemplates.Template.Apply

/-!
# Applying a template again

A pass that was interrupted starts from a resource that carries its template already.
Applying the same template to it again gives the same desired state, and that state has
the same value as itself, so that nothing is stored a second time. Only a template whose
parameters are no object is refused the second time. Main statements:
`TemplatedInstance.applyTemplate_again`, `TemplatedBinding.applyTemplate_again`,
`Json.sameValue_self` and `applyTemplate_twice`.
-/

namespace ServiceTemplates

/-! ## Everything has its own value -/

namespace Json

/-- Zero has the value of zero whatever its signs, and every other number has its own. -/
theorem Number.sameValue_self (n : Number) : n.sameValue n := by
  cases n with
  | int value => exact beq_self_eq_true value
  | float value => simp [Number.sameValue, Binary64.sameValue]

mutual

theorem sameValue_self : ∀ j : Json, j.sameValue j
  | .null => rfl
  | .bool _ => by simp [sameValue]
  | .number n => by simpa [sameValue] using Number.sameValue_self n
  | .string _ => by simp [sameValue]
  | .array items => by simpa [sameValue] using sameItems_self items
  | .object fields => by simpa [sameValue] using sameFields_self fields

theorem sameItems_self : ∀ items : List Json, sameItems items items
  | [] => rfl
  | x :: xs => by simp [sameItems, sameValue_self x, sameItems_self xs]

theorem sameFields_self : ∀ fields : List (String × Json), sameFields fields fields
  | [] => rfl
  | (_, x) :: xs => by simp [sameFields, sameValue_self x, sameFields_self xs]

end

end Json

/-- Parameters have the value that they have. -/
theorem sameDocument_self (p : Option Document) : sameDocument p p := by
  cases p with
  | none => rfl
  | some d => exact Json.sameValue_self d.json

theorem TemplatedInstanceSpec.sameValue_self (spec : TemplatedInstanceSpec) :
    TemplatedInstanceSpec.sameValue spec spec := by
  simp [TemplatedInstanceSpec.sameValue, sameDocument_self]

theorem TemplatedBindingSpec.sameValue_self (spec : TemplatedBindingSpec) :
    TemplatedBindingSpec.sameValue spec spec := by
  simp [TemplatedBindingSpec.sameValue, sameDocument_self]

/-! ## Merging again -/

/-- Sources that are there already are not taken from the template again. -/
theorem mergeSources_again (own template : List ParameterSource) :
    mergeSources (mergeSources own template) template = mergeSources own template := by
  unfold mergeSources
  by_cases h : own.isEmpty
  · simp [h]
  · simp [h]

/-- Neither are renames. -/
theorem mergeRenames_again (template own : SortedMap String String) :
    mergeRenames template (mergeRenames template own) = mergeRenames template own := by
  apply SortedMap.ext_find?
  intro key
  simp only [mergeRenames, SortedMap.find?_union]
  cases own.find? key with
  | some name => rfl
  | none => cases template.find? key <;> rfl

/-! ## Applying again -/

/-- An instance with what a template adds, once the parameters are merged. -/
def TemplatedInstance.withTemplate (inst : TemplatedInstance) (template : InstanceDefaults)
    (parameters : Option Document) : TemplatedInstance :=
  let spec : TemplatedInstanceSpec := inst.spec
  { inst with
    spec := { spec with
      plan := if spec.plan.isEmpty then template.plan else spec.plan
      parameters := parameters
      parameterSources := mergeSources spec.parameterSources template.parameterSources } }

def TemplatedBinding.withTemplate (binding : TemplatedBinding) (template : BindingDefaults)
    (parameters : Option Document) : TemplatedBinding :=
  let spec : TemplatedBindingSpec := binding.spec
  { binding with
    spec := { spec with
      secretName := if spec.secretName.isEmpty then spec.instanceRef.name else spec.secretName
      parameters := parameters
      parameterSources := mergeSources spec.parameterSources template.parameterSources
      secretKeys := mergeRenames template.secretKeys spec.secretKeys } }

/-- A template can be applied to an instance exactly if the parameters can be merged. -/
theorem TemplatedInstance.applyTemplate_eq_ok_iff {inst applied : TemplatedInstance}
    {template : InstanceDefaults} :
    TemplatedInstance.applyTemplate inst template = .ok applied ↔
      ∃ parameters, mergeParameters (TemplatedInstanceSpec.parameters inst.spec)
        template.parameters = .ok parameters ∧ inst.withTemplate template parameters = applied := by
  unfold TemplatedInstance.applyTemplate
  rw [bind_eq_ok_iff]
  simp only [pure, Except.pure, Except.ok.injEq]
  rfl

/-- A template can be applied to a binding exactly if the parameters can be merged. -/
theorem TemplatedBinding.applyTemplate_eq_ok_iff {binding applied : TemplatedBinding}
    {template : BindingDefaults} :
    TemplatedBinding.applyTemplate binding template = .ok applied ↔
      ∃ parameters, mergeParameters (TemplatedBindingSpec.parameters binding.spec)
        template.parameters = .ok parameters ∧
          binding.withTemplate template parameters = applied := by
  unfold TemplatedBinding.applyTemplate
  rw [bind_eq_ok_iff]
  simp only [pure, Except.pure, Except.ok.injEq]
  rfl

/-- What an instance gets from a template it does not get twice. -/
theorem TemplatedInstance.applyTemplate_again {inst applied : TemplatedInstance}
    {template : InstanceDefaults} (ht : PlainParameters template.parameters)
    (h : TemplatedInstance.applyTemplate inst template = .ok applied)
    (m : Metadata) (status : Option TemplatedInstanceStatus) :
    TemplatedInstance.applyTemplate ⟨m, applied.spec, status⟩ template =
      .ok ⟨m, applied.spec, status⟩ := by
  obtain ⟨parameters, hm, rfl⟩ := TemplatedInstance.applyTemplate_eq_ok_iff.1 h
  refine TemplatedInstance.applyTemplate_eq_ok_iff.2 ⟨parameters, mergeParameters_again ht hm, ?_⟩
  -- An empty plan takes the template's, and takes it again if that is empty too.
  by_cases hown : (TemplatedInstanceSpec.plan inst.spec).isEmpty <;>
    simp [TemplatedInstance.withTemplate, mergeSources_again, hown]

/-- Neither does a binding. -/
theorem TemplatedBinding.applyTemplate_again {binding applied : TemplatedBinding}
    {template : BindingDefaults} (ht : PlainParameters template.parameters)
    (h : TemplatedBinding.applyTemplate binding template = .ok applied)
    (m : Metadata) (status : Option TemplatedBindingStatus) :
    TemplatedBinding.applyTemplate ⟨m, applied.spec, status⟩ template =
      .ok ⟨m, applied.spec, status⟩ := by
  obtain ⟨parameters, hm, rfl⟩ := TemplatedBinding.applyTemplate_eq_ok_iff.1 h
  refine TemplatedBinding.applyTemplate_eq_ok_iff.2 ⟨parameters, mergeParameters_again ht hm, ?_⟩
  -- Without a name of its own the secret takes the instance's, and takes it again if that is empty.
  by_cases hown : (TemplatedBindingSpec.secretName binding.spec).isEmpty <;>
    simp [TemplatedBinding.withTemplate, mergeSources_again, mergeRenames_again, hown]

/-- A template does not change a class and a plan that are named. -/
theorem TemplatedInstance.applyTemplate_plan {inst applied : TemplatedInstance}
    {template : InstanceDefaults}
    (h : TemplatedInstance.applyTemplate inst template = .ok applied)
    (hplan : (TemplatedInstanceSpec.plan inst.spec).isComplete) :
    TemplatedInstanceSpec.plan applied.spec = TemplatedInstanceSpec.plan inst.spec := by
  obtain ⟨parameters, -, rfl⟩ := TemplatedInstance.applyTemplate_eq_ok_iff.1 h
  have hnamed : ¬ (TemplatedInstanceSpec.plan inst.spec).isEmpty := by
    simp only [PlanReference.isComplete, Bool.and_eq_true] at hplan
    simp [PlanReference.isEmpty, hplan.1]
  exact if_neg hnamed

/-! ## Exactly which templates can be applied twice -/

/-- Parameters that cannot be merged are all that is wrong with a template. -/
theorem TemplatedInstance.applyTemplate_of_error {inst : TemplatedInstance}
    {template : InstanceDefaults} {e : Error}
    (h : mergeParameters (TemplatedInstanceSpec.parameters inst.spec) template.parameters =
      .error e) : TemplatedInstance.applyTemplate inst template = .error e :=
  bind_eq_error_iff.2 (Or.inl h)

theorem TemplatedBinding.applyTemplate_of_error {binding : TemplatedBinding}
    {template : BindingDefaults} {e : Error}
    (h : mergeParameters (TemplatedBindingSpec.parameters binding.spec) template.parameters =
      .error e) : TemplatedBinding.applyTemplate binding template = .error e :=
  bind_eq_error_iff.2 (Or.inl h)

/-- How it ends to apply a template to what came of applying it. -/
structure Repeated {α : Type} (parameters : Option Document) (applied : α)
    (again : Except Error α) : Prop where
  same_iff : again = .ok applied ↔ PlainParameters parameters
  refused : ∀ d, parameters = some d → ¬ d.json.isObject →
    again = .error (.malformedParameters ("base parameters must be a JSON object, got " ++
      d.json.typeName))

/-- The two cases are complete, since the failure in the one is no success in the other. -/
theorem Repeated.intro {α : Type} {parameters : Option Document} {applied : α}
    {again : Except Error α} (hplain : PlainParameters parameters → again = .ok applied)
    (hrefused : ∀ d, parameters = some d → ¬ d.json.isObject →
      again = .error (notAnObject "base" d)) : Repeated parameters applied again where
  same_iff := by
    refine ⟨fun hagain d hd => ?_, hplain⟩
    by_cases hobj : d.json.isObject
    · exact hobj
    · rw [hrefused d hd hobj] at hagain
      cases hagain
  refused := hrefused

/-- **A template that could be applied can be applied again**, with the same result, exactly if
its parameters are absent or an object. Otherwise the request had no parameters of its own, took
the template's as they are and cannot be merged with them. -/
theorem applyTemplate_twice (inst : TemplatedInstance) (template : InstanceDefaults)
    (binding : TemplatedBinding) (bindingTemplate : BindingDefaults) :
    (∀ applied, TemplatedInstance.applyTemplate inst template = .ok applied →
      Repeated template.parameters applied (TemplatedInstance.applyTemplate applied template)) ∧
    ∀ applied, TemplatedBinding.applyTemplate binding bindingTemplate = .ok applied →
      Repeated bindingTemplate.parameters applied
        (TemplatedBinding.applyTemplate applied bindingTemplate) := by
  constructor
  · intro applied h
    refine .intro (fun hplain => ?_) fun d hd hobj => ?_
    · exact TemplatedInstance.applyTemplate_again hplain h applied.metadata applied.status
    · obtain ⟨parameters, hmerge, rfl⟩ := TemplatedInstance.applyTemplate_eq_ok_iff.1 h
      refine TemplatedInstance.applyTemplate_of_error ?_
      -- The base of the second merge is what the first one took over unchecked.
      rw [hd] at hmerge ⊢
      exact mergeParameters_refused hobj hmerge
  · intro applied h
    refine .intro (fun hplain => ?_) fun d hd hobj => ?_
    · exact TemplatedBinding.applyTemplate_again hplain h applied.metadata applied.status
    · obtain ⟨parameters, hmerge, rfl⟩ := TemplatedBinding.applyTemplate_eq_ok_iff.1 h
      refine TemplatedBinding.applyTemplate_of_error ?_
      rw [hd] at hmerge ⊢
      exact mergeParameters_refused hobj hmerge

/-- Parameters on both sides are merged once and stay merged; a secret name that was taken from
the instance and a rename that was taken from the template stay as well. -/
theorem applyTemplate_twice_merged :
    let own := Document.ofJson (.ofFields [("disk", .ofFields [("gb", .ofInt 20)])])
    let offered := Document.ofJson (.ofFields [("disk", .ofFields [("ssd", .bool true)])])
    let inst : TemplatedInstance := { metadata := { name := some "db" }, spec := {
      parameters := some own } }
    let template : InstanceDefaults := {
      plan := .ofClusterExternal "mysql" "small", parameters := some offered }
    let binding : TemplatedBinding := { metadata := { name := some "creds" }, spec := {
      instanceRef := ⟨"db"⟩, parameters := some own } }
    let bindingTemplate : BindingDefaults := {
      parameters := some offered, secretKeys := .ofList [("password", "db-password")] }
    (∃ applied, TemplatedInstance.applyTemplate inst template = .ok applied ∧
      applied.spec ≠ inst.spec ∧ TemplatedInstance.applyTemplate applied template = .ok applied) ∧
    ∃ applied, TemplatedBinding.applyTemplate binding bindingTemplate = .ok applied ∧
      applied.spec ≠ binding.spec ∧
      TemplatedBinding.applyTemplate applied bindingTemplate = .ok applied := by
  intro own offered inst template binding bindingTemplate
  have hplain : PlainParameters (some offered) := plainParameters_some rfl
  obtain ⟨hinst, hbinding⟩ := applyTemplate_twice inst template binding bindingTemplate
  exact ⟨⟨_, rfl, by decide, (hinst _ rfl).same_iff.2 hplain⟩,
    ⟨_, rfl, by decide, (hbinding _ rfl).same_iff.2 hplain⟩⟩

/-- A template with a number for parameters can be applied to an instance without parameters, and
not a second time. -/
theorem applyTemplate_twice_number :
    let number := Document.ofJson (.ofInt 5)
    let inst : TemplatedInstance := { metadata := { name := some "db" }, spec := {} }
    let template : InstanceDefaults := { parameters := some number }
    let applied : TemplatedInstance := { inst with spec := { parameters := some number } }
    TemplatedInstance.applyTemplate inst template = .ok applied ∧
      TemplatedInstance.applyTemplate applied template =
        .error (.malformedParameters "base parameters must be a JSON object, got a number") :=
  ⟨rfl, rfl⟩

end ServiceTemplates
