import ServiceTemplates.Proofs.Reconcile.Resolution
import ServiceTemplates.Proofs.Reconcile.Retry
import ServiceTemplates.Proofs.Reconcile.Success
import ServiceTemplates.Proofs.Store.Key
import ServiceTemplates.Proofs.Template.Renames
import ServiceTemplates.Reconcile.Trigger

/-!
# From a templated binding to its credentials

A templated binding asks the catalog for a secret, the catalog writes one under the shadow of
the name that was asked for, and the pass for that secret publishes it under the name itself
with its keys renamed. Main statement: `synchronizeSecret_publishes`.
-/

namespace ServiceTemplates

/-! ## Names of secrets -/

theorem toList_shadowName (name : String) :
    (shadowName name).toList = name.toList ++ shadowEnding.toList := by
  simp [shadowName]

/-- What was shadowed is published under its own name. -/
theorem publishedName?_shadowName {name : String} (h : name ≠ "") :
    publishedName? (shadowName name) = some name := by
  have hkept : name.toList.isEmpty = false := by simpa using h
  unfold publishedName?
  dsimp only
  rw [toList_shadowName, List.length_append, Nat.add_sub_cancel, List.take_left' rfl]
  simp [hkept]

/-- Only one name is published under a given one. -/
theorem eq_shadowName_of_publishedName? {name published : String}
    (h : publishedName? name = some published) : name = shadowName published := by
  unfold publishedName? at h
  dsimp only at h
  split at h
  · next hending =>
    rw [Bool.and_eq_true] at hending
    obtain ⟨kept, hkept⟩ := List.isSuffixOf_iff_suffix.1 hending.1
    rw [← hkept, List.length_append, Nat.add_sub_cancel, List.take_left' rfl] at h
    rw [← Option.some.inj h, ← String.toList_inj, toList_shadowName, String.toList_ofList, hkept]
  · cases h

/-- The shadow name of a valid name is valid. -/
theorem IsKeyPart.shadowName {name : String} (h : IsKeyPart name) :
    IsKeyPart (shadowName name) := by
  refine ⟨fun hempty => ?_, fun hmem => ?_⟩
  · have := congrArg (fun s => s.toList.length) hempty
    simp [toList_shadowName, shadowEnding] at this
  · rw [toList_shadowName] at hmem
    rcases List.mem_append.1 hmem with hmem | hmem
    · exact h.2 hmem
    · exact absurd hmem (by decide)

/-- The secret that a binding asks for: the one that it names, otherwise one that is named
after the bound instance. -/
def TemplatedBindingSpec.wantedSecret (spec : TemplatedBindingSpec) : String :=
  if spec.secretName = "" then spec.instanceRef.name else spec.secretName

/-! ## Names of keys -/

/-- At most one binding template per tier. -/
structure BindingSelection where
  broker : Option (Object .brokerBindingTemplate)
  cluster : Option (Object .clusterBindingTemplate)
  namespaced : Option (Object .bindingTemplate)

/-- Whether the first template by name is selected at each tier, among those for a service
type that are in reach of a namespace. -/
structure Listers.SelectsForBinding (listers : Listers) (ns serviceType : String)
    (s : BindingSelection) : Prop where
  broker : ∀ t, s.broker = some t ↔ IsFirstByName
    ((listers.all .brokerBindingTemplate).filter (·.metadata.Serves serviceType)) t
  cluster : ∀ t, s.cluster = some t ↔ IsFirstByName
    ((listers.all .clusterBindingTemplate).filter (·.metadata.Serves serviceType)) t
  namespaced : ∀ t, s.namespaced = some t ↔ IsFirstByName
    ((listers.all .bindingTemplate).filter fun t =>
      t.metadata.ns = some ns ∧ t.metadata.Serves serviceType) t

namespace BindingSelection

/-- The new name of a key in the templates, the one of the narrowest tier that has one. -/
def rename? (s : BindingSelection) (key : String) : Option String :=
  (s.namespaced.bind fun t => (BindingDefaults.secretKeys t.spec).find? key).or
    ((s.cluster.bind fun t => (BindingDefaults.secretKeys t.spec).find? key).or
      (s.broker.bind fun t => (BrokerDefaults.defaults t.spec).secretKeys.find? key))

/-- The name under which a key is published: the binding's own rename of it, otherwise the
templates', otherwise the key itself. -/
def finalName (s : BindingSelection) (own : SortedMap String String) (key : String) : String :=
  ((own.find? key).or (s.rename? key)).getD key

/-- The renames of a merge are those of the narrowest template that has one for the key. -/
theorem rename?_eq (s : BindingSelection) {merged : BindingDefaults}
    (h : foldTemplates ((bindingTiers s.broker s.cluster s.namespaced).map (·.2)) = .ok merged)
    (key : String) : merged.secretKeys.find? key = s.rename? key := by
  have htier : ∀ {T : Type} (template : Option T) (tier : Tier) (defaults : T → BindingDefaults),
      ((template.map fun t => (tier, defaults t)).toList.map (·.2)).reverse.findSome?
        (·.secretKeys.find? key) = template.bind fun t => (defaults t).secretKeys.find? key := by
    intro T template tier defaults
    cases template <;> simp
  rw [foldTemplates_secretKeys h, bindingTiers, List.map_append, List.map_append,
    List.reverse_append, List.reverse_append, List.findSome?_append, List.findSome?_append,
    htier, htier, htier]
  rfl

end BindingSelection

/-! ## What the pass for a binding leaves -/

section Binding

variable {c : Cluster} {key ns name : String} {binding : TemplatedBinding}

/-- What a binding's templates come from. -/
theorem resolveBinding_secretKeys {ns : String} (hns : binding.metadata.ns = some ns)
    {template : BindingDefaults}
    (h : ((resolveBinding binding).run Cluster.serve c).1 = .ok template) :
    ∃ bound selected, c.find? .templatedInstance
        ⟨ns, (TemplatedBindingSpec.instanceRef binding.spec).name⟩ = some bound ∧
      c.listers.SelectsForBinding ns (TemplatedInstanceSpec.serviceType bound.spec) selected ∧
      ∀ key, template.secretKeys.find? key = selected.rename? key := by
  rw [run_resolveBinding, hns] at h
  split at h
  · cases h
  · next bound hbound =>
    let selected : BindingSelection :=
      { broker := firstByName (c.matching .brokerBindingTemplate none
          (TemplatedInstanceSpec.serviceType bound.spec))
        cluster := firstByName (c.matching .clusterBindingTemplate none
          (TemplatedInstanceSpec.serviceType bound.spec))
        namespaced := firstByName (c.matching .bindingTemplate (some ns)
          (TemplatedInstanceSpec.serviceType bound.spec)) }
    have hselective := c.listers_selective
    refine ⟨bound, selected, hbound, ⟨fun t => ?_, fun t => ?_, fun t => ?_⟩, selected.rename?_eq h⟩
    · rw [← hselective.list_forServiceType]
      exact firstByName_eq_some_iff
    · rw [← hselective.list_forServiceType]
      exact firstByName_eq_some_iff
    · rw [← hselective.list_forServiceType_within]
      exact firstByName_eq_some_iff

/-- Desired states of the same value have the same secret and renames. -/
theorem TemplatedBindingSpec.secretKeys_of_sameValue {spec own : TemplatedBindingSpec}
    (h : spec.sameValue own) :
    own.secretKeys = spec.secretKeys ∧ own.secretName = spec.secretName := by
  simp only [TemplatedBindingSpec.sameValue, Bool.and_eq_true, decide_eq_true_eq] at h
  exact ⟨(congrArg TemplatedBindingSpec.secretKeys h.2).symm,
    (congrArg TemplatedBindingSpec.secretName h.2).symm⟩

/-- So has what is stored, whether it was written or left as it was. -/
theorem bindingFlow_stored_secretKeys (binding : TemplatedBinding) (spec : TemplatedBindingSpec) :
    TemplatedBindingSpec.secretKeys (bindingFlow.stored binding spec).spec = spec.secretKeys ∧
      TemplatedBindingSpec.secretName (bindingFlow.stored binding spec).spec =
        spec.secretName := by
  unfold Flow.stored
  split
  · next hsame => exact TemplatedBindingSpec.secretKeys_of_sameValue hsame
  · exact ⟨rfl, rfl⟩

/-- What stands under a key once the first pass has created a service binding. -/
structure RequestedFrom (place : ObjectKey) (c : Cluster) (binding : TemplatedBinding)
    (bound : TemplatedInstance) (selected : BindingSelection) (left : Cluster)
    (stored : TemplatedBinding) (created : ServiceBinding) : Prop where
  binds : c.find? .templatedInstance
    ⟨place.ns, (TemplatedBindingSpec.instanceRef binding.spec).name⟩ = some bound
  selects : c.listers.SelectsForBinding place.ns (TemplatedInstanceSpec.serviceType bound.spec)
    selected
  templated : left.find? .templatedBinding place = some stored
  provisioned : left.find? .serviceBinding place = some created
  storedName : stored.metadata.name = some place.name
  createdName : created.metadata.name = some place.name
  createdNs : created.metadata.ns = some place.ns
  controlled : created.metadata.isControlledBy stored
  secretName : ServiceBindingSpec.secretName created.spec =
    shadowName (TemplatedBindingSpec.wantedSecret binding.spec)
  finalKey : ∀ key, finalKey (TemplatedBindingSpec.secretKeys stored.spec) key =
    selected.finalName (TemplatedBindingSpec.secretKeys binding.spec) key

/-- **What the first pass for a binding requests**, and what it stores of the templates. -/
theorem synchronizeBinding_first (hc : c.Sound) (hkey : wellFormedKey? key = some (ns, name))
    (hbinding : c.find? .templatedBinding ⟨ns, name⟩ = some binding)
    (hvacant : c.find? .serviceBinding ⟨ns, name⟩ = none) (time : String) {created : ServiceBinding}
    (hcreated : ((synchronizeBinding time key).runOn c).cluster.find? .serviceBinding ⟨ns, name⟩ =
      some created) :
    ∃ bound selected stored, RequestedFrom ⟨ns, name⟩ c binding bound selected
      ((synchronizeBinding time key).runOn c).cluster stored created := by
  obtain ⟨hns, hname⟩ := wellFormedKey?_ne hkey
  have hfirst := Flow.run_first (F := bindingFlow) hc hkey hbinding hvacant time
  rw [← synchronizeBinding_eq, Pass.run_serve_eq] at hfirst
  generalize ((synchronizeBinding time key).runOn c).result = result,
    ((synchronizeBinding time key).runOn c).cluster = left at hfirst hcreated ⊢
  cases hfirst with
  | unresolved _ => exact nomatch hvacant.symm.trans hcreated
  | unbuilt _ hbuild => cases hbuild
  | provisioned hresolve hbuild hspec hleaves =>
    obtain rfl := Option.some.inj (hleaves.inLine.provisioned.symm.trans hcreated)
    obtain ⟨template, htemplate, applied, happlied, rfl⟩ := bindingFlow_resolve_eq_ok_iff.1 hresolve
    obtain ⟨merged, -, rfl⟩ := TemplatedBinding.applyTemplate_eq_ok_iff.1 happlied
    obtain rfl := Except.ok.inj hbuild
    obtain ⟨hsecretKeys, hsecretName⟩ :=
      bindingFlow_stored_secretKeys binding (binding.withTemplate template merged).spec
    have hplace := hc.place hbinding
    have hcreatedPlace := hleaves.sound.place hleaves.inLine.provisioned
    obtain ⟨bound, selected, hbound, hselects, hrenames⟩ :=
      resolveBinding_secretKeys (Object.ns_of_place hplace hns) htemplate
    exact ⟨bound, selected, _, {
      binds := hbound
      selects := hselects
      templated := hleaves.inLine.templated
      provisioned := hleaves.inLine.provisioned
      storedName := hleaves.metadata.name_eq.trans (Object.name_of_place hplace hname)
      createdName := Object.name_of_place hcreatedPlace hname
      createdNs := Object.ns_of_place hcreatedPlace hns
      controlled := hleaves.inLine.controlled
      secretName := by
        show shadowName (TemplatedBindingSpec.secretName _) = _
        rw [hsecretName]
        simp [TemplatedBinding.withTemplate, TemplatedBindingSpec.wantedSecret]
      finalKey := fun key => by
        rw [hspec, hsecretKeys]
        simp only [TemplatedBinding.withTemplate, finalKey, mergeRenames, SortedMap.find?_union,
          hrenames, BindingSelection.finalName] }⟩

end Binding

/-! ## What the pass for the secret leaves -/

/-- Who controls something is named in it. -/
theorem Metadata.controllerName?_eq {k : Kind} {m : Metadata} {o : Object k}
    (h : m.isControlledBy o) : m.controllerName? k = o.metadata.name := by
  unfold Metadata.isControlledBy at h
  unfold Metadata.controllerName?
  cases hr : m.controller? with
  | none => simp [hr] at h
  | some r =>
    simp only [hr, Bool.and_eq_true, beq_iff_eq] at h
    simp [h.1.1, h.1.2, Option.filter]

/-- A cluster in which a service binding and the templated binding behind it stand as they did
when it was created, and in which there is a secret of the catalog for it. -/
structure Fulfilled (place : ObjectKey) (left : Cluster) (created : ServiceBinding) (x : Secret)
    (c : Cluster) : Prop where
  sound : c.Sound
  templated : c.find? .templatedBinding place = left.find? .templatedBinding place
  provisioned : c.find? .serviceBinding place = left.find? .serviceBinding place
  secret : c.find? .secret
    ⟨created.nsOrEmpty, ServiceBindingSpec.secretName created.spec⟩ = some x
  controlled : x.metadata.isControlledBy created

/-- Whether a secret is a copy of another one under new names of its keys: each name has the
value of the greatest key that gets it, and there is nothing else. -/
structure Secret.CopiedAs (finalName : String → String) (x copy : Secret) : Prop where
  controlled : copy.metadata.isControlledBy x
  type : SecretContents.type copy.spec = SecretContents.type x.spec
  data : ∀ final value, ((SecretContents.data copy.spec).getD ∅).find? final = some value ↔
    ∃ source, ((SecretContents.data x.spec).getD ∅).find? source = some value ∧
      finalName source = final ∧
      ∀ other, (((SecretContents.data x.spec).getD ∅).find? other).isSome →
        finalName other = final → (compare other source).isLE

section Publishing

variable {place : ObjectKey} {c left c' : Cluster} {binding stored : TemplatedBinding}
  {bound : TemplatedInstance} {selected : BindingSelection} {created : ServiceBinding} {x : Secret}

/-- What is requested is in the namespace of the request. -/
theorem RequestedFrom.nsOrEmpty
    (h : RequestedFrom place c binding bound selected left stored created) :
    created.nsOrEmpty = place.ns := by
  rw [Object.nsOrEmpty, h.createdNs]
  rfl

/-- The catalog's secret stands under the shadow name. -/
theorem RequestedFrom.place_secret
    (h : RequestedFrom place c binding bound selected left stored created)
    (hc' : Fulfilled place left created x c') :
    x.place = ⟨place.ns, shadowName (TemplatedBindingSpec.wantedSecret binding.spec)⟩ := by
  rw [hc'.sound.place hc'.secret, h.nsOrEmpty, h.secretName]

/-- The chain from the secret ends at the templated binding. -/
theorem RequestedFrom.managedBinding
    (h : RequestedFrom place c binding bound selected left stored created)
    (hc' : Fulfilled place left created x c') (hns : x.metadata.ns = some place.ns) :
    ((managedBinding x).run Cluster.serve c').1 = .ok (some stored) := by
  have hcreated : (c'.store .serviceBinding).get? (some place.ns) place.name = some created :=
    hc'.provisioned.trans h.provisioned
  have hstored : (c'.store .templatedBinding).get? (some place.ns) place.name = some stored :=
    hc'.templated.trans h.templated
  have howner := (Metadata.controllerName?_eq hc'.controlled).trans h.createdName
  have howner' := (Metadata.controllerName?_eq h.controlled).trans h.storedName
  unfold ServiceTemplates.managedBinding
  simp only [howner, hns, Pass.run_cached_bind, hcreated, howner']
  exact congrArg Except.ok hstored

/-- A copy that publishes the catalog's secret has its data under the final keys. -/
theorem RequestedFrom.copiedAs
    (h : RequestedFrom place c binding bound selected left stored created) {copy : Secret}
    (hcopy : Secret.Publishes x stored copy) :
    x.CopiedAs (selected.finalName (TemplatedBindingSpec.secretKeys binding.spec)) copy where
  controlled := hcopy.controlled
  type := hcopy.type
  data final value := by
    rw [hcopy.data, Secret.publishedData, find?_rekey]
    simp only [h.finalKey]

/-- The secret of the catalog is looked at again when its binding changes. -/
theorem RequestedFrom.shadowSecret
    (h : RequestedFrom place c binding bound selected left stored created)
    (hwanted : TemplatedBindingSpec.wantedSecret binding.spec ≠ "") :
    shadowSecretForBinding created =
      some (place.ns, shadowName (TemplatedBindingSpec.wantedSecret binding.spec)) := by
  have howner := (Metadata.controllerName?_eq h.controlled).trans h.storedName
  have hname : (shadowName (TemplatedBindingSpec.wantedSecret binding.spec)).isEmpty = false := by
    simp [shadowName, hwanted]
  unfold shadowSecretForBinding
  simp only [howner, h.secretName, hname, h.createdNs]
  rfl

/-- **Credentials are published end to end.** Where a pass created a service binding for a
templated one that asks for a secret, and the catalog wrote the credentials to the secret that
the service binding names, that secret is looked at when the service binding changes, and the
pass for it leaves them under the name that was asked for, with the keys renamed as the
binding and, failing that, its templates ask. -/
theorem synchronizeSecret_publishes {key ns name : String} (hc : c.Sound)
    (hkey : wellFormedKey? key = some (ns, name))
    (hbinding : c.find? .templatedBinding ⟨ns, name⟩ = some binding)
    (hvacant : c.find? .serviceBinding ⟨ns, name⟩ = none) (time : String)
    (hwanted : IsKeyPart (TemplatedBindingSpec.wantedSecret binding.spec)) :
    let own : TemplatedBindingSpec := binding.spec
    let left := ((synchronizeBinding time key).runOn c).cluster
    left.find? .serviceBinding ⟨ns, name⟩ = some created →
    Fulfilled ⟨ns, name⟩ left created x c' →
    (∀ existing, c'.find? .secret ⟨created.nsOrEmpty, own.wantedSecret⟩ = some existing →
      existing.metadata.isControlledBy x) →
    let published := (synchronizeSecret x.metadata.key).runOn c'
    (shadowSecretForBinding created = x.location? ∧ x.location?.isSome) ∧
    ∃ bound selected copy, c.find? .templatedInstance ⟨ns, own.instanceRef.name⟩ = some bound ∧
      c.listers.SelectsForBinding ns (TemplatedInstanceSpec.serviceType bound.spec) selected ∧
      published.result = .ok (some copy) ∧
      published.cluster.find? .secret ⟨created.nsOrEmpty, own.wantedSecret⟩ = some copy ∧
      x.CopiedAs (selected.finalName own.secretKeys) copy := by
  intro own left hcreated hc' hopen published
  obtain ⟨bound, selected, stored, h⟩ :=
    synchronizeBinding_first hc hkey hbinding hvacant time hcreated
  obtain ⟨-, hns, -⟩ := splitKey_eq_ok_iff.1 (wellFormedKey?_eq_some_iff.1 hkey)
  have hplace := h.place_secret hc'
  have hxns := Object.ns_of_place hplace hns.1
  have hxname := Object.name_of_place hplace hwanted.shadowName.1
  have hlocation : x.location? = some (ns, shadowName own.wantedSecret) := by
    rw [Object.location?, hxns, Object.displayName, Metadata.displayName, hxname]
    rfl
  have hxkey : wellFormedKey? x.metadata.key = some (ns, shadowName own.wantedSecret) :=
    wellFormedKey?_eq_some_iff.2 (Metadata.splitKey_key hplace hns hwanted.shadowName)
  have hpublished := publishedName?_shadowName hwanted.1
  have hx : c'.find? .secret ⟨ns, shadowName own.wantedSecret⟩ = some x := by
    rw [← hc'.secret, h.nsOrEmpty, h.secretName]
  rw [h.nsOrEmpty] at hopen ⊢
  refine ⟨⟨(h.shadowSecret hwanted.1).trans hlocation.symm, by rw [hlocation]; rfl⟩, ?_⟩
  rcases Secret.run_follow hc'.sound hx hwanted.shadowName.1 hpublished stored with
    ⟨existing, hexisting, hforeign, -⟩ | ⟨copy, c'', hrun, hcopy, hcopied, hwrite⟩
  · exact absurd (hopen existing hexisting) hforeign
  · have hleft : c''.find? .secret ⟨ns, own.wantedSecret⟩ = some copy := by
      rcases hwrite with ⟨rfl, hfound⟩ | hputs
      · exact hfound
      · exact hputs.find?_of_place hcopied
    rw [← run_synchronizeSecret hxkey hpublished hx (h.managedBinding hc' hxns)] at hrun
    rw [Pass.runOn_result, Pass.runOn_cluster, hrun]
    exact ⟨bound, selected, copy, h.binds, h.selects, rfl, hleft, h.copiedAs hcopy⟩

/-- The secret is named after the bound instance, one key is renamed by the binding, and the
greater one of two that the template gives one name supplies the value. -/
theorem synchronizeSecret_publishes_renamed :
    let template : Object .clusterBindingTemplate :=
      { metadata := { name := some "names" }
        spec := { secretKeys := .ofList [("login", "USER"), ("user", "USER"), ("pass", "PASS")] } }
    let inst : TemplatedInstance :=
      { metadata := { name := some "db", ns := some "default" }, spec := {} }
    let binding : TemplatedBinding :=
      { metadata := { name := some "creds", ns := some "default", uid := some "u-1",
                      resourceVersion := some "1" }
        spec := { instanceRef := ⟨"db"⟩, secretKeys := .ofList [("pass", "PASSWORD")] } }
    let c := (((Cluster.empty.insert template).2.insert inst).2.insert binding).2
    let left := ((synchronizeBinding "noon" "default/creds").runOn c).cluster
    ∃ created x c' copy, left.find? .serviceBinding ⟨"default", "creds"⟩ = some created ∧
      Fulfilled ⟨"default", "creds"⟩ left created x c' ∧
      ((synchronizeSecret x.metadata.key).runOn c').result = .ok (some copy) ∧
      (∃ rename, x.CopiedAs rename copy) ∧
      SecretContents.data copy.spec = some (.ofList [("PASSWORD", [3]), ("USER", [2])]) := by
  intro template inst binding c left
  have hkey : wellFormedKey? "default/creds" = some ("default", "creds") := rfl
  have hsound : c.Sound :=
    ((Cluster.sound_empty.insert template).insert inst).insert binding
  have hbinding : c.find? .templatedBinding ⟨"default", "creds"⟩ = some binding := by decide +kernel
  have hvacant : c.find? .serviceBinding ⟨"default", "creds"⟩ = none := by decide +kernel
  have hwanted : IsKeyPart (TemplatedBindingSpec.wantedSecret binding.spec) :=
    ⟨by decide, by decide⟩
  let created : ServiceBinding :=
    (left.find? .serviceBinding ⟨"default", "creds"⟩).getD ⟨{}, { instanceRef := ⟨""⟩ }, none⟩
  let x : Secret :=
    { metadata := {
        name := some "db-shadow", ns := some "default", uid := some "u-2",
        resourceVersion := some "1", ownerReferences := some [created.controllerReference] }
      spec := { data := some (.ofList [("login", [1]), ("user", [2]), ("pass", [3])]) } }
  let c' := (left.insert x).2
  have hcreated : left.find? .serviceBinding ⟨"default", "creds"⟩ = some created := by
    decide +kernel
  have hc' : Fulfilled ⟨"default", "creds"⟩ left created x c' := {
    sound := (hsound.runOn _).insert x
    templated := by decide +kernel
    provisioned := by decide +kernel
    secret := by decide +kernel
    controlled := by decide +kernel }
  have hopen : c'.find? .secret ⟨created.nsOrEmpty, "db"⟩ = none := by decide +kernel
  obtain ⟨-, bound, selected, copy, -, -, hresult, -, hcopied⟩ :=
    synchronizeSecret_publishes hsound hkey hbinding hvacant "noon" hwanted hcreated hc'
      fun existing hexisting => nomatch hopen.symm.trans hexisting
  have hdata : (((synchronizeSecret x.metadata.key).runOn c').result.toOption.join).bind
      (fun copy => SecretContents.data copy.spec) =
        some (.ofList [("PASSWORD", [3]), ("USER", [2])]) := by decide +kernel
  rw [hresult] at hdata
  exact ⟨created, x, c', copy, hcreated, hc', hresult, ⟨_, hcopied⟩, hdata⟩

end Publishing

end ServiceTemplates
