import ServiceTemplates.Proofs.Text.Base64
import ServiceTemplates.Proofs.Wire.Record
import ServiceTemplates.Wire.Object

/-!
# Round trips on the wire

An object of any kind is read back from its JSON, with one exception: a parameter document that
is null reads as no document (`Object.ofJson?_toJson`). No object that was read has such a
document (`Object.withoutNull_of_read`), so what was read once survives every further writing and
reading, and no two objects that were read are written alike (`Object.ofJson?_toJson_of_read`).

There is one lemma for each record, from the parts to the whole. The parts are `Reads` pairs;
a record with parameters reads back with its parameters replaced by `Document.nonNull?`.
-/

namespace ServiceTemplates

open Record

/-! ### Shared parts -/

@[simp] theorem NameReference.reads : Reads ofJson? toJson :=
  ⟨fun r => by simp [ofJson?, toJson], fun _ => nofun⟩

@[simp] theorem NameReference.ofJson?_toJson (r : NameReference) : ofJson? r.toJson = some r :=
  reads.read_toJson r

@[simp] theorem SecretKeyReference.reads : Reads ofJson? toJson :=
  ⟨fun r => by simp [ofJson?, toJson], fun _ => nofun⟩

@[simp] theorem ParameterSource.reads : Reads ofJson? toJson :=
  ⟨fun s => by simp [ofJson?, toJson], fun _ => nofun⟩

@[simp] theorem PlanSelector.reads : Reads ofJson? toJson :=
  ⟨fun s => by simp [ofJson?, toJson], fun _ => nofun⟩

@[simp] theorem Condition.reads : Reads ofJson? toJson :=
  ⟨fun c => by simp [ofJson?, toJson], fun _ => nofun⟩

@[simp] theorem OwnerReference.reads : Reads ofJson? toJson :=
  ⟨fun r => by simp [ofJson?, toJson, textOrEmpty], fun _ => nofun⟩

@[simp] theorem Metadata.reads : Reads ofJson? toJson :=
  ⟨fun m => by simp [ofJson?, toJson, Json.reads_list], fun _ => nofun⟩

/-- Bytes are written in base 64, whose decoder takes back every encoding. -/
@[simp] theorem bytesOfJson?_bytesToJson (bytes : List UInt8) :
    bytesOfJson? (bytesToJson bytes) = some bytes := by
  rw [bytesToJson, bytesOfJson?, String.toList_ofList, Text.Base64.decode?_encode]

@[simp] theorem reads_secretData : Reads secretDataOfJson? secretDataToJson :=
  ⟨Json.map?_entries bytesOfJson?_bytesToJson, fun _ => nofun⟩

/-! ### Parameter documents -/

/-- The document that is read for one that was written: null stands for none. -/
def Document.nonNull? : Option Document → Option Document
  | none => none
  | some d => if d.json = .null then none else some d

/-- Optional parameters survive unless they are the null document, which is read as no parameters at
all. -/
@[simp] theorem Record.readOptional_document (x : Option Document) :
    readOptional Json.document? (x.map Document.json) = some (Document.nonNull? x) := by
  cases x with
  | none => rfl
  | some d =>
    rw [Document.nonNull?]
    split
    · next hd => rw [Option.map_some, hd]; rfl
    · next hd =>
      rw [Option.map_some, readOptional_of_ne_null hd, Json.document?, d.ofJson_json]
      rfl

/-- No document that was read is null. -/
theorem Record.nonNull?_of_parameters {r : List (String × Json)} {x : Option Document}
    (h : Record.parameters r = some x) : Document.nonNull? x = x := by
  rw [Record.parameters, optional] at h
  split at h
  · cases h
    rfl
  · cases h
    rfl
  · next j hj _ =>
    cases h
    have hne : (Document.ofJson j).json ≠ .null := by
      cases j with
      | null => exact absurd rfl hj
      | _ => exact nofun
    exact if_neg hne

/-! ### Desired and observed states -/

section Contents

attribute [local simp] Record.parameters Record.parameterSources PlanReference.ofFields?
  PlanReference.presentFields

/-- A request for an instance is read back up to null parameters. -/
theorem TemplatedInstanceSpec.ofJson?_toJson (s : TemplatedInstanceSpec) :
    ofJson? s.toJson = some { s with parameters := Document.nonNull? s.parameters } := by
  simp [ofJson?, toJson]

theorem TemplatedInstanceStatus.reads : Reads ofJson? toJson :=
  ⟨fun s => by simp [ofJson?, toJson], fun _ => nofun⟩

/-- A request for a binding is read back up to null parameters. -/
theorem TemplatedBindingSpec.ofJson?_toJson (s : TemplatedBindingSpec) :
    ofJson? s.toJson = some { s with parameters := Document.nonNull? s.parameters } := by
  simp [ofJson?, toJson]

theorem TemplatedBindingStatus.reads : Reads ofJson? toJson :=
  ⟨fun s => by simp [ofJson?, toJson], fun _ => nofun⟩

/-- Defaults are read back also where they are spread over a record with a broker's name. -/
theorem InstanceDefaults.ofFields?_written (d : InstanceDefaults)
    (own : List (Option (String × Json)))
    (hown : ∀ key, key ≠ "brokerName" → lookup? key own = none) :
    ofFields? (written (own ++ d.presentFields)) =
      some { d with parameters := Document.nonNull? d.parameters } := by
  simp [ofFields?, presentFields, hown]

theorem InstanceDefaults.ofJson?_toJson (d : InstanceDefaults) :
    ofJson? d.toJson = some { d with parameters := Document.nonNull? d.parameters } :=
  d.ofFields?_written [] fun _ _ => rfl

/-- So are defaults for bindings. -/
theorem BindingDefaults.ofFields?_written (d : BindingDefaults)
    (own : List (Option (String × Json)))
    (hown : ∀ key, key ≠ "brokerName" → lookup? key own = none) :
    ofFields? (written (own ++ d.presentFields)) =
      some { d with parameters := Document.nonNull? d.parameters } := by
  simp [ofFields?, presentFields, hown]

theorem BindingDefaults.ofJson?_toJson (d : BindingDefaults) :
    ofJson? d.toJson = some { d with parameters := Document.nonNull? d.parameters } :=
  d.ofFields?_written [] fun _ _ => rfl

theorem BindingDefaults.ofSpreadJson?_toJson (d : BindingDefaults) :
    ofSpreadJson? d.toJson = some { d with parameters := Document.nonNull? d.parameters } :=
  d.ofFields?_written [] fun _ _ => rfl

/-- The defaults of a broker stand next to its name in one record. Each of the two is read back as
long as no default has the key of the name. -/
theorem BrokerDefaults.ofJson?_toJson {Defaults : Type}
    {spread : Defaults → List (Option (String × Json))}
    {read : List (String × Json) → Option Defaults} {d : BrokerDefaults Defaults}
    {defaults : Defaults} (hname : lookup? "brokerName" (spread d.defaults) = none)
    (hread : read (written ([always "brokerName" (.string d.brokerName)] ++ spread d.defaults)) =
      some defaults) :
    ofJson? read (d.toJson spread) = some { d with defaults := defaults } := by
  rw [List.singleton_append] at hread
  simp [ofJson?, toJson, hname, hread]

theorem ServiceInstanceSpec.ofJson?_toJson (s : ServiceInstanceSpec) :
    ofJson? s.toJson = some { s with parameters := Document.nonNull? s.parameters } := by
  simp [ofJson?, toJson]

theorem ServiceInstanceStatus.reads : Reads ofJson? toJson :=
  ⟨fun s => by simp [ofJson?, toJson], fun _ => nofun⟩

theorem ServiceBindingSpec.ofJson?_toJson (s : ServiceBindingSpec) :
    ofJson? s.toJson = some { s with parameters := Document.nonNull? s.parameters } := by
  simp [ofJson?, toJson]

theorem ServiceBindingStatus.reads : Reads ofJson? toJson :=
  ⟨fun s => by simp [ofJson?, toJson], fun _ => nofun⟩

/-- Nothing of a secret is read as something else. -/
theorem SecretContents.ofFields?_written (s : SecretContents) :
    ofFields? (written s.presentFields) = some s := by
  simp [ofFields?, presentFields]

end Contents

/-! ### States of any kind -/

namespace Kind

/-- Replaces the parameters of a desired state, of those kinds that have any. -/
def mapParameters (f : Option Document → Option Document) : (k : Kind) → k.Spec → k.Spec
  | .templatedInstance, s => { s with parameters := f s.parameters }
  | .templatedBinding, s => { s with parameters := f s.parameters }
  | .instanceTemplate, s => { s with parameters := f s.parameters }
  | .clusterInstanceTemplate, s => { s with parameters := f s.parameters }
  | .brokerInstanceTemplate, s =>
    { s with defaults := { s.defaults with parameters := f s.defaults.parameters } }
  | .bindingTemplate, s => { s with parameters := f s.parameters }
  | .clusterBindingTemplate, s => { s with parameters := f s.parameters }
  | .brokerBindingTemplate, s =>
    { s with defaults := { s.defaults with parameters := f s.defaults.parameters } }
  | .serviceInstance, s => { s with parameters := f s.parameters }
  | .serviceBinding, s => { s with parameters := f s.parameters }
  | .secret, s => s

/-- **A desired state of any kind is read back**, with null parameters as none. -/
theorem specOfJson?_specToJson (k : Kind) (s : k.Spec) :
    k.specOfJson? (k.specToJson s) = some (k.mapParameters Document.nonNull? s) := by
  -- The name of the broker is the only field that stands before its defaults.
  have hbroker (name : String) (key : String) (hkey : key ≠ "brokerName") :
      lookup? key [always "brokerName" (.string name)] = none := by
    simp [Ne.symm hkey]
  cases k with
  | templatedInstance => exact TemplatedInstanceSpec.ofJson?_toJson s
  | templatedBinding => exact TemplatedBindingSpec.ofJson?_toJson s
  | instanceTemplate => exact InstanceDefaults.ofJson?_toJson s
  | clusterInstanceTemplate => exact InstanceDefaults.ofJson?_toJson s
  | brokerInstanceTemplate =>
    apply BrokerDefaults.ofJson?_toJson
    · simp [InstanceDefaults.presentFields, PlanReference.presentFields]
    · exact s.defaults.ofFields?_written _ (hbroker s.brokerName)
  | bindingTemplate => exact BindingDefaults.ofJson?_toJson s
  | clusterBindingTemplate => exact BindingDefaults.ofSpreadJson?_toJson s
  | brokerBindingTemplate =>
    apply BrokerDefaults.ofJson?_toJson
    · simp [BindingDefaults.presentFields]
    · exact s.defaults.ofFields?_written _ (hbroker s.brokerName)
  | serviceInstance => exact ServiceInstanceSpec.ofJson?_toJson s
  | serviceBinding => exact ServiceBindingSpec.ofJson?_toJson s
  | secret => exact SecretContents.ofFields?_written s

/-- A status is written as it is read, where a kind has one that is read. -/
theorem reads_status {k : Kind} {readStatus : Json → Option k.Status}
    (h : k.statusReader? = some readStatus) : Reads readStatus k.statusToJson := by
  cases k with
  | templatedInstance => cases h; exact TemplatedInstanceStatus.reads
  | templatedBinding => cases h; exact TemplatedBindingStatus.reads
  | serviceInstance => cases h; exact ServiceInstanceStatus.reads
  | serviceBinding => cases h; exact ServiceBindingStatus.reads
  | _ => cases h

/-- A kind whose observed state is not read has none. -/
theorem status_eq_none {k : Kind} (h : k.statusReader? = none) (status : Option k.Status) :
    status = none := by
  cases k with
  | templatedInstance => cases h
  | templatedBinding => cases h
  | serviceInstance => cases h
  | serviceBinding => cases h
  | _ =>
    cases status with
    | none => rfl
    | some x => exact x.elim

end Kind

/-! ### Objects of any kind -/

namespace Object

variable {k : Kind}

/-- The object as it is read from its JSON: a null document of parameters is dropped. -/
def withoutNull (obj : Object k) : Object k :=
  { obj with spec := k.mapParameters Document.nonNull? obj.spec }

/-- Every kind but secrets is written with its desired state under a key of its own. -/
theorem toJson_of_ne_secret (hk : k ≠ .secret) (obj : Object k) :
    obj.toJson = .ofPresent (kindFields k ++
      [always "metadata" obj.metadata.toJson, always "spec" (k.specToJson obj.spec),
        present "status" k.statusToJson obj.status]) := by
  cases k with
  | secret => exact absurd rfl hk
  | _ => rfl

/-- Secrets alone have a reader of their own. -/
theorem ofJson?_of_ne_secret (hk : k ≠ .secret) (j : Json) :
    ofJson? k j = resourceOfJson? k j := by
  cases k with
  | secret => exact absurd rfl hk
  | _ => rfl

/-- An object with a desired state and a status is read back part by part. -/
theorem resourceOfJson?_toJson (hk : k ≠ .secret) (obj : Object k) :
    resourceOfJson? k obj.toJson = some obj.withoutNull := by
  have hmetadata := Metadata.reads.read_toJson obj.metadata
  have hspec := k.specOfJson?_specToJson obj.spec
  rw [toJson_of_ne_secret hk, resourceOfJson?]
  split
  · next readStatus hstatus =>
    simp [kindFields, hmetadata, hspec, Kind.reads_status hstatus, withoutNull]
  · next hstatus =>
    have hnone := Kind.status_eq_none hstatus obj.status
    simp [kindFields, hmetadata, hspec, withoutNull, hnone]

/-- The contents of a secret stand among the fields that every object has. -/
theorem secretOfJson?_toJson (s : Secret) : secretOfJson? s.toJson = some s := by
  obtain ⟨metadata, contents, status⟩ := s
  obtain rfl := Kind.status_eq_none rfl status
  have hmetadata : readOptional Metadata.ofJson? (some metadata.toJson) = some (some metadata) :=
    readOptional_map Metadata.reads (some metadata)
  show secretOfJson? (.ofPresent (kindFields .secret ++ always "metadata" metadata.toJson
    :: contents.presentFields)) = _
  simp [secretOfJson?, kindFields, mark?, find?_written, hmetadata, SecretContents.presentFields,
    SecretContents.ofFields?]

/-- **Every object is read back as it was written**, up to parameters that are null. -/
theorem ofJson?_toJson (obj : Object k) : ofJson? k obj.toJson = some obj.withoutNull := by
  by_cases hk : k = .secret
  · subst hk
    exact secretOfJson?_toJson obj
  · rw [ofJson?_of_ne_secret hk, resourceOfJson?_toJson hk]

end Object

/-! ### What was read -/

/-- What was read has no null parameters: the reader has taken them for absent ones. -/
theorem TemplatedInstanceSpec.nonNull?_parameters {j : Json} {s : TemplatedInstanceSpec}
    (h : ofJson? j = some s) : Document.nonNull? s.parameters = s.parameters := by
  simp only [ofJson?, Option.bind_eq_bind, Option.pure_def, Option.bind_eq_some_iff,
    Option.some.injEq] at h
  obtain ⟨_, -, _, -, _, -, _, -, _, hparameters, _, -, _, -, _, -, rfl⟩ := h
  exact Record.nonNull?_of_parameters hparameters

theorem TemplatedBindingSpec.nonNull?_parameters {j : Json} {s : TemplatedBindingSpec}
    (h : ofJson? j = some s) : Document.nonNull? s.parameters = s.parameters := by
  simp only [ofJson?, Option.bind_eq_bind, Option.pure_def, Option.bind_eq_some_iff,
    Option.some.injEq] at h
  obtain ⟨_, -, _, -, _, hparameters, _, -, _, -, _, -, _, -, rfl⟩ := h
  exact Record.nonNull?_of_parameters hparameters

theorem ServiceInstanceSpec.nonNull?_parameters {j : Json} {s : ServiceInstanceSpec}
    (h : ofJson? j = some s) : Document.nonNull? s.parameters = s.parameters := by
  simp only [ofJson?, Option.bind_eq_bind, Option.pure_def, Option.bind_eq_some_iff,
    Option.some.injEq] at h
  obtain ⟨_, -, _, -, _, -, _, -, _, hparameters, _, -, _, -, _, -, rfl⟩ := h
  exact Record.nonNull?_of_parameters hparameters

theorem ServiceBindingSpec.nonNull?_parameters {j : Json} {s : ServiceBindingSpec}
    (h : ofJson? j = some s) : Document.nonNull? s.parameters = s.parameters := by
  simp only [ofJson?, Option.bind_eq_bind, Option.pure_def, Option.bind_eq_some_iff,
    Option.some.injEq] at h
  obtain ⟨_, -, _, -, _, hparameters, _, -, _, -, _, -, rfl⟩ := h
  exact Record.nonNull?_of_parameters hparameters

theorem InstanceDefaults.nonNull?_parameters {r : List (String × Json)} {d : InstanceDefaults}
    (h : ofFields? r = some d) : Document.nonNull? d.parameters = d.parameters := by
  simp only [ofFields?, Option.bind_eq_bind, Option.pure_def, Option.bind_eq_some_iff,
    Option.some.injEq] at h
  obtain ⟨_, -, _, hparameters, _, -, rfl⟩ := h
  exact Record.nonNull?_of_parameters hparameters

theorem BindingDefaults.nonNull?_parameters {r : List (String × Json)} {d : BindingDefaults}
    (h : ofFields? r = some d) : Document.nonNull? d.parameters = d.parameters := by
  simp only [ofFields?, Option.bind_eq_bind, Option.pure_def, Option.bind_eq_some_iff,
    Option.some.injEq] at h
  obtain ⟨_, hparameters, _, -, _, -, rfl⟩ := h
  exact Record.nonNull?_of_parameters hparameters

/-- The defaults of a broker come out of the reader for defaults. -/
theorem BrokerDefaults.read_defaults {Defaults : Type}
    {read : List (String × Json) → Option Defaults} {j : Json} {d : BrokerDefaults Defaults}
    (h : ofJson? read j = some d) : ∃ r, read r = some d.defaults := by
  simp only [ofJson?, Option.bind_eq_bind, Option.pure_def, Option.bind_eq_some_iff,
    Option.some.injEq] at h
  obtain ⟨r, -, _, -, _, hdefaults, rfl⟩ := h
  exact ⟨r, hdefaults⟩

/-- A desired state that was read is one that can be read back exactly. -/
theorem Kind.mapParameters_of_read {k : Kind} {j : Json} {s : k.Spec}
    (h : k.specOfJson? j = some s) : k.mapParameters Document.nonNull? s = s := by
  cases k with
  | templatedInstance =>
    have hsame := TemplatedInstanceSpec.nonNull?_parameters h
    rw [mapParameters, hsame]
  | templatedBinding =>
    have hsame := TemplatedBindingSpec.nonNull?_parameters h
    rw [mapParameters, hsame]
  -- Where the defaults stand by themselves, the fields are taken out of the record first.
  | instanceTemplate | clusterInstanceTemplate =>
    obtain ⟨r, -, hr⟩ := Option.bind_eq_some_iff.1 h
    have hsame := InstanceDefaults.nonNull?_parameters hr
    rw [mapParameters, hsame]
  | bindingTemplate | clusterBindingTemplate =>
    obtain ⟨r, -, hr⟩ := Option.bind_eq_some_iff.1 h
    have hsame := BindingDefaults.nonNull?_parameters hr
    rw [mapParameters, hsame]
  | brokerInstanceTemplate =>
    obtain ⟨r, hr⟩ := BrokerDefaults.read_defaults h
    have hsame := InstanceDefaults.nonNull?_parameters hr
    rw [mapParameters, hsame]
  | brokerBindingTemplate =>
    obtain ⟨r, hr⟩ := BrokerDefaults.read_defaults h
    have hsame := BindingDefaults.nonNull?_parameters hr
    rw [mapParameters, hsame]
  | serviceInstance =>
    have hsame := ServiceInstanceSpec.nonNull?_parameters h
    rw [mapParameters, hsame]
  | serviceBinding =>
    have hsame := ServiceBindingSpec.nonNull?_parameters h
    rw [mapParameters, hsame]
  | secret => rfl

namespace Object

variable {k : Kind} {j : Json} {obj : Object k}

/-- The desired state of an object that was read was read itself. -/
theorem read_spec (h : resourceOfJson? k j = some obj) :
    ∃ spec, k.specOfJson? spec = some obj.spec := by
  have hrequired : ∃ r, required r "spec" k.specOfJson? = some obj.spec := by
    rw [resourceOfJson?] at h
    split at h
    · simp only [Option.bind_eq_bind, Option.pure_def, Option.bind_eq_some_iff,
        Option.some.injEq] at h
      obtain ⟨r, -, _, -, _, hspec, _, -, rfl⟩ := h
      exact ⟨r, hspec⟩
    · simp only [Option.bind_eq_bind, Option.pure_def, Option.bind_eq_some_iff,
        Option.some.injEq] at h
      obtain ⟨r, -, _, -, _, hspec, rfl⟩ := h
      exact ⟨r, hspec⟩
  obtain ⟨r, hspec⟩ := hrequired
  obtain ⟨spec, -, hread⟩ := Option.bind_eq_some_iff.1 hspec
  exact ⟨spec, hread⟩

/-- An object that was read is its own normal form. -/
theorem withoutNull_of_read (h : ofJson? k j = some obj) : obj.withoutNull = obj := by
  by_cases hk : k = .secret
  · subst hk
    rfl
  · rw [ofJson?_of_ne_secret hk] at h
    obtain ⟨spec, hspec⟩ := read_spec h
    have hsame := Kind.mapParameters_of_read hspec
    rw [withoutNull, hsame]

/-- **What was read once is never lost.** An object that was read, of whatever kind and from
whatever JSON, is read again from what is written for it, so writing what was read changes
nothing the second time; two objects that were read and are written alike are the same; and all
objects can be read, those with a null document of parameters alone excepted. -/
theorem ofJson?_toJson_of_read (h : ofJson? k j = some obj) :
    ofJson? k obj.toJson = some obj ∧
    (∀ written, (ofJson? k j).map toJson = some written →
      (ofJson? k written).map toJson = some written) ∧
    (∀ j' obj', ofJson? k j' = some obj' → obj'.toJson = obj.toJson → obj' = obj) ∧
    ∀ obj' : Object k, (∃ j', ofJson? k j' = some obj') ↔ obj'.withoutNull = obj' := by
  -- All four parts rest on this one, for the given object or for another one that was read.
  have hagain {j : Json} {obj : Object k} (h : ofJson? k j = some obj) :
      ofJson? k obj.toJson = some obj := by
    rw [ofJson?_toJson, withoutNull_of_read h]
  refine ⟨hagain h, ?_, ?_, ?_⟩
  · intro written hwritten
    rw [h] at hwritten
    cases hwritten
    rw [hagain h]
    rfl
  · intro j' obj' h' hjson
    have hsame := hagain h'
    rw [hjson, hagain h] at hsame
    exact (Option.some.inj hsame).symm
  · intro obj'
    constructor
    · rintro ⟨j', h'⟩
      exact withoutNull_of_read h'
    · intro hobj
      refine ⟨obj'.toJson, ?_⟩
      rw [ofJson?_toJson, hobj]

/-- A request for credentials whose desired state stands in positional form and whose parameters
hold a null inside. -/
theorem ofJson?_toJson_of_read_positional :
    let j : Json := .object
      [("metadata", .object
          [("labels", .object [("team", .string "a")]), ("name", .string "creds")]),
        ("spec", .array
          [.object [("name", .string "db")], .object [("size", .ofInt 5), ("at", .null)],
            .array [], .object [("password", .string "pw")]])]
    let obj : TemplatedBinding :=
      { metadata := { name := some "creds", labels := some (.ofList [("team", "a")]) }
        spec :=
          { instanceRef := { name := "db" }
            parameters := some (.ofJson (.object [("at", .null), ("size", .ofInt 5)]))
            secretKeys := .ofList [("password", "pw")] } }
    Object.ofJson? .templatedBinding j = some obj ∧ obj.toJson ≠ j ∧
      Object.ofJson? .templatedBinding obj.toJson = some obj := by
  intro j obj
  have hread : Object.ofJson? .templatedBinding j = some obj := by decide +kernel
  exact ⟨hread, by decide +kernel, (ofJson?_toJson_of_read hread).1⟩

end Object

end ServiceTemplates
