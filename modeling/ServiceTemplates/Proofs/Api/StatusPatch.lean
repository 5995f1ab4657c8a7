import ServiceTemplates.Api.Client
import ServiceTemplates.Proofs.Json.Patch
import ServiceTemplates.Store.Lemmas

/-!
# Writing a status by a patch

A status goes to the API server as a patch that names the whole of it. Since every field of an
observed state is written, merging the patch replaces the status, whatever stood there, and leaves
everything else alone but for the version. So a status that is written this way comes out like one
that is written to a store in memory. Main statement: `statusPatch_replaces`.
-/

namespace ServiceTemplates

open Record

/-! ## Metadata with another version -/

/-- The fields of metadata with a version merged into them, if there is one. -/
def Metadata.withVersion (version : Option String) (fields : List (String × Json)) :
    List (String × Json) :=
  match version with
  | none => fields
  | some version => Json.mergeFields fields (written [always "resourceVersion" (.string version)])

namespace Metadata

variable (version : Option String) (fields : List (String × Json))

theorem find?_withVersion_self :
    Entries.find? "resourceVersion" (withVersion version fields) =
      (version.map .string).or (Entries.find? "resourceVersion" fields) := by
  cases version with
  | none => rfl
  | some version =>
    rw [withVersion, find?_merged]
    simp

theorem find?_withVersion_of_ne {key : String} (hkey : key ≠ "resourceVersion") :
    Entries.find? key (withVersion version fields) = Entries.find? key fields := by
  cases version with
  | none => rfl
  | some version =>
    rw [withVersion, find?_merged]
    simp [Ne.symm hkey]

variable {fields}

theorem ofJson?_withVersion {m : Metadata} (hm : ofJson? (.object fields) = some m) :
    ofJson? (.object (withVersion version fields)) =
      some { m with resourceVersion := version.or m.resourceVersion } := by
  have hother {α : Type} {key : String} {read : Json → Option α} (hkey : key ≠ "resourceVersion") :
      Record.optional (withVersion version fields) key read = Record.optional fields key read := by
    simp only [Record.optional, find?_withVersion_of_ne version fields hkey]
  simp only [ofJson?, Json.fields?, Option.bind_eq_bind, Option.bind_some, Option.pure_def,
    Option.bind_eq_some_iff, Option.some.injEq] at hm
  obtain ⟨name, hname, generateName, hgenerate, ns, hns, uid, huid, old, hold, generation,
    hgeneration, labels, hlabels, annotations, hannotations, finalizers, hfinalizers, owners,
    howners, rfl⟩ := hm
  have hversion : Record.optional (withVersion version fields) "resourceVersion" Json.text? =
      some (version.or old) := by
    cases version with
    | none => exact hold
    | some version =>
      simp only [Record.optional, find?_withVersion_self]
      rfl
  simp [ofJson?, Json.fields?, hother, hversion, hname, hgenerate, hns, huid, hgeneration, hlabels,
    hannotations, hfinalizers, howners]

end Metadata

/-- What a field of an object holds, by the fields that it counts as in a merge. -/
theorem Json.find?_fields_getD (key : String) (j : Option Json) :
    Entries.find? key ((j.getD .null).fields?.getD []) = j.bind (field? key) := by
  cases j with
  | none => rfl
  | some j => cases j <;> rfl

namespace ApiClient

variable {k : Kind} {obj : Object k} {stored : List (String × Json)}

/-! ## The patch -/

/-- The patch that is sent is the one that writes the status. -/
theorem body_updateStatus {c : ApiClient} {request : HttpRequest}
    (h : (c.updateStatus obj).request = some request) :
    request.body = some (.patch (statusPatch obj)) := by
  unfold updateStatus at h
  dsimp only at h
  split at h
  · cases h
  · obtain ⟨target, -, rfl⟩ := Option.map_eq_some_iff.1 h
    rfl

/-- The patch names a version exactly if the object has one. -/
theorem version_statusPatch (obj : Object k) :
    ((statusPatch obj).field? "metadata").bind (Json.field? "resourceVersion") =
      obj.metadata.resourceVersion.map .string := by
  show (Entries.find? "metadata" (written _)).bind _ = _
  rw [find?_written]
  cases obj.metadata.resourceVersion with
  | none => rfl
  | some version => simp [Json.ofFields, Json.field?, Entries.ofList, Entries.insert]

/-- The fields of a stored object once a status is merged into it. -/
def patched (obj : Object k) (stored : List (String × Json)) : List (String × Json) :=
  Json.mergeFields stored (written
    [present "metadata" (fun v => .ofFields [("resourceVersion", .string v)])
        obj.metadata.resourceVersion,
      always "status" (Json.ofOption k.statusToJson obj.status)])

theorem mergePatch_statusPatch (obj : Object k) (stored : List (String × Json)) :
    (Json.object stored).mergePatch (statusPatch obj) = .object (patched obj stored) := by
  rw [statusPatch, Json.mergePatch_ofPresent]
  rfl

/-! ## What the patch leaves -/

theorem find?_patched_of_ne {key : String} (hmetadata : key ≠ "metadata")
    (hstatus : key ≠ "status") :
    Entries.find? key (patched obj stored) = Entries.find? key stored := by
  rw [patched, find?_merged]
  simp [Ne.symm hmetadata, Ne.symm hstatus]

/-- Whatever stood there, the status is the one that was given. -/
theorem status_patched {readStatus : Json → Option k.Status}
    (hk : k.statusReader? = some readStatus) (obj : Object k) (stored : List (String × Json)) :
    Record.optional (patched obj stored) "status" readStatus = some obj.status := by
  rw [patched, optional_merged]
  simp [Kind.overwrites_status hk]

/-- Of the metadata the version is written, if the object has one. -/
theorem find?_metadata_patched (obj : Object k) (stored : List (String × Json)) :
    Entries.find? "metadata" (patched obj stored) =
      match obj.metadata.resourceVersion with
      | none => Entries.find? "metadata" stored
      | some version => some (.object (Metadata.withVersion (some version)
          (((Entries.find? "metadata" stored).getD .null).fields?.getD []))) := by
  rw [patched, find?_merged]
  cases obj.metadata.resourceVersion with
  | none => rfl
  | some version => rfl

theorem metadata_patched (obj : Object k) (stored : List (String × Json)) {key : String}
    (hkey : key ≠ "resourceVersion") :
    (Entries.find? "metadata" (patched obj stored)).bind (Json.field? key) =
      (Entries.find? "metadata" stored).bind (Json.field? key) := by
  rw [find?_metadata_patched]
  cases obj.metadata.resourceVersion with
  | none => rfl
  | some version =>
    show Entries.find? key (Metadata.withVersion _ _) = _
    rw [Metadata.find?_withVersion_of_ne _ _ hkey, Json.find?_fields_getD]

/-- Metadata that could be read is read again with the new version, if there is one. -/
theorem required_metadata_patched {m : Metadata}
    (hm : required stored "metadata" Metadata.ofJson? = some m) (obj : Object k) :
    required (patched obj stored) "metadata" Metadata.ofJson? =
      some { m with resourceVersion := obj.metadata.resourceVersion.or m.resourceVersion } := by
  obtain ⟨j, hj, hread⟩ := Option.bind_eq_some_iff.1 hm
  rw [required, find?_metadata_patched, hj]
  cases obj.metadata.resourceVersion with
  | none => exact hread
  | some version =>
    cases j with
    | object fields => exact Metadata.ofJson?_withVersion (some version) hread
    | _ => cases hread

/-- A stored object that can be read but for its status is read with the given one afterwards. -/
theorem ofJson?_patched {readStatus : Json → Option k.Status}
    (hk : k.statusReader? = some readStatus) (obj : Object k) {o : Object k}
    (ho : Object.ofJson? k (.object (Entries.erase "status" stored)) = some o) :
    Object.ofJson? k (.object (patched obj stored)) = some
      { metadata := { o.metadata with
          resourceVersion := obj.metadata.resourceVersion.or o.metadata.resourceVersion }
        spec := o.spec
        status := obj.status } := by
  have hne : k ≠ .secret := by
    rintro rfl
    cases hk
  have herase {α : Type} {key : String} {read : Json → Option α} (hkey : key ≠ "status") :
      required (Entries.erase "status" stored) key read = required stored key read := by
    rw [required, Entries.find?_erase, if_neg hkey, required]
  rw [Object.ofJson?_of_ne_secret hne, Object.resourceOfJson?, hk] at ho ⊢
  simp only [Json.record?_object, Option.bind_eq_bind, Option.bind_some, Option.pure_def,
    Option.bind_eq_some_iff, Option.some.injEq] at ho
  obtain ⟨m, hm, spec, hspec, status, -, rfl⟩ := ho
  rw [herase (by decide)] at hm hspec
  have hspec' : required (patched obj stored) "spec" k.specOfJson? = some spec := by
    rw [required, find?_patched_of_ne (by decide) (by decide)]
    exact hspec
  simp [required_metadata_patched hm obj, hspec', status_patched hk]

/-- **A status patch replaces the status as a whole.** Merged into any stored object, whatever
status that has or none, the patch that writes a status gives an object whose status reads as
exactly the one given and whose other fields are as they were, of the metadata all but the
version. An object that can be read but for its status comes out with the desired state that it
had and the status that a store in memory would have written. The patch is sent with a version as
its condition exactly if the object given has one. -/
theorem statusPatch_replaces {readStatus : Json → Option k.Status}
    (hk : k.statusReader? = some readStatus) (obj : Object k) (stored : List (String × Json)) :
    (∃ patched, (Json.object stored).mergePatch (statusPatch obj) = .object patched ∧
      Record.optional patched "status" readStatus = some obj.status ∧
      (∀ key, key ≠ "metadata" → key ≠ "status" →
        Entries.find? key patched = Entries.find? key stored) ∧
      (∀ key, key ≠ "resourceVersion" →
        (Entries.find? "metadata" patched).bind (Json.field? key) =
          (Entries.find? "metadata" stored).bind (Json.field? key)) ∧
      ∀ o, Object.ofJson? k (.object (Entries.erase "status" stored)) = some o →
        ∃ o', Object.ofJson? k (.object patched) = some o' ∧
          o'.status = obj.status ∧ o'.spec = o.spec ∧
          o'.metadata = { o.metadata with
            resourceVersion := obj.metadata.resourceVersion.or o.metadata.resourceVersion } ∧
          ∀ (s s' : Store k) (written : Object k), s.replace obj = (.ok written, s') →
            o'.status = written.status) ∧
    ((statusPatch obj).field? "metadata").bind (Json.field? "resourceVersion") =
      obj.metadata.resourceVersion.map .string ∧
    ∀ (c : ApiClient) (request : HttpRequest), (c.updateStatus obj).request = some request →
      request.body = some (.patch (statusPatch obj)) := by
  refine ⟨⟨patched obj stored, mergePatch_statusPatch obj stored, status_patched hk obj stored,
    fun _ => find?_patched_of_ne, fun _ => metadata_patched obj stored, ?_⟩,
    version_statusPatch obj, fun _ _ => body_updateStatus⟩
  intro o ho
  refine ⟨_, ofJson?_patched hk obj ho, rfl, rfl, rfl, ?_⟩
  intro s s' written hreplace
  obtain ⟨current, -, -, rfl, -⟩ := Store.replace_eq_ok_iff.1 hreplace
  rfl

/-- A status that cannot even be read is replaced, fields that nobody knows included. What comes
out says what a store in memory says that holds the object without that status. -/
theorem statusPatch_replaces_unreadable :
    let stored : List (String × Json) :=
      [("metadata", .object [("name", .string "db"), ("resourceVersion", .string "7")]),
        ("spec", .object [("serviceType", .string "mysqldb")]),
        ("status", .object [("classRef", .array [.string "old"]),
          ("conditions", .string "none"), ("planRef", .object [("name", .string "small")]),
          ("synced", .string "yes")])]
    let unreported : TemplatedInstance :=
      { metadata := { name := some "db", resourceVersion := some "7" }
        spec := { serviceType := "mysqldb" } }
    let given : TemplatedInstance :=
      { metadata := { name := some "db", resourceVersion := some "7" }
        spec := {}
        status := some
          { classRef := some ⟨"mysql"⟩
            conditions := [{ type := "Ready", status := "True" }]
            synced := true } }
    let inMemory : Store .templatedInstance := Store.empty.put unreported
    Kind.statusReader? .templatedInstance = some TemplatedInstanceStatus.ofJson? ∧
      Record.optional stored "status" TemplatedInstanceStatus.ofJson? = none ∧
      Object.ofJson? .templatedInstance (.object (Entries.erase "status" stored)) =
        some unreported ∧
      ∃ patched, (Json.object stored).mergePatch (statusPatch given) = .object patched ∧
        Record.optional patched "status" TemplatedInstanceStatus.ofJson? = some given.status ∧
        Entries.find? "spec" patched = some (.object [("serviceType", .string "mysqldb")]) ∧
        ∃ read written left, Object.ofJson? .templatedInstance (.object patched) = some read ∧
          inMemory.replace given = (.ok written, left) ∧
          read.spec = unreported.spec ∧ read.status = written.status := by
  intro stored unreported given inMemory
  obtain ⟨⟨patched, hpatched, hstatus, hother, -, hread⟩, -⟩ :=
    statusPatch_replaces (k := .templatedInstance) rfl given stored
  have hunreported : Object.ofJson? .templatedInstance
      (.object (Entries.erase "status" stored)) = some unreported := by decide +kernel
  obtain ⟨read, hpatchedRead, -, hspec, -, hagrees⟩ := hread unreported hunreported
  have hreplace : inMemory.replace given = (.ok (Store.successor unreported given), _) :=
    Store.replace_eq_ok_iff.2 ⟨unreported, by decide +kernel, by decide +kernel, rfl, rfl⟩
  have hspecKept : Entries.find? "spec" patched =
      some (.object [("serviceType", .string "mysqldb")]) := by
    rw [hother "spec" (by decide) (by decide)]
    decide +kernel
  exact ⟨rfl, by decide +kernel, hunreported, patched, hpatched, hstatus, hspecKept, read, _, _,
    hpatchedRead, hreplace, hspec, hagrees _ _ _ hreplace⟩

end ApiClient

end ServiceTemplates
