import ServiceTemplates.Api.Exchange
import ServiceTemplates.Text.FormField
import ServiceTemplates.Wire.Object

/-!
# The client

The calls by which objects are read and written. Every write names its field manager.
A refusal is sorted into the causes that the controller knows; what is none of them
stays a refusal.

An object without a namespace is written to the default one. Its name is its display
name, and without a name nothing but a creation can be addressed. A status is written
as a patch, which carries the version of the object as its condition.
-/

namespace ServiceTemplates

def controllerName : String := "svcat-templates-controller"

def writtenKinds : List Kind :=
  [.templatedInstance, .templatedBinding, .serviceInstance, .serviceBinding, .secret]

namespace Kind

/-- Where the version of a kind is served. -/
def root (k : Kind) : String :=
  if k.group.isEmpty then "/api/" ++ k.version else "/apis/" ++ k.group ++ "/" ++ k.version

/-- Where the objects of a kind are found, those of one namespace or all. -/
def collection (k : Kind) : Option String → String
  | some ns => k.root ++ "/namespaces/" ++ ns ++ "/" ++ k.plural
  | none => k.root ++ "/" ++ k.plural

end Kind

def Metadata.writtenTo (m : Metadata) : String := m.ns.getD "default"

/-- The cause that a refusal means for an object. -/
def ApiStatus.cause (s : ApiStatus) (k : Kind) (name : String) : Error :=
  if s.code = 409 ∧ s.reason = "AlreadyExists" then .alreadyExists k.name name
  else if s.code = 409 then .conflict k.name name s.message
  else if s.code = 404 then .notFound k.name name
  else .refused s

def HttpResponse.object (r : HttpResponse) (k : Kind) : Except Error (Object k) :=
  match r.json?.bind (Object.ofJson? k) with
  | some obj => .ok obj
  | none => .error .exchange

/-- The meaning of a response that is to hold the object of a name. -/
def writtenObject (k : Kind) (name : String) (r : HttpResponse) : Except Error (Object k) :=
  match r.refusal? with
  | some s => .error (s.cause k name)
  | none => r.object k

structure ApiClient where
  fieldManager : String := controllerName

namespace ApiClient

variable {k : Kind}

def query (c : ApiClient) : String := "?&fieldManager=" ++ Text.FormField.encode c.fieldManager

/-- Whether the field manager is short enough to be named. -/
def hasValidManager (c : ApiClient) : Bool := c.fieldManager.utf8ByteSize ≤ 128

/-- Reads an object; none if there is no such object. -/
def get (k : Kind) (ns name : String) : ApiCall (Option (Object k)) where
  request :=
    if name.isEmpty then none
    else HttpRequest.to? .get (k.collection (some ns) ++ "/" ++ name) none
  interpret r :=
    match r.refusal? with
    | some s => if s.reason = "NotFound" then .ok none else .error (s.cause k name)
    | none => some <$> r.object k

def create (c : ApiClient) (obj : Object k) : ApiCall (Object k) where
  request :=
    if c.hasValidManager then
      HttpRequest.to? .post (k.collection (some obj.metadata.writtenTo) ++ c.query)
        (some (.whole obj.toJson))
    else none
  interpret := writtenObject k obj.displayName

def update (c : ApiClient) (obj : Object k) : ApiCall (Object k) where
  request :=
    if obj.displayName.isEmpty then none
    else
      HttpRequest.to? .put
        (k.collection (some obj.metadata.writtenTo) ++ "/" ++ obj.displayName ++ c.query)
        (some (.whole obj.toJson))
  interpret := writtenObject k obj.displayName

/-- The patch that writes the status of an object. -/
def statusPatch (obj : Object k) : Json :=
  .ofPresent
    [Record.present "metadata" (fun v => .ofFields [("resourceVersion", .string v)])
        obj.metadata.resourceVersion,
      Record.always "status" (Json.ofOption k.statusToJson obj.status)]

def updateStatus (c : ApiClient) (obj : Object k) : ApiCall (Object k) where
  request :=
    if obj.displayName.isEmpty || !c.hasValidManager then none
    else
      HttpRequest.to? .patch
        (k.collection (some obj.metadata.writtenTo) ++ "/" ++ obj.displayName ++ "/status"
          ++ c.query)
        (some (.patch (statusPatch obj)))
  interpret := writtenObject k obj.displayName

end ApiClient

end ServiceTemplates
