import ServiceTemplates.Api.Target
import ServiceTemplates.Error
import ServiceTemplates.Json.Parser
import ServiceTemplates.Wire.Record

/-!
# Exchanges with the API server

Requests, responses, and calls. An `ApiCall` is a request together with the meaning of
its response; a call whose request cannot be made fails without one.

A response in the range of errors is a refusal. What it says is read from its text; a
text that says nothing readable stands for itself under the status of the response.
-/

namespace ServiceTemplates

inductive Method where
  | get
  | post
  | put
  | patch
deriving DecidableEq, Inhabited

def Method.name : Method → String
  | .get => "GET"
  | .post => "POST"
  | .put => "PUT"
  | .patch => "PATCH"

structure HttpBody where
  contentType : String
  json : Json

namespace HttpBody

def whole (j : Json) : HttpBody := ⟨"application/json", j⟩

/-- Changes to be merged into an object. -/
def patch (j : Json) : HttpBody := ⟨"application/merge-patch+json", j⟩

end HttpBody

structure HttpRequest where
  method : Method
  target : Target
  body : Option HttpBody := none

/-- A request to the target that a text addresses. -/
def HttpRequest.to? (method : Method) (address : String) (body : Option HttpBody) :
    Option HttpRequest :=
  (Target.ofText? address).map fun target => ⟨method, target, body⟩

structure HttpResponse where
  status : Nat
  text : String
deriving DecidableEq, Inhabited

def ApiStatus.ofJson? (j : Json) : Option ApiStatus := do
  let r ← j.record? ⟨["status", "message", "reason", "code"], 4⟩
  let _ ← Record.required r "status" Json.text?
  return {
    code := ← Record.required r "code" (Json.natBelow? 0x10000)
    reason := ← Record.withDefault r "reason" Json.text? ""
    message := ← Record.withDefault r "message" Json.text? "" }

namespace HttpResponse

def json? (r : HttpResponse) : Option Json := Json.parse? r.text

/-- What stands for a refusal without a readable status. -/
def unreadable (r : HttpResponse) : ApiStatus where
  code := r.status
  reason := "Failed to parse error data"
  message := Text.quoted r.text

/-- What a refusal says; none if the response is no refusal. -/
def refusal? (r : HttpResponse) : Option ApiStatus :=
  if 400 ≤ r.status ∧ r.status < 600 then
    some ((r.json?.bind ApiStatus.ofJson?).getD r.unreadable)
  else none

end HttpResponse

/-- A request and what its response means. -/
structure ApiCall (α : Type) where
  /-- The request; none if it cannot be made. -/
  request : Option HttpRequest
  interpret : HttpResponse → Except Error α

/-- Makes a call by way of `send`, which keeps a state. -/
def ApiCall.run {α σ : Type} (c : ApiCall α) (send : HttpRequest → σ → HttpResponse × σ) (s : σ) :
    Except Error α × σ :=
  match c.request with
  | none => (.error .exchange, s)
  | some r =>
    let (response, s) := send r s
    (c.interpret response, s)

end ServiceTemplates
