import ServiceTemplates.Api.Target

/-!
# Health routes

What the controller's own server answers: its counters, that it is alive, and whether it
is ready. Only reading requests are answered, and only on these paths.
-/

namespace ServiceTemplates

structure ServerState where
  isServing : Bool := false
  /-- Whether the caches are filled and the controller runs. -/
  isReady : Bool := false
deriving DecidableEq, Inhabited

structure Answer where
  status : Nat
  /-- The type of the contents, if there are any. -/
  contentType : Option String := none
deriving DecidableEq, Inhabited

namespace ServerState

/-- The answer to a reading request of a path; none for an unknown path. -/
def read? (s : ServerState) : String → Option Answer
  | "/metrics" => some ⟨200, some "text/plain; version=0.0.4; charset=utf-8"⟩
  | "/healthz" => some ⟨200, none⟩
  | "/readyz" => some ⟨if s.isReady then 200 else 503, none⟩
  | _ => none

def answer (s : ServerState) (method address : String) : Answer :=
  match (Target.ofText? address).bind fun target => s.read? target.path with
  | none => ⟨404, none⟩
  | some found => if method = "GET" ∨ method = "HEAD" then found else ⟨405, none⟩

end ServerState

end ServiceTemplates
