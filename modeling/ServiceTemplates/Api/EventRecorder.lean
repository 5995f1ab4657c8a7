import ServiceTemplates.Api.Client
import ServiceTemplates.Pass.Run
import ServiceTemplates.Wire.ObjectReference

/-!
# Publishing warnings

Warnings are published as events. The first warning about an object for a reason
creates an event; a repeated one goes on counting in the event that is remembered,
whose wording stays that of the first. An event is remembered once the server has
taken it.
-/

namespace ServiceTemplates

structure EventSeries where
  count : Nat
  lastObserved : String
deriving DecidableEq, Inhabited

structure Event where
  name : String
  warning : Warning
  reporter : String
  time : String
  series : Option EventSeries := none
deriving DecidableEq, Inhabited

namespace Event

def apiVersion : String := "events.k8s.io/v1"

def publishedIn (e : Event) : String := e.warning.about.ns.getD "default"

def toJson (e : Event) : Json :=
  let metadata : Metadata := { name := some e.name, ns := e.warning.about.ns }
  .ofPresent
    [Record.always "apiVersion" (.string apiVersion),
      Record.always "kind" (.string "Event"),
      Record.always "metadata" metadata.toJson,
      Record.always "action" (.string "Synchronize"),
      Record.always "eventTime" (.string e.time),
      Record.always "note" (.string e.warning.note),
      Record.always "reason" (.string e.warning.reason),
      Record.always "regarding" e.warning.about.toJson,
      Record.always "reportingController" (.string controllerName),
      Record.always "reportingInstance" (.string e.reporter),
      Record.present "series"
        (fun (s : EventSeries) =>
          .ofFields [("count", .ofNat s.count), ("lastObservedTime", .string s.lastObserved)])
        e.series,
      Record.always "type" (.string "Warning")]

def collection (e : Event) : String :=
  "/apis/" ++ apiVersion ++ "/namespaces/" ++ e.publishedIn ++ "/events"

def isHeldBy (r : HttpResponse) : Bool :=
  match r.json?.bind Json.fields? with
  | some fields =>
    (Record.mark? fields "apiVersion" apiVersion).isSome
      && (Record.mark? fields "kind" "Event").isSome
  | none => false

/-- The call that publishes an event: a repeated one is patched. -/
def publish (e : Event) : ApiCall Unit where
  request :=
    match e.series with
    | none => HttpRequest.to? .post (e.collection ++ "?") (some (.whole e.toJson))
    | some _ => HttpRequest.to? .patch (e.collection ++ "/" ++ e.name ++ "?") (some (.patch e.toJson))
  interpret r :=
    match r.refusal? with
    | some s => .error (.refused s)
    | none => if isHeldBy r then .ok () else .error .exchange

end Event

structure EventRecorder where
  reporter : String := controllerName
  /-- The events that the server has taken, the latest first. -/
  remembered : List Event := []

/-- The moment of a warning, in the two forms in which it is written. -/
structure Moment where
  time : String
  /-- The moment as the ending of a name. -/
  stamp : String

namespace EventRecorder

/-- Whether an event is about the same object for the same reason as a warning. -/
def isAbout (w : Warning) (e : Event) : Bool :=
  e.warning.reason == w.reason && e.warning.about == w.about

/-- The event to publish for a warning: the remembered one counted on, or a new one. -/
def next (r : EventRecorder) (w : Warning) (now : Moment) : Event :=
  match r.remembered.find? (isAbout w) with
  | some e =>
    let count := (e.series.map EventSeries.count).getD 1 + 1
    { e with series := some ⟨count, now.time⟩ }
  | none =>
    { name := w.about.name.getD controllerName ++ "." ++ now.stamp
      warning := w
      reporter := r.reporter
      time := now.time }

/-- Publishes a warning by way of `send`. A failure goes unnoticed, but then the event
is not remembered. -/
def record {σ : Type} (r : EventRecorder) (w : Warning) (now : Moment)
    (send : HttpRequest → σ → HttpResponse × σ) (s : σ) : EventRecorder × σ :=
  let e := r.next w now
  match e.publish.run send s with
  | (.ok (), s) => ({ r with remembered := e :: r.remembered.filter fun old => !isAbout w old }, s)
  | (.error _, s) => (r, s)

end EventRecorder

end ServiceTemplates
