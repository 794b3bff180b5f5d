import WorkloadOperator.Api.Client
import WorkloadOperator.Event
import WorkloadOperator.Json.MergePatch

/-!
# Publishing events

An event is published as an object of the cluster.  Events that differ in
nothing but their note are one event that happens again: the first of them is
created, and each later one patches it and counts how often it has happened.

A publication that fails is dropped, and the event counts as not published.
-/

namespace WorkloadOperator

namespace Api

/-- An event that was published. -/
structure Published where
  /-- The event as it was published first. -/
  first : Event
  /-- How often it was published. -/
  times : Nat
  deriving DecidableEq

/-- Who publishes events, and what was published. -/
structure Publisher where
  /-- The name under which events are published. -/
  manager : String
  published : List Published := []
  deriving DecidableEq

namespace Publisher

/-- Whether two events differ at most in their note. -/
def recurs (a b : Event) : Bool := { a with note := none } = { b with note := none }

/-- What the name of the object of an event begins with: what it is about. -/
def objectTopic (manager : String) (e : Event) : String := e.regarding.name.getD manager

/-- What the name of the object of an event ends with: when it happened first. -/
def objectTime : String := ".<time>"

/-- The name of the object of an event. -/
def objectName (manager : String) (e : Event) : String := objectTopic manager e ++ objectTime

/-- The namespace of an event: that of what it is about, else the default one. -/
def objectNamespace (e : Event) : String := e.regarding.ns.getD "default"

/-- The group and version of events. -/
def eventVersion : String := "events.k8s.io/v1"

/-- How often an event has happened, if it was more than once. -/
def series (times : Nat) : Option Json :=
  if times ≤ 1 then none
  else some (.record [
    ("count", some (.int times)),
    ("lastObservedTime", some Moment.now.encode)])

/-- The object of an event that has happened some times. -/
def object (manager : String) (e : Event) (times : Nat) : Json :=
  .record [
    ("action", some (.str e.action)),
    ("apiVersion", some (.str eventVersion)),
    ("eventTime", some Moment.now.encode),
    ("kind", some (.str "Event")),
    ("metadata", some (.record [
      ("name", some (.str (objectName manager e))),
      ("namespace", e.regarding.ns.map .str)])),
    ("note", e.note.map .str),
    ("reason", some (.str e.reason)),
    ("regarding", some e.regarding.encode),
    ("reportingController", some (.str manager)),
    ("reportingInstance", some (.str manager)),
    ("series", series times),
    ("type", some (.str e.severity.name))]

/-- The object of an event as it reads at a known time. -/
def dated (object : Json) : Json :=
  let time : Json := .str "1970-01-01T00:00:00Z"
  object.merge (.record [
    ("eventTime", some time),
    ("series", (object.get? "series").map fun _ => .obj [("lastObservedTime", time)])])

/-- The path of the events in a namespace. -/
def collection (ns : String) : String := "/apis/" ++ eventVersion ++ scope (some ns) ++ "/events"

/-- The message that publishes an event for the first time. -/
def creation (manager : String) (e : Event) : Message where
  method := .post
  path := collection (objectNamespace e)
  body := some (.value, object manager e 1)

/-- The message that publishes an event again, up to the time in its path. -/
def recurrence (manager : String) (e : Event) (times : Nat) : Message where
  method := .patch
  path := collection (objectNamespace e) ++ "/" ++ objectTopic manager e
  body := some (.mergePatch, object manager e times)

/-! ## Reading answers -/

/-- The outline of the source of an event. -/
def source : Outline := .resource "EventSource" [("component", .text), ("host", .text)]

/-- The outline of how often an event has happened. -/
def recurrences : Outline :=
  .cluster "EventSeries" [
    .nullable "count" .int32 .free,
    { key := "lastObservedTime", outline := Moment.outline, presence := .owed }]

/-- The outline of the object of an event. -/
def outline : Outline :=
  .object eventVersion "Event" [
    ("action", .text),
    ("deprecatedCount", .int32),
    ("deprecatedFirstTimestamp", Moment.outline),
    ("deprecatedLastTimestamp", Moment.outline),
    ("deprecatedSource", source),
    ("eventTime", Moment.outline),
    ("metadata", Metadata.outline),
    ("note", .text),
    ("reason", .text),
    ("regarding", Reference.outline),
    ("related", Reference.outline),
    ("reportingController", .text),
    ("reportingInstance", .text),
    ("series", recurrences),
    ("type", .text)]

/-- Whether the answer to a publication is the object of an event. -/
def isPublished (r : Response) : Bool :=
  match Client.accepted r with
  | .ok text => (Client.outlined outline text).isOk
  | .error _ => false

/-! ## Publishing -/

/-- Note that an event was published once more. -/
def noted (e : Event) : List Published → List Published
  | [] => [⟨e, 1⟩]
  | p :: rest =>
    if recurs p.first e then { p with times := p.times + 1 } :: rest else p :: noted e rest

/-- The first publication of an event, if there was one. -/
def earlier? (p : Publisher) (e : Event) : Option Published :=
  p.published.find? fun q => recurs q.first e

/-- The event as it was published first. -/
def firstOf (p : Publisher) (e : Event) : Event := ((p.earlier? e).map Published.first).getD e

/-- The message that publishes an event after what was published before. -/
def message (p : Publisher) (e : Event) : Except Refusal Message :=
  match p.earlier? e with
  | none => (creation p.manager e).addressed
  | some q => do
    let m ← (recurrence p.manager q.first (q.times + 1)).addressed
    return { m with path := m.path ++ objectTime }

/-- Publish an event, where `send` carries a message to the cluster. -/
def publish {σ : Type} (send : Message → σ → Response × σ) (e : Event) (p : Publisher) (s : σ) :
    Publisher × σ :=
  match p.message e with
  | .error _ => (p, s)
  | .ok m =>
    let (answer, s) := send m s
    (if isPublished answer then { p with published := noted e p.published } else p, s)

end Publisher

end Api

end WorkloadOperator
