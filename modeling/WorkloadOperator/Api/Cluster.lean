import WorkloadOperator.Api.Publisher
import WorkloadOperator.Pass.Step
import WorkloadOperator.Rehearsal

/-!
# A cluster in memory

A rehearsed store that is reached through the cluster interface.  It goes by the
path of a message as it arrives, which is another one than was meant if a name
holds a mark that parts a path.  What is not in a collection is not found.

It refuses what the store refuses, with a status for each kind of error and the
wording of the store as message, so that the operator sees an error of its own that
quotes the error of the store.

The cluster keeps the traffic: the messages with their status, and the events.
-/

namespace WorkloadOperator

namespace Api

/-- Something that passed between the operator and a cluster. -/
inductive Exchange where
  /-- A message, with the status that it was answered with. -/
  | answered (method : Method) (path : String) (status : Nat)
  /-- An event, with the note of the first event that it repeats. -/
  | told (e : Event)
  deriving DecidableEq

/-- A cluster in memory. -/
structure Cluster where
  rehearsal : Rehearsal := {}
  /-- Who publishes events. -/
  publisher : Publisher
  /-- What has passed, in order. -/
  traffic : List Exchange := []

namespace Cluster

/-- How the cluster refuses what the store refuses. -/
def refusal (e : Store.Error) : Nat × String :=
  match e with
  | .notFound _ => (404, "NotFound")
  | .alreadyExists _ => (409, "AlreadyExists")
  | .conflict _ => (409, "Conflict")
  | .unavailable _ => (503, "ServiceUnavailable")
  | .invalid _ => (422, "Invalid")

/-- The status that an answer of the store is given with. -/
def status : (r : Request) → r.Answer → Nat
  | _, .error e => (refusal e).1
  | .getInstance _, .ok found => if found.isSome then 200 else 404
  | .get _ _, .ok found => if found.isSome then 200 else 404
  | .create _ _ _, .ok _ => 201
  | _, .ok _ => 200

/-- An answer of the store as it is read behind the cluster interface. -/
def reread (r : Request) : r.Answer → r.Answer
  | .ok reply => .ok reply
  | .error e => Client.failing r (.refused (refusal e).1 (refusal e).2 e.message)

/-- The namespace that a path names, and what stands behind the collection of a
kind in it. -/
def place? (κ : Kind) (path : String) : Option (String × List String) :=
  let above := (root κ ++ scope (some "")).toList
  let cs := path.toList
  if above.isPrefixOf cs then
    match ((cs.drop above.length).splitOn '/').map String.ofList with
    | ns :: collection :: rest => if collection = plural κ then some (ns, rest) else none
    | _ => none
  else none

/-- The namespace whose collection a path names. -/
def collection? (κ : Kind) (path : String) : Option String :=
  match place? κ path with
  | some (ns, []) => some ns
  | _ => none

/-- The key of the object that a path names, or of which it names a part. -/
def key? (κ : Kind) (path : String) : Option Key :=
  match place? κ path with
  | some (ns, name :: _) => some ⟨ns, name⟩
  | _ => none

/-- The answer of the store to a request that arrives at a path, and the rehearsal
after it. -/
def arrive (path : String) (w : Rehearsal) :
    (r : Request) → Option (r.Answer × Rehearsal)
  | .getInstance _ => (key? .inst path).map fun key => w.serve (.getInstance key)
  | .get c _ => (key? c.kind path).map fun key => w.serve (.get c key)
  | .create c _ o => (collection? c.kind path).map fun ns => w.serve (.create c ns o)
  | .list c _ selector => (collection? c.kind path).map fun ns => w.serve (.list c ns selector)
  | .delete c _ => (key? c.kind path).map fun key => w.serve (.delete c key)
  | .listRuns _ selector => (collection? .run path).map fun ns => w.serve (.listRuns ns selector)
  | .patchFinalizers _ version finalizers =>
    (key? .inst path).map fun key => w.serve (.patchFinalizers key version finalizers)
  | .patchStatus _ version patch =>
    (key? .inst path).map fun key => w.serve (.patchStatus key version patch)

/-- How the cluster refuses a message whose path names nothing. -/
def nowhere : Failure := .refused 404 "NotFound" "no such path"

/-- The answer to a request, and the cluster after it. -/
def serve (c : Client) (r : Request) (w : Cluster) : r.Answer × Cluster :=
  match c.message r with
  | .error e => (Client.failing r (.unsent e), w)
  | .ok m =>
    match arrive m.path w.rehearsal r with
    | some (answer, rehearsal) => (reread r answer, { w with
        rehearsal
        traffic := w.traffic ++ [.answered m.method m.path (status r answer)] })
    | none => (Client.failing r nowhere, { w with
        traffic := w.traffic ++ [.answered m.method m.path 404] })

/-- Publish an event, which the cluster takes if it is sent. -/
def publish (e : Event) (w : Cluster) : Cluster :=
  match w.publisher.message e with
  | .error _ => w
  | .ok _ => { w with
    publisher := { w.publisher with published := Publisher.noted e w.publisher.published }
    traffic := w.traffic ++ [.told (w.publisher.firstOf e)] }

/-- What a pass runs against if a cluster in memory answers. -/
def surroundings (c : Client) : Pass.Surroundings Cluster where
  serve := serve c
  isCancelled w := w.rehearsal.cancelled
  publish := publish

/-- What is sent to a cluster in memory. -/
def outbound (c : Client) : Pass.Outbound Cluster where
  request r _ := (c.message r).isOk
  event e w := (w.publisher.message e).isOk

end Cluster

end Api

end WorkloadOperator
