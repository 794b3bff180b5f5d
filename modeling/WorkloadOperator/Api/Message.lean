import WorkloadOperator.Store.Request

/-!
# Messages to the cluster

The operator talks to the cluster in messages: each names a path, may carry
parameters and a body, and is answered by a status with a text, unless the
cluster cannot be reached.

The objects of a kind in a namespace form a collection with a path of its own.
-/

namespace WorkloadOperator

namespace Api

/-- What a message does with its path. -/
inductive Method where
  | get
  | post
  | patch
  | delete
  deriving DecidableEq, Repr

/-- The name of a method. -/
def Method.name : Method → String
  | .get => "GET"
  | .post => "POST"
  | .patch => "PATCH"
  | .delete => "DELETE"

/-- How a body is meant. -/
inductive Form where
  /-- As a value. -/
  | value
  /-- As a merge patch. -/
  | mergePatch
  deriving DecidableEq, Repr

/-- The name of a form. -/
def Form.name : Form → String
  | .value => "application/json"
  | .mergePatch => "application/merge-patch+json"

/-- A message to the cluster. -/
structure Message where
  method : Method
  path : String
  /-- The parameters in order. -/
  query : List (String × String) := []
  body : Option (Form × Json) := none
  deriving DecidableEq

/-- The text of a body.  What an object is stands before what it has. -/
def bodyText : Json → String
  | .obj members =>
    let isHeading (m : String × Json) : Bool := m.1 = "apiVersion" || m.1 = "kind"
    (Json.obj (members.filter isHeading ++ members.filter (!isHeading ·))).text
  | body => body.text

/-- What becomes of a message. -/
inductive Response where
  /-- The cluster answers with a status and a text. -/
  | answered (status : Nat) (octets : List UInt8)
  /-- The message does not arrive, and why. -/
  | unreachable (why : String)
  deriving DecidableEq

/-! ## Paths -/

/-- Where the kinds of a group and version are served.  Only the group without a
name has no part of its own. -/
def root : Kind → String
  | .inst | .run => "/apis/" ++ apiVersion
  | .deployment => "/apis/" ++ Deployment.apiVersion
  | .volumeClaim | .configMap => "/api/v1"

/-- The name of a kind in a path. -/
def plural : Kind → String
  | .inst => "instances"
  | .deployment => "deployments"
  | .volumeClaim => "persistentvolumeclaims"
  | .configMap => "configmaps"
  | .run => "runs"

/-- The part of a path that chooses a namespace, or all of them. -/
def scope : Option String → String
  | none => ""
  | some ns => "/namespaces/" ++ ns

/-- The path of the objects of a kind, in a namespace or in all of them. -/
def collection (κ : Kind) (ns : Option String) : String := root κ ++ scope ns ++ "/" ++ plural κ

/-- The path of an object. -/
def path (κ : Kind) (key : Key) : String := collection κ (some key.ns) ++ "/" ++ key.name

end Api

end WorkloadOperator
