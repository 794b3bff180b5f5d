import WorkloadOperator.Kind
import WorkloadOperator.Store.Error

/-!
# Requests to a store

What the operator may ask of a store, and what it is answered.  Reads and lists
change nothing.  A patch may name the version it is meant for, and is refused if
the object has changed since.
-/

namespace WorkloadOperator

/-- What is done with objects. -/
inductive Verb where
  | get
  | list
  | create
  | delete
  | patch
  deriving DecidableEq, Repr

namespace Verb

/-- The name of a verb. -/
def name : Verb → String
  | .get => "Get"
  | .list => "List"
  | .create => "Create"
  | .delete => "Delete"
  | .patch => "Patch"

/-- All verbs. -/
def all : List Verb := [.get, .list, .create, .delete, .patch]

end Verb

/-- A request to a store. -/
inductive Request where
  /-- Read an Instance. -/
  | getInstance (key : Key)
  /-- Read a child. -/
  | get (c : Child) (key : Key)
  /-- Create a child in a namespace. -/
  | create (c : Child) (ns : String) (object : c.Object)
  /-- List the children in a namespace that a selector selects. -/
  | list (c : Child) (ns : String) (selector : String)
  /-- Delete a child. -/
  | delete (c : Child) (key : Key)
  /-- List the Runs in a namespace that a selector selects. -/
  | listRuns (ns : String) (selector : String)
  /-- Replace the finalizers of an Instance. -/
  | patchFinalizers (key : Key) (version : Option String) (finalizers : List String)
  /-- Merge a patch into the status of an Instance. -/
  | patchStatus (key : Key) (version : Option String) (patch : Json)

namespace Request

/-- What a request is answered if it succeeds. -/
abbrev Reply : Request → Type
  | .getInstance _ => Option Instance
  | .get c _ => Option c.Object
  | .create c _ _ => c.Object
  | .list c _ _ => List c.Object
  | .delete _ _ => Unit
  | .listRuns _ _ => List Run
  | .patchFinalizers _ _ _ => Unit
  | .patchStatus _ _ _ => Unit

/-- The answer to a request. -/
abbrev Answer (r : Request) : Type := Except Store.Error r.Reply

/-- What a request does. -/
def verb : Request → Verb
  | .getInstance _ | .get _ _ => .get
  | .create _ _ _ => .create
  | .list _ _ _ | .listRuns _ _ => .list
  | .delete _ _ => .delete
  | .patchFinalizers _ _ _ | .patchStatus _ _ _ => .patch

/-- What a request does it with. -/
def kind : Request → Kind
  | .getInstance _ | .patchFinalizers _ _ _ | .patchStatus _ _ _ => .inst
  | .get c _ | .create c _ _ | .list c _ _ | .delete c _ => c.kind
  | .listRuns _ _ => .run

end Request

end WorkloadOperator
