import WorkloadOperator.Api.Message
import WorkloadOperator.Naming

/-!
# Notices

The operator watches the Instances, the workloads of channels and the Runs, in
one namespace or in all of them.  A notice says what became of one of them, and
with it which Instances are to be looked at: an Instance itself unless it is
gone, the owners of a workload, and the Instance that a Run names.

Notices of one kind are taken in the order in which they come.  Where notices of
several kinds wait, the kinds take turns.
-/

namespace WorkloadOperator

namespace Controller

/-- An Instance that is to be looked at.  It may be none that exists. -/
structure Subject where
  ns : Option String
  name : String
  deriving DecidableEq

/-- What is watched. -/
inductive Watched where
  | instances
  | workloads
  | runs
  deriving DecidableEq, Repr

namespace Watched

/-- All that is watched. -/
def all : List Watched := [.instances, .workloads, .runs]

/-- The kind of what is watched. -/
def kind : Watched → Kind
  | .instances => .inst
  | .workloads => .deployment
  | .runs => .run

/-- The selector of what is watched. -/
def selector : Watched → String
  | .workloads => Selector.equals Naming.componentKey Naming.channelComponent
  | .instances | .runs => ""

/-- Where it is watched, in a namespace or in all of them. -/
def path (w : Watched) (ns : Option String) : String := Api.collection w.kind ns

end Watched

/-- What became of an object. -/
inductive Change where
  | added
  | modified
  | deleted
  /-- Nothing: the watch has only come to this point. -/
  | bookmark
  deriving DecidableEq, Repr

/-- What became of an object that is watched. -/
structure Notice where
  watched : Watched
  change : Change
  metadata : Metadata

/-- The Instance that has this metadata. -/
def Subject.ofMetadata (m : Metadata) : Subject := ⟨m.ns, m.displayName⟩

/-- The Instances that own what has this metadata.  An owner is in the same
namespace. -/
def Subject.owners (m : Metadata) : List Subject :=
  ((m.ownerReferences.getD []).filter fun o =>
    o.apiVersion = apiVersion ∧ o.kind = Kind.inst.name).map fun o => ⟨m.ns, o.name⟩

/-- The Instance that a Run with this metadata names, in the same namespace. -/
def Subject.named (m : Metadata) : List Subject :=
  match m.ns, m.label? Naming.instanceKey with
  | some ns, some name => [⟨some ns, name⟩]
  | _, _ => []

/-- Whether a notice is about an object that has no name, which none may be about. -/
def Notice.isNameless (n : Notice) : Bool := n.change ≠ .bookmark && n.metadata.name.isNone

/-- The Instances that are to be looked at after a notice. -/
def Notice.subjects (n : Notice) : List Subject :=
  match n.change, n.watched with
  | .bookmark, _ => []
  | .deleted, .instances => []
  | _, .instances => [.ofMetadata n.metadata]
  | _, .workloads => Subject.owners n.metadata
  | _, .runs => Subject.named n.metadata

/-- The Instances that are known after a notice. -/
def Notice.learn (n : Notice) (known : List Subject) : List Subject :=
  let i := Subject.ofMetadata n.metadata
  match n.watched, n.change with
  | .instances, .added | .instances, .modified => if i ∈ known then known else known ++ [i]
  | .instances, .deleted => known.filter (· ≠ i)
  | _, _ => known

/-! ## Several notices -/

/-- The elements of some lists, where the lists take turns. -/
def takeTurns {α : Type} : List (List α) → List α
  | [] => []
  | [] :: ls => takeTurns ls
  | (a :: as) :: ls => a :: takeTurns (ls ++ [as])
termination_by ls => ls.flatten.length + ls.length

/-- The kinds of what notices are about, in the order of their first notices. -/
def kindsOf (ns : List Notice) : List Watched := (ns.map Notice.watched).eraseDups

/-- The Instances that are to be looked at after some notices, in order. -/
def subjectsOf (ns : List Notice) : List Subject :=
  takeTurns ((kindsOf ns).map fun w => (ns.filter (·.watched = w)).flatMap Notice.subjects)

end Controller

end WorkloadOperator
