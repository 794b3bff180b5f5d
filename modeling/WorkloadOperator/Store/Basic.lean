import WorkloadOperator.Selector
import WorkloadOperator.Store.Request

/-!
# The store in memory

A store files objects of five kinds under their keys.  One counter gives every
change of an object a version of its own, which is shared by all kinds.

The store keeps a journal of the changes that were asked of it, and a queue of
faults: a request that meets a fault fails with its error and does nothing else.
-/

namespace WorkloadOperator

/-- The objects of one kind. -/
abbrev Table (α : Type) := Dict Key α

namespace Store

/-- An error that waits for requests of one verb and kind. -/
structure Fault where
  verb : Verb
  kind : Kind
  error : Store.Error
  /-- How many times it strikes after the next time, none for always. -/
  further : Option Nat
  deriving DecidableEq

/-- A change in the journal. -/
structure Entry where
  verb : Verb
  kind : Kind
  name : String
  deriving DecidableEq

end Store

/-- A store. -/
structure Store where
  /-- The number of versions given so far.  It is taken to stay below `2 ^ 64`, where a counter of
  64 bits would start anew: that a version is never given twice relies on it. -/
  version : Nat := 0
  instances : Table Instance := .empty
  deployments : Table Deployment := .empty
  volumeClaims : Table VolumeClaim := .empty
  configMaps : Table ConfigMap := .empty
  runs : Table Run := .empty
  /-- The faults in the order in which they were injected. -/
  faults : List Store.Fault := []
  /-- The changes in the order in which they were made. -/
  journal : List Store.Entry := []
  deriving DecidableEq, Inhabited

namespace Store

/-- The store that holds nothing. -/
def empty : Store := {}

/-! ## Tables -/

/-- The objects of a kind. -/
def table (s : Store) : (κ : Kind) → Table κ.Object
  | .inst => s.instances
  | .deployment => s.deployments
  | .volumeClaim => s.volumeClaims
  | .configMap => s.configMaps
  | .run => s.runs

/-- Replace the objects of a kind. -/
def setTable (s : Store) : (κ : Kind) → Table κ.Object → Store
  | .inst, t => { s with instances := t }
  | .deployment, t => { s with deployments := t }
  | .volumeClaim, t => { s with volumeClaims := t }
  | .configMap, t => { s with configMaps := t }
  | .run, t => { s with runs := t }

@[simp] theorem table_setTable (s : Store) (κ : Kind) (t : Table κ.Object) :
    (s.setTable κ t).table κ = t := by
  cases κ <;> rfl

theorem table_setTable_of_ne (s : Store) {κ κ' : Kind} (t : Table κ.Object) (h : κ ≠ κ') :
    (s.setTable κ t).table κ' = s.table κ' := by
  cases κ <;> cases κ' <;> first | rfl | exact absurd rfl h

@[simp] theorem version_setTable (s : Store) (κ : Kind) (t : Table κ.Object) :
    (s.setTable κ t).version = s.version := by
  cases κ <;> rfl

@[simp] theorem faults_setTable (s : Store) (κ : Kind) (t : Table κ.Object) :
    (s.setTable κ t).faults = s.faults := by
  cases κ <;> rfl

@[simp] theorem journal_setTable (s : Store) (κ : Kind) (t : Table κ.Object) :
    (s.setTable κ t).journal = s.journal := by
  cases κ <;> rfl

/-- The object of a kind under a key. -/
def find? (s : Store) (κ : Kind) (key : Key) : Option κ.Object := (s.table κ).get? key

/-- File an object. -/
def put (s : Store) (κ : Kind) (key : Key) (o : κ.Object) : Store :=
  s.setTable κ ((s.table κ).insert key o)

/-- Drop an object. -/
def drop (s : Store) (κ : Kind) (key : Key) : Store := s.setTable κ ((s.table κ).erase key)

/-- The objects of a kind in a namespace that a selector selects, in the order of
their names. -/
def select (s : Store) (κ : Kind) (ns selector : String) : List κ.Object :=
  ((s.table κ).entries.filter fun e =>
    e.1.ns = ns ∧ Selector.admits (Selector.read selector) (Resource.metadata e.2)).map Prod.snd

/-- The names of the objects of a kind in a namespace. -/
def names (s : Store) (κ : Kind) (ns : String) : List String :=
  ((s.table κ).keys.filter fun k => k.ns = ns).map Key.name

/-! ## Versions and the journal -/

/-- Give a new version. -/
def bump (s : Store) : Store := { s with version := s.version + 1 }

/-- The text of the version given last. -/
def versionText (s : Store) : String := toString s.version

/-- Write a change into the journal. -/
def record (s : Store) (verb : Verb) (kind : Kind) (name : String) : Store :=
  { s with journal := s.journal ++ [⟨verb, kind, name⟩] }

/-- The metadata of an object that is filed in a namespace under a new version.
What tells it apart and when it was created stay if they are given. -/
def stamped (ns version : String) (m : Metadata) : Metadata :=
  { m with
    ns := some ns
    resourceVersion := some version
    uid := some (m.uid.getD ("uid-" ++ version))
    creationTimestamp := some (m.creationTimestamp.getD .now) }

/-- File an object under its own name with a new version. -/
def insert (s : Store) (κ : Kind) (ns : String) (o : κ.Object) : κ.Object × Store :=
  let s := s.bump
  let o := Resource.withMetadata o (stamped ns s.versionText (Resource.metadata o))
  (o, s.put κ ⟨ns, κ.nameOf o⟩ o)

/-- Whether a patch meant for a version applies to an Instance. -/
def meantFor (version : Option String) (i : Instance) : Bool :=
  match version with
  | none => true
  | some v => i.metadata.resourceVersion = some v

/-- What a patch that came too late is told. -/
def modified (i : Instance) (wanted : String) : Store.Error :=
  let present := match i.metadata.resourceVersion with
    | none => "None"
    | some v => "Some(" ++ quoted v ++ ")"
  .conflict ("Instance " ++ i.name ++ " was modified (have " ++ present ++ ", want " ++ wanted ++
    ")")

/-! ## Faults -/

/-- Use a fault once. -/
def Fault.used (f : Fault) : Option Fault :=
  match f.further with
  | none => some f
  | some 0 => none
  | some (n + 1) => some { f with further := some n }

/-- The error of the earliest fault for a verb and kind, and the faults that are
left after it struck. -/
def strike (verb : Verb) (kind : Kind) : List Fault → Option (Store.Error × List Fault)
  | [] => none
  | f :: fs =>
    if f.verb = verb ∧ f.kind = kind then some (f.error, f.used.toList ++ fs)
    else (strike verb kind fs).map fun (e, fs) => (e, f :: fs)

end Store

end WorkloadOperator
