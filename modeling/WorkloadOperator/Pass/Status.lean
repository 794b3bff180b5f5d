import WorkloadOperator.Naming
import WorkloadOperator.Pass.Error

/-!
# Recording the status

The status is written as a merge patch of the members that changed, so that
nothing is written if nothing changed.
-/

namespace WorkloadOperator

namespace Instance.Status

/-- The patch that takes a status, or none, to another one.  There is none if
they are equal. -/
def diff (before : Option Status) (after : Status) : Option Json :=
  let old := (before.map members).getD []
  match after.members.filter fun m => Entries.get? m.1 old ≠ some m.2 with
  | [] => none
  | changed => some (.obj changed)

end Instance.Status

namespace Pass

/-- The number of Runs of an Instance that are going on. -/
def countRuns (ns owner : String) : Pass Store.Error Int64 := do
  let runs ← ask (.listRuns ns (Naming.instanceSelector owner))
  return Int64.ofNat (runs.countP Run.isRunning)

/-- Write the status of an Instance if it differs from the one it was read
with. -/
def recordStatus (ns : String) (i : Instance) (desired : Instance.Status) :
    Pass Pass.Error Unit :=
  match Instance.Status.diff i.status desired with
  | some patch => askStore (.patchStatus ⟨ns, i.name⟩ i.metadata.resourceVersion patch)
  | none => .done ()

/-- Write the error phase into the status that the Instance was read with, and
tell of it.  Neither happens if the Instance is in that phase already. -/
def recordFailure {ε : Type} (ns : String) (i : Instance) (cause : Pass.Error) : Pass ε Unit :=
  let desired := { i.status.getD {} with phase := .error }
  match Instance.Status.diff i.status desired with
  | none => .done ()
  | some patch => do
    let _ ← (ask (.patchStatus ⟨ns, i.name⟩ i.metadata.resourceVersion patch)).attempt
    tell (.convergeFailed i cause.message)

end Pass

end WorkloadOperator
