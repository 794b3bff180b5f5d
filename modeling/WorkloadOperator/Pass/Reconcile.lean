import WorkloadOperator.Pass.Channels
import WorkloadOperator.Pass.Memory
import WorkloadOperator.Pass.Status
import WorkloadOperator.Pass.Teardown

/-!
# A whole pass

A pass reads the Instance and brings it a step nearer to what it declares, or
tears it down.  It remembers nothing of earlier passes.
-/

namespace WorkloadOperator

namespace Pass

/-- Bring the children and the status of an Instance to what it declares. -/
def converge (cfg : Config) (ns : String) (i : Instance) : Pass Pass.Error Action :=
  match i.metadata.uid with
  | none => .fail (.invariant ("Instance " ++ ns ++ "/" ++ i.name ++ " has no uid"))
  | some uid => do
    let owner : Owner := ⟨i.name, ns, uid⟩
    match ← (serveChannels cfg.adapters i owner).attempt with
    | .error .cancelled => .fail .cancelled
    | .error e =>
      recordFailure ns i e
      .fail e
    | .ok channels =>
      checkpoint
      provideMemory i owner
      let activeRuns ← (countRuns ns i.name).mapError .store
      checkpoint
      recordStatus ns i { phase := .running, channels, activeRuns }
      return .requeue cfg.intervals.steady

/-- What is done for an Instance that has just been read. -/
def advance (cfg : Config) (ns : String) (i : Instance) : Pass Pass.Error Action :=
  if i.isDeleting then teardown cfg.intervals ns i else converge cfg ns i

/-- A pass for the Instance under a key. -/
def reconcile (cfg : Config) (key : Key) : Pass Pass.Error Action := do
  match ← askStore (.getInstance key) with
  | none => return .awaitChange
  | some i =>
    match i.stage with
    | .held | .released => teardown cfg.intervals key.ns i
    | .alive => converge cfg key.ns i
    | .unmarked =>
      checkpoint
      mark key.ns i
      match ← askStore (.getInstance key) with
      | none => return .awaitChange
      | some fresh => advance cfg key.ns fresh

end Pass

end WorkloadOperator
