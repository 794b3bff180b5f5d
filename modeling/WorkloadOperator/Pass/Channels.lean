import WorkloadOperator.Manifest
import WorkloadOperator.Pass.Error

/-!
# Serving the channels

For each declared channel in turn, the session store and the workload are created
if they are missing.  The first channel that fails ends the pass.  What was
created before is found by the next pass, so that attempts add up.
-/

namespace WorkloadOperator

namespace Pass

/-- Create the session store of a channel if it is missing. -/
def provideSession (adapters : Config.Adapters) (i : Instance) (o : Owner)
    (d : Channel.Declaration) : Pass Store.Error Unit := do
  let store := Naming.sessionStore o.name d.channel
  match ← ask (.get .volumeClaim ⟨o.ns, store⟩) with
  | some _ => return
  | none =>
    match ← (ask (.create .volumeClaim o.ns (o.sessionStore d adapters))).attempt with
    | .ok _ => tell (.sessionStoreCreated i store)
    | .error (.alreadyExists _) => return
    | .error e => .fail e

/-- How the workload of a channel is doing. -/
def linkOf (d : Deployment) : Channel.Link :=
  if 1 ≤ d.readyReplicas then .connected else .disconnected

/-- Create the workload of a channel if it is missing, and say how it is doing. -/
def provideWorkload (adapters : Config.Adapters) (i : Instance) (o : Owner)
    (d : Channel.Declaration) : Pass Store.Error Channel.Link := do
  let workload := Naming.workload o.name d.channel
  match ← ask (.get .deployment ⟨o.ns, workload⟩) with
  | some found => return linkOf found
  | none =>
    match ← (ask (.create .deployment o.ns (o.workload d adapters))).attempt with
    | .ok _ =>
      tell (.workloadCreated i workload)
      return .pending
    | .error (.alreadyExists _) => return .pending
    | .error e => .fail e

/-- Serve one channel.  Its session store is there before its workload is. -/
def serveChannel (adapters : Config.Adapters) (i : Instance) (o : Owner)
    (d : Channel.Declaration) : Pass Store.Error Channel.Link := do
  if d.channel.keepsSession then provideSession adapters i o d
  provideWorkload adapters i o d

/-- Serve channels in turn. -/
def serveEach (adapters : Config.Adapters) (i : Instance) (o : Owner) :
    List Channel.Declaration → Pass Pass.Error (List Channel.Report)
  | [] => .done []
  | d :: ds => do
    checkpoint
    let link ← (serveChannel adapters i o d).mapError (.channel d.channel)
    let reports ← serveEach adapters i o ds
    return ⟨d.channel, link⟩ :: reports

/-- Serve the channels that an Instance declares. -/
def serveChannels (adapters : Config.Adapters) (i : Instance) (o : Owner) :
    Pass Pass.Error (List Channel.Report) :=
  serveEach adapters i o i.spec.channels

end Pass

end WorkloadOperator
