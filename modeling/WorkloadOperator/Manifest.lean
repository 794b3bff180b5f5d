import WorkloadOperator.Config
import WorkloadOperator.ConfigMap
import WorkloadOperator.Deployment
import WorkloadOperator.Instance
import WorkloadOperator.Naming
import WorkloadOperator.VolumeClaim

/-!
# Manifests of children

What the operator creates for an Instance: one workload for each channel, a
session store for a channel that keeps one, and a memory store.  Each manifest
names the Instance as its owner and carries the labels by which it is found
again.
-/

namespace WorkloadOperator

/-- The Instance that a child belongs to. -/
structure Owner where
  name : String
  ns : String
  uid : String
  deriving DecidableEq

namespace Owner

/-- The owner references of a child. -/
def references (o : Owner) : List OwnerReference :=
  [{ apiVersion := apiVersion
     kind := "Instance"
     name := o.name
     uid := o.uid
     controller := some true
     blockOwnerDeletion := some true }]

/-- The metadata of a child. -/
def child (o : Owner) (name : String) (labels : Labels) : Metadata where
  name := some name
  ns := some o.ns
  labels := some labels
  ownerReferences := some o.references

/-- The volume that holds a session. -/
def sessionVolume : String := "session-data"

/-- Where an adapter finds its session. -/
def sessionPath : String := "/data"

/-- The environment of an adapter. -/
def environment (o : Owner) (adapters : Config.Adapters) : List Deployment.Variable :=
  [{ name := "INSTANCE_NAME", value := some o.name },
   { name := "EVENT_BUS_URL", value := some adapters.eventBus }]

/-- The container of an adapter. -/
def container (o : Owner) (d : Channel.Declaration) (adapters : Config.Adapters) :
    Deployment.Container where
  name := "adapter"
  image := some (adapters.image d.channel.name)
  env := some (o.environment adapters)
  envFrom := d.secret.map fun s => [some { name := s, optional := some false }]
  mounts := if d.channel.keepsSession then some [{ volume := sessionVolume, path := sessionPath }]
    else none

/-- The pod of an adapter. -/
def pod (o : Owner) (d : Channel.Declaration) (adapters : Config.Adapters) : Deployment.Pod where
  containers := [o.container d adapters]
  volumes :=
    if d.channel.keepsSession then
      some [{
        name := sessionVolume
        source := some {
          claim := Naming.sessionStore o.name d.channel
          readOnly := some false } }]
    else none

/-- The workload of a channel.  It has one replica, and where a session is kept
the old pod ends before a new one starts, so that no two share the session. -/
def workload (o : Owner) (d : Channel.Declaration) (adapters : Config.Adapters) : Deployment :=
  let labels := Naming.channelLabels o.name d.channel
  { metadata := o.child (Naming.workload o.name d.channel) labels
    spec := some {
      replicas := some 1
      selector := some labels
      strategy := if d.channel.keepsSession then some { type := some "Recreate" } else none
      template := { metadata := some { labels := some labels }, pod := some (o.pod d adapters) } } }

/-- The session store of a channel. -/
def sessionStore (o : Owner) (d : Channel.Declaration) (adapters : Config.Adapters) :
    VolumeClaim where
  metadata := o.child (Naming.sessionStore o.name d.channel)
    (Naming.channelLabels o.name d.channel)
  spec := some {
    accessModes := some ["ReadWriteOnce"]
    requests := some (.ofList [("storage", adapters.storageSize)])
    storageClass := adapters.storageClass }

/-- The key of the notes in a memory store. -/
def memoryKey : String := "MEMORY.md"

/-- What the notes start with. -/
def memorySeed : String := "# Memory\n\nLong-term notes for this instance.\n"

/-- The memory store.  After its creation the content belongs to the agent. -/
def memoryStore (o : Owner) : ConfigMap where
  metadata := o.child (Naming.memoryStore o.name) (Naming.memoryLabels o.name)
  data := some (.ofList [(memoryKey, memorySeed)])

end Owner

end WorkloadOperator
