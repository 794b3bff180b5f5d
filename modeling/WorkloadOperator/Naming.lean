import WorkloadOperator.Channel
import WorkloadOperator.Selector

/-!
# Names and labels of children

The children of an Instance are found by their names and their labels alone, so
both follow from the name of the Instance and the channel.
-/

namespace WorkloadOperator

namespace Naming

/-- The label that says what a child is for. -/
def componentKey : String := "component"

/-- The label that names the channel a child serves. -/
def channelKey : String := "channel"

/-- The label that names the Instance a child belongs to. -/
def instanceKey : String := "instance"

/-- The component of workloads and session stores. -/
def channelComponent : String := "channel"

/-- The component of memory stores. -/
def memoryComponent : String := "memory"

/-- The name of the workload for a channel. -/
def workload (owner : String) (channel : Channel) : String :=
  owner ++ "-channel-" ++ channel.name

/-- The name of the session store for a channel. -/
def sessionStore (owner : String) (channel : Channel) : String := workload owner channel ++ "-data"

/-- The name of the memory store. -/
def memoryStore (owner : String) : String := owner ++ "-memory"

/-- The labels of what serves a channel. -/
def channelLabels (owner : String) (channel : Channel) : Labels :=
  .ofList [(componentKey, channelComponent), (channelKey, channel.name), (instanceKey, owner)]

/-- The labels of the memory store. -/
def memoryLabels (owner : String) : Labels :=
  .ofList [(componentKey, memoryComponent), (instanceKey, owner)]

/-- The selector of all children of an Instance with the same component. -/
def componentSelector (owner component : String) : String :=
  Selector.both (Selector.equals componentKey component) (Selector.equals instanceKey owner)

/-- The selector of everything that names the Instance. -/
def instanceSelector (owner : String) : String := Selector.equals instanceKey owner

end Naming

end WorkloadOperator
