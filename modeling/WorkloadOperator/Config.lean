import WorkloadOperator.Channel
import WorkloadOperator.Dict
import WorkloadOperator.Text.Blank

/-!
# Configuration

The settings of the operator and how they are read from an environment.  A
variable that is not set has a default, a number is written in decimal digits
with an optional plus sign, and of several unreadable numbers the first in the
order of the settings is reported.
-/

namespace WorkloadOperator

namespace Config

/-- The settings of the channel adapters. -/
structure Adapters where
  /-- The address of the message bus. -/
  eventBus : String := "nats://event-bus.default.svc.cluster.local:4222"
  /-- Where the images of the adapters are. -/
  imageRegistry : String := "ghcr.io/agents-dev"
  /-- Which version of the images is used. -/
  imageTag : String := "latest"
  /-- The size of a session store. -/
  storageSize : String := "1Gi"
  /-- The storage class of a session store, none for that of the cluster. -/
  storageClass : Option String := none
  deriving DecidableEq, Inhabited

/-- How long the operator waits between two passes, in seconds. -/
structure Intervals where
  /-- After a pass that failed. -/
  onError : Nat := 30
  /-- After a pass that succeeded. -/
  steady : Nat := 60
  deriving DecidableEq, Inhabited

end Config

/-- The settings of the operator. -/
structure Config where
  /-- The port of the health routes. -/
  port : Nat := 8088
  /-- The namespace to watch as it was given. -/
  watched : String := ""
  /-- The name under which the operator writes. -/
  fieldManager : String := "instance-operator"
  adapters : Config.Adapters := {}
  intervals : Config.Intervals := {}
  deriving DecidableEq, Inhabited

namespace Config

/-- Why an environment gives no settings. -/
inductive Error where
  /-- The variable is not a number in its range. -/
  | unreadable (variableName : String)
  deriving DecidableEq

/-- The wording of an error. -/
def Error.message : Error → String
  | .unreadable name => "Failed to parse environment variable " ++ name

/-- The number that a text is, if it is at most `most`: decimal digits after an
optional plus sign. -/
def readNumber (most : Nat) (s : String) : Option Nat :=
  let digits := match s.toList with
    | '+' :: rest => rest
    | cs => cs
  if digits ≠ [] ∧ digits.all Char.isDigit ∧ Nat.ofDigitChars 10 digits 0 ≤ most then
    some (Nat.ofDigitChars 10 digits 0)
  else none

/-- The number in a variable. -/
def number (env : Dict String String) (name : String) (most absent : Nat) : Except Error Nat :=
  match env.get? name with
  | none => .ok absent
  | some s =>
    match readNumber most s with
    | some n => .ok n
    | none => .error (.unreadable name)

/-- The text in a variable. -/
def text (env : Dict String String) (name absent : String) : String := (env.get? name).getD absent

/-- The settings that an environment gives. -/
def ofEnv (env : Dict String String) : Except Error Config := do
  let absent : Config := {}
  let port ← number env "HTTP_PORT" (UInt16.size - 1) absent.port
  let onError ← number env "OPERATOR_REQUEUE_ERROR_SECS" (UInt64.size - 1) absent.intervals.onError
  let steady ← number env "OPERATOR_REQUEUE_STEADY_SECS" (UInt64.size - 1) absent.intervals.steady
  .ok {
    port
    watched := text env "OPERATOR_WATCH_NAMESPACE" absent.watched
    fieldManager := text env "OPERATOR_FIELD_MANAGER" absent.fieldManager
    adapters := {
      eventBus := text env "OPERATOR_EVENT_BUS_URL" absent.adapters.eventBus
      imageRegistry := text env "OPERATOR_CHANNEL_IMAGE_REGISTRY" absent.adapters.imageRegistry
      imageTag := text env "OPERATOR_CHANNEL_IMAGE_TAG" absent.adapters.imageTag
      storageSize := text env "OPERATOR_CREDENTIAL_STORAGE_SIZE" absent.adapters.storageSize
      storageClass := env.get? "OPERATOR_CREDENTIAL_STORAGE_CLASS" }
    intervals := { onError, steady } }

/-- The namespace to watch, none for all of them. -/
def watchNamespace (c : Config) : Option String :=
  let ns := trimmed c.watched
  if ns = "" then none else some ns

/-- Where the health routes are served: on every interface. -/
def address (c : Config) : String := "0.0.0.0:" ++ toString c.port

/-- The image of the adapter for a channel of this name. -/
def Adapters.image (a : Adapters) (channel : String) : String :=
  let registry := (a.imageRegistry.toList.reverse.dropWhile (· = '/')).reverse
  String.ofList registry ++ "/channel-" ++ channel ++ ":" ++ a.imageTag

end Config

end WorkloadOperator
