import WorkloadOperator.Store.Error
import WorkloadOperator.Text.Utf8

/-!
# Failures of the cluster interface

What can go wrong between the operator and the cluster, and which error of a
store it amounts to.  A failure that may pass makes the store unavailable.
-/

namespace WorkloadOperator

namespace Api

/-- Why a request is not sent. -/
inductive Refusal where
  /-- The object has an empty name. -/
  | emptyName
  /-- The name under which the operator writes is too long to create with. -/
  | createManager
  /-- The name under which the operator writes is too long to patch with. -/
  | patchManager
  /-- The target has a character that may not stand there. -/
  | badTarget
  /-- The target is too long. -/
  | longTarget
  deriving DecidableEq, Repr

/-- The wording of a refusal. -/
def Refusal.message : Refusal → String
  | .emptyName => "failed to validate request: A non-empty name is required"
  | .createManager =>
    "failed to validate request: Failed to validate PostParams::field_manager!"
  | .patchManager =>
    "failed to validate request: Failed to validate PatchParams::field_manager!"
  | .badTarget => "failed to build request: invalid uri character"
  | .longTarget => "failed to build request: uri too long"

/-- A failure. -/
inductive Failure where
  /-- The cluster refused the request. -/
  | refused (code : Nat) (reason : String) (message : String)
  /-- The answer is not what it has to be. -/
  | undecodable (why : String)
  /-- The answer is no text. -/
  | notText (fault : Utf8.Fault)
  /-- The cluster could not be reached. -/
  | transport (why : String)
  /-- The request was not sent. -/
  | unsent (why : Refusal)
  /-- A stream of answers has a line without an end. -/
  | unendedLine
  /-- The connection has to be encrypted, and can not be. -/
  | noEncryption
  deriving DecidableEq

namespace Failure

/-- Whether a failure says that there is no such object. -/
def saysAbsent : Failure → Bool
  | .refused _ reason _ => reason = "NotFound"
  | .undecodable _ | .notText _ | .transport _ | .unsent _ | .unendedLine | .noEncryption => false

/-- The error of a store that a failure amounts to. -/
def storeError : Failure → Store.Error
  | .refused code reason message =>
    if code = 404 then .notFound message
    else if code = 409 then
      if reason = "AlreadyExists" then .alreadyExists message else .conflict message
    else if code = 429 ∨ (500 ≤ code ∧ code ≤ 599) then .unavailable message
    else .invalid message
  | .undecodable why => .invalid why
  | .notText fault => .unavailable ("UTF-8 Error: " ++ fault.message)
  | .transport why => .unavailable ("ServiceError: " ++ why)
  | .unsent why => .unavailable ("Failed to build request: " ++ why.message)
  | .unendedLine => .unavailable "Error finding newline character"
  | .noEncryption => .unavailable "TLS required but no TLS stack selected"

end Failure

end Api

end WorkloadOperator
