/-!
# Shutting down

The operator shuts down once, and all passes in progress are cancelled with it:
the token of a pass is a child of the token of the operator.
-/

namespace WorkloadOperator

/-- A token that can be cancelled, itself or with one it depends on. -/
inductive Token where
  /-- A token of its own. -/
  | root (cancelled : Bool)
  /-- A token that depends on another one. -/
  | child (cancelled : Bool) (parent : Token)
  deriving DecidableEq

namespace Token

/-- Whether the token is cancelled. -/
def isCancelled : Token → Bool
  | .root cancelled => cancelled
  | .child cancelled parent => cancelled || parent.isCancelled

/-- Cancel the token. -/
def cancel : Token → Token
  | .root _ => .root true
  | .child _ parent => .child true parent

/-- The token after waiting for a signal, which may have come, or until it is
cancelled otherwise. -/
def afterWaiting (signalled : Bool) (t : Token) : Token := if signalled then t.cancel else t

end Token

end WorkloadOperator
