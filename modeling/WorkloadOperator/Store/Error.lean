/-!
# Errors of a store

What can go wrong with a request to a store, as far as it makes a difference to
the one who asked.
-/

namespace WorkloadOperator

/-- Why a store refused a request. -/
inductive Store.Error where
  /-- There is no such object. -/
  | notFound (what : String)
  /-- An object of that name is there already. -/
  | alreadyExists (what : String)
  /-- The object was changed since it was read. -/
  | conflict (what : String)
  /-- The store could not be reached, or not now. -/
  | unavailable (what : String)
  /-- The request makes no sense to the store. -/
  | invalid (what : String)
  deriving DecidableEq, Repr

namespace Store.Error

/-- The wording of an error. -/
def message : Store.Error → String
  | .notFound what => "not found: " ++ what
  | .alreadyExists what => "already exists: " ++ what
  | .conflict what => "conflict: " ++ what
  | .unavailable what => "store unavailable: " ++ what
  | .invalid what => "invalid request: " ++ what

/-- Whether the object is missing. -/
def isNotFound : Store.Error → Bool
  | .notFound _ => true
  | .alreadyExists _ | .conflict _ | .unavailable _ | .invalid _ => false

/-- Whether the object is there already. -/
def isAlreadyExists : Store.Error → Bool
  | .alreadyExists _ => true
  | .notFound _ | .conflict _ | .unavailable _ | .invalid _ => false

/-- The result of a deletion, for one who is content if the object is gone. -/
def ignoreMissing : Except Store.Error Unit → Except Store.Error Unit
  | .error e => if e.isNotFound then .ok () else .error e
  | .ok () => .ok ()

end Store.Error

end WorkloadOperator
