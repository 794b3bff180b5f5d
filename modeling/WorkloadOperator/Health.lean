/-!
# Health routes

Two routes by which a cluster sees that the operator is alive.  They are read
only.  A request names its target by a path, or by a path behind a scheme and a
host.  What follows a question mark or a number sign does not count.
-/

namespace WorkloadOperator

namespace Health

/-- What is answered. -/
structure Response where
  status : Nat
  /-- The methods that are allowed, if another one was used. -/
  allow : Option String := none
  contentType : Option String := none
  body : String := ""
  deriving DecidableEq

/-- The routes. -/
def routes : List String := ["/health", "/healthz"]

/-- A target without its query and its fragment. -/
def bare (target : List Char) : List Char := target.takeWhile fun c => c ≠ '?' && c ≠ '#'

/-- Whether a character may stand in the name of a scheme. -/
def mayStandInScheme (c : Char) : Bool :=
  c.isAlphanum || c = '+' || c = '-' || c = '.' || c = '~'

/-- The path that a target names.  A host alone names none. -/
def path (target : String) : String :=
  let cs := bare target.toList
  match cs.dropWhile mayStandInScheme with
  | ':' :: '/' :: '/' :: rest => String.ofList (rest.dropWhile (· ≠ '/'))
  | _ => if cs.head? = some '/' then String.ofList cs else ""

/-- The answer to a request. -/
def respond (method target : String) : Response :=
  if routes.contains (path target) then
    let plain : Response := ⟨200, none, some "text/plain; charset=utf-8", "ok"⟩
    if method = "GET" then plain
    else if method = "HEAD" then { plain with body := "" }
    else { status := 405, allow := some "GET,HEAD" }
  else { status := 404 }

end Health

end WorkloadOperator
