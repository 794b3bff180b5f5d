import WorkloadOperator.Metadata
import WorkloadOperator.Text.Blank

/-!
# Label selectors

A selector lists labels with the values they have to have, as in
`component=channel,instance=bot`.  Blanks around keys and values do not count,
and a part without an equals sign is passed over.
-/

namespace WorkloadOperator

namespace Selector

/-- A label and the value it has to have. -/
abbrev Requirement := String × String

/-- The parts of a text between separators. -/
def splitAt (separator : Char) : List Char → List (List Char)
  | [] => [[]]
  | c :: cs =>
    if c = separator then [] :: splitAt separator cs
    else match splitAt separator cs with
      | [] => [[c]]
      | part :: parts => (c :: part) :: parts

/-- The requirement that a part states, if it has an equals sign. -/
def requirement? (part : List Char) : Option Requirement :=
  let key := part.takeWhile (· ≠ '=')
  match part.dropWhile (· ≠ '=') with
  | [] => none
  | _ :: value => some (String.ofList (trimBlank key), String.ofList (trimBlank value))

/-- The requirements that a selector states. -/
def read (selector : String) : List Requirement :=
  (splitAt ',' selector.toList).filterMap requirement?

/-- The selector that states one requirement. -/
def equals (key value : String) : String := key ++ "=" ++ value

/-- The selector that states what two selectors state. -/
def both (a b : String) : String := a ++ "," ++ b

/-- Whether an object with this metadata meets all requirements. -/
def admits (requirements : List Requirement) (m : Metadata) : Bool :=
  requirements.all fun r => m.label? r.1 = some r.2

end Selector

end WorkloadOperator
