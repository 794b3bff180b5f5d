import WorkloadOperator.Dict

/-!
# JSON values

The values in which objects are exchanged and patched.  The members of an
object stand in ascending order of their keys: `Json.Canonical` says so for a
value and all values inside it, and `Json.object` builds an object from members
given in any order.

A number with neither point nor exponent is an integer.  Any other number is a
double, kept as its bits so that equality of values is decidable and tells the
two zeros apart.
-/

namespace WorkloadOperator

/-- A JSON value. -/
inductive Json where
  /-- No value. -/
  | null
  /-- A truth value. -/
  | bool (b : Bool)
  /-- An integer. -/
  | int (i : Int)
  /-- A double, by its bits. -/
  | double (bits : UInt64)
  /-- A text. -/
  | str (s : String)
  /-- A sequence. -/
  | arr (items : List Json)
  /-- An object, by its members. -/
  | obj (members : List (String × Json))
  deriving Inhabited

namespace Json

/-! ## Equality -/

mutual

/-- Equality of values, decided by structure. -/
def decEq : (a b : Json) → Decidable (a = b)
  | .null, .null => isTrue rfl
  | .bool a, .bool b =>
    if h : a = b then isTrue (h ▸ rfl) else isFalse (fun e => h (Json.bool.inj e))
  | .int a, .int b =>
    if h : a = b then isTrue (h ▸ rfl) else isFalse (fun e => h (Json.int.inj e))
  | .double a, .double b =>
    if h : a = b then isTrue (h ▸ rfl) else isFalse (fun e => h (Json.double.inj e))
  | .str a, .str b =>
    if h : a = b then isTrue (h ▸ rfl) else isFalse (fun e => h (Json.str.inj e))
  | .arr a, .arr b =>
    match decEqItems a b with
    | isTrue h => isTrue (h ▸ rfl)
    | isFalse h => isFalse (fun e => h (Json.arr.inj e))
  | .obj a, .obj b =>
    match decEqMembers a b with
    | isTrue h => isTrue (h ▸ rfl)
    | isFalse h => isFalse (fun e => h (Json.obj.inj e))
  | .null, .bool _ | .null, .int _ | .null, .double _ | .null, .str _ | .null, .arr _
  | .null, .obj _
  | .bool _, .null | .bool _, .int _ | .bool _, .double _ | .bool _, .str _ | .bool _, .arr _
  | .bool _, .obj _
  | .int _, .null | .int _, .bool _ | .int _, .double _ | .int _, .str _ | .int _, .arr _
  | .int _, .obj _
  | .double _, .null | .double _, .bool _ | .double _, .int _ | .double _, .str _
  | .double _, .arr _ | .double _, .obj _
  | .str _, .null | .str _, .bool _ | .str _, .int _ | .str _, .double _ | .str _, .arr _
  | .str _, .obj _
  | .arr _, .null | .arr _, .bool _ | .arr _, .int _ | .arr _, .double _ | .arr _, .str _
  | .arr _, .obj _
  | .obj _, .null | .obj _, .bool _ | .obj _, .int _ | .obj _, .double _ | .obj _, .str _
  | .obj _, .arr _ => isFalse (fun e => by cases e)
termination_by structural a => a

/-- Equality of sequences of values. -/
def decEqItems : (a b : List Json) → Decidable (a = b)
  | [], [] => isTrue rfl
  | [], _ :: _ => isFalse (fun e => by cases e)
  | _ :: _, [] => isFalse (fun e => by cases e)
  | x :: xs, y :: ys =>
    match decEq x y, decEqItems xs ys with
    | isTrue h, isTrue h' => isTrue (h ▸ h' ▸ rfl)
    | isFalse h, _ => isFalse (fun e => h (List.cons.inj e).1)
    | _, isFalse h => isFalse (fun e => h (List.cons.inj e).2)
termination_by structural a => a

/-- Equality of lists of members. -/
def decEqMembers : (a b : List (String × Json)) → Decidable (a = b)
  | [], [] => isTrue rfl
  | [], _ :: _ => isFalse (fun e => by cases e)
  | _ :: _, [] => isFalse (fun e => by cases e)
  | (k, x) :: xs, (l, y) :: ys =>
    match decEq x y, decEqMembers xs ys with
    | isTrue h, isTrue h' =>
      if hk : k = l then isTrue (h ▸ h' ▸ hk ▸ rfl)
      else isFalse (fun e => hk (Prod.mk.inj (List.cons.inj e).1).1)
    | isFalse h, _ => isFalse (fun e => h (Prod.mk.inj (List.cons.inj e).1).2)
    | _, isFalse h => isFalse (fun e => h (List.cons.inj e).2)
termination_by structural a => a

end

instance : DecidableEq Json := decEq

/-! ## Members in order -/

mutual

/-- The keys of every object ascend, in the value and inside it. -/
def Canonical : Json → Prop
  | .arr items => CanonicalItems items
  | .obj members => Entries.Ascending members ∧ CanonicalMembers members
  | .null | .bool _ | .int _ | .double _ | .str _ => True

/-- All values of a sequence are canonical. -/
def CanonicalItems : List Json → Prop
  | [] => True
  | x :: xs => Canonical x ∧ CanonicalItems xs

/-- The values of all members are canonical. -/
def CanonicalMembers : List (String × Json) → Prop
  | [] => True
  | (_, x) :: xs => Canonical x ∧ CanonicalMembers xs

end

/-- An object from members in any order, of which the later wins. -/
def object (members : List (String × Json)) : Json :=
  .obj (members.foldl (fun all m => Entries.insert m.1 m.2 all) [])

/-- An object from the members that are present.  They have to be listed in
ascending order of their keys. -/
def record (members : List (String × Option Json)) : Json :=
  .obj (members.filterMap fun m => m.2.map (m.1, ·))

/-- The members of an object, and none of any other value. -/
def members : Json → List (String × Json)
  | .obj ms => ms
  | _ => []

/-- The value of a member. -/
def get? (key : String) (j : Json) : Option Json := Entries.get? key j.members

/-- File a member of an object, in place of the one that was there.  Any other value
has no members and stays as it is. -/
def set (key : String) (j value : Json) : Json :=
  match j with
  | .obj ms => .obj (Entries.insert key value ms)
  | j => j

/-- A sequence of texts. -/
def strs (texts : List String) : Json := .arr (texts.map .str)

/-- A dictionary of texts as an object. -/
def ofDict (d : Dict String String) : Json := .obj (d.entries.map fun e => (e.1, .str e.2))

end Json

end WorkloadOperator
