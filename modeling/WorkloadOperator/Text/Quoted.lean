import WorkloadOperator.Text.Shown

/-!
# Quoted text

A text inside a message is written between quotation marks.  The mark itself
and the backslash are escaped, the usual controls have short names, and a
character that cannot be shown as it is stands as its number in hexadecimal
digits between braces.
-/

namespace WorkloadOperator

/-- One character of a quoted text. -/
def quotedChar (c : Char) : List Char :=
  match c with
  | '\x00' => ['\\', '0']
  | '\t' => ['\\', 't']
  | '\n' => ['\\', 'n']
  | '\r' => ['\\', 'r']
  | '\x22' => ['\\', '\x22']
  | '\\' => ['\\', '\\']
  | c =>
    if isShown c then [c]
    else ['\\', 'u', '\x7b'] ++ Nat.toDigits 16 c.toNat ++ ['\x7d']

/-- A text between quotation marks. -/
def quoted (s : String) : String :=
  String.ofList ('\x22' :: s.toList.flatMap quotedChar ++ ['\x22'])

end WorkloadOperator
