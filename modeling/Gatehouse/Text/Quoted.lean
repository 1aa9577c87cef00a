import Gatehouse.Text.Printable

/-!
# Quoted texts

How a text is shown when somebody wants to see exactly what it is: in double quotes, with a
backslash in front of the quote and the backslash, letters for the four common controls, and the
code point in hexadecimal for everything that could not be seen.  Descriptions of profiles,
resolvers and settings, and the list of stages in a log line, are built from these pieces.

* `quoted` — one text.
* `listed` — a list of descriptions in brackets.
* `record` — a name with its fields in braces.
-/

set_option autoImplicit false

namespace Gatehouse
namespace Text

/-- A character as it is written inside double quotes. -/
def quotedChar (c : Char) : List Char :=
  match c with
  | '\x00' => ['\\', '0']
  | '\t' => ['\\', 't']
  | '\r' => ['\\', 'r']
  | '\n' => ['\\', 'n']
  | '"' => ['\\', '"']
  | '\\' => ['\\', '\\']
  | c =>
    if isPrintable c then [c]
    else ['\\', 'u', '\x7b'] ++ Nat.toDigits 16 c.toNat ++ ['\x7d']

/-- A text in double quotes. -/
def quoted (s : String) : String :=
  String.ofList ('"' :: (s.toList.flatMap quotedChar ++ ['"']))

/-- Descriptions in brackets, separated by commas. -/
def listed (items : List String) : String :=
  "[" ++ ", ".intercalate items ++ "]"

/-- A name and its fields in braces. -/
def record (name : String) (fields : List (String × String)) : String :=
  name ++ " \x7b " ++ ", ".intercalate (fields.map fun f => f.1 ++ ": " ++ f.2) ++ " \x7d"

/-- A value that may be missing. -/
def optional (description : Option String) : String :=
  match description with
  | none => "None"
  | some d => "Some(" ++ d ++ ")"

end Text
end Gatehouse
