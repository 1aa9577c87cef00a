import Gatehouse.Json.Basic

/-!
# Writing JSON texts

`Json.render` writes a value in its shortest form: no blanks between tokens, members in the order of
the value.  Inside a string only what has to be escaped is escaped: the quote, the backslash, and
the control characters below `U+0020`, five of which have a letter of their own.  Every other
character stands for itself.

A string that has no text (see `Gatehouse.Json.Basic`) is written as `null`; no value that this
library builds holds one.
-/

set_option autoImplicit false

namespace Gatehouse
namespace Json

/-- The lower-case hexadecimal digit of a value below sixteen. -/
def hexChar (n : Nat) : Char :=
  if n < 10 then Char.ofNat ('0'.toNat + n) else Char.ofNat ('a'.toNat + (n - 10))

/-- A character as it is written inside quotes. -/
def escapeChar (c : Char) : List Char :=
  match c with
  | '"' => ['\\', '"']
  | '\\' => ['\\', '\\']
  | '\x08' => ['\\', 'b']
  | '\x0C' => ['\\', 'f']
  | '\n' => ['\\', 'n']
  | '\r' => ['\\', 'r']
  | '\t' => ['\\', 't']
  | c =>
    if c.toNat < 0x20 then ['\\', 'u', '0', '0', hexChar (c.toNat / 16), hexChar (c.toNat % 16)]
    else [c]

/-- A text in quotes. -/
def quote (s : String) : List Char :=
  '"' :: (s.toList.flatMap escapeChar ++ ['"'])

/-- A number as it is written. -/
def Number.render : Number → List Char
  | .natural n => (toString n).toList
  | .negative n => '-' :: (toString n).toList
  | .fractional s => s.toList

/-- A text, or `null` for a string that has none. -/
def quoteText : Option String → List Char
  | none => "null".toList
  | some s => quote s

mutual

/-- The characters of a value. -/
def write : Json → List Char
  | .null => "null".toList
  | .bool true => "true".toList
  | .bool false => "false".toList
  | .number n => n.render
  | .string t => quoteText t
  | .array [] => ['[', ']']
  | .array (e :: es) => '[' :: (write e ++ (writeElements es ++ [']']))
  | .object [] => ['{', '}']
  | .object (m :: ms) =>
    '{' :: (quoteText m.1 ++ (':' :: (write m.2 ++ (writeMembers ms ++ ['}']))))

/-- The elements after the first of an array. -/
def writeElements : List Json → List Char
  | [] => []
  | e :: es => ',' :: (write e ++ writeElements es)

/-- The members after the first of an object. -/
def writeMembers : List (Option String × Json) → List Char
  | [] => []
  | m :: ms => ',' :: (quoteText m.1 ++ (':' :: (write m.2 ++ writeMembers ms)))

end

/-- The text of a value. -/
def render (v : Json) : String :=
  String.ofList (write v)

end Json
end Gatehouse
