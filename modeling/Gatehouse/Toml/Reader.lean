import Gatehouse.Toml.Quote
import Gatehouse.Toml.Scalar
import Gatehouse.Toml.Table

/-!
# Reading TOML documents

A document is a list of statements, one on a line: a header in brackets opens a table, a header in
double brackets opens one more table of a list, and a key with a value goes into the table opened
last.  Values in brackets may run over several lines, with comments between them; values in braces
may not.

The result is a tree of the same kind as that of a JSON text.
-/

set_option autoImplicit false

namespace Gatehouse
namespace Toml

/-! ## Gaps -/

/-- A text without the blanks it starts with. -/
def skipBlanks (cs : List Char) : List Char :=
  cs.dropWhile isBlank

/-- What follows a comment, if a text starts with one, and otherwise the text. -/
def skipComment : List Char → List Char
  | '#' :: rest => rest.dropWhile isPlain
  | cs => cs

/-- What follows the end of a line, which may be the end of the text. -/
def afterLine? (cs : List Char) : Option (List Char) :=
  match skipComment (skipBlanks cs) with
  | [] => some []
  | '\n' :: rest => some rest
  | '\r' :: '\n' :: rest => some rest
  | _ => none

/-- A text without the blanks, comments and line breaks it starts with. -/
def skipLines : Nat → List Char → List Char
  | 0, cs => cs
  | fuel + 1, cs =>
    match skipComment (skipBlanks cs) with
    | '\n' :: rest => skipLines fuel rest
    | '\r' :: '\n' :: rest => skipLines fuel rest
    | rest => rest

/-! ## Keys -/

/-- Whether a character can stand in a key without quotes. -/
def isKeyPart (c : Char) : Bool :=
  c.isAlphanum || c == '_' || c == '-'

/-- One part of a key. -/
def keyPart? : List Char → Scan String
  | '"' :: rest => (Quote.basic rest).map fun p => (String.ofList p.1, p.2)
  | '\'' :: rest => (Quote.literal rest).map fun p => (String.ofList p.1, p.2)
  | cs =>
    let part := cs.takeWhile isKeyPart
    if part.isEmpty then none else some (String.ofList part, cs.dropWhile isKeyPart)

/-- The parts of a key, the last of them apart, and what follows the blanks behind them. -/
def key? : Nat → List Char → Scan (List String × String)
  | 0, _ => none
  | fuel + 1, cs =>
    match keyPart? (skipBlanks cs) with
    | none => none
    | some (part, rest) =>
      match skipBlanks rest with
      | '.' :: rest => (key? fuel rest).map fun r => ((part :: r.1.1, r.1.2), r.2)
      | rest => some (([], part), rest)

/-! ## Values -/

mutual

/-- A value and what follows it. -/
def value? : Nat → List Char → Scan Json
  | 0, _ => none
  | fuel + 1, cs =>
    match cs with
    | '[' :: rest => (elements? fuel rest).map fun r => (.array r.1, r.2)
    | '\x7b' :: rest =>
      match skipBlanks rest with
      | '\x7d' :: rest => some (.object [], rest)
      | rest => (assignments? fuel rest).bind fun r => (inlineTable? r.1).map fun v => (v, r.2)
    | '"' :: _ => (Quote.string? cs).map fun r => (Json.str r.1, r.2)
    | '\'' :: _ => (Quote.string? cs).map fun r => (Json.str r.1, r.2)
    | cs =>
      let (front, rest) := Scalar.run cs
      (Scalar.parse? front).map fun v => (v, rest)

/-- The elements of a list, up to its closing bracket. -/
def elements? : Nat → List Char → Scan (List Json)
  | 0, _ => none
  | fuel + 1, cs =>
    match skipLines cs.length cs with
    | ']' :: rest => some ([], rest)
    | cs =>
      match value? fuel cs with
      | none => none
      | some (v, rest) =>
        match skipLines rest.length rest with
        | ',' :: rest => (elements? fuel rest).map fun r => (v :: r.1, r.2)
        | ']' :: rest => some ([v], rest)
        | _ => none

/-- A key with its value. -/
def assignment? : Nat → List Char → Scan (List String × String × Json)
  | 0, _ => none
  | fuel + 1, cs =>
    match key? cs.length cs with
    | some ((path, key), '=' :: rest) =>
      (value? fuel (skipBlanks rest)).map fun r => ((path, key, r.1), r.2)
    | _ => none

/-- The assignments in braces, up to the closing one. -/
def assignments? : Nat → List Char → Scan (List (List String × String × Json))
  | 0, _ => none
  | fuel + 1, cs =>
    match assignment? fuel cs with
    | none => none
    | some (a, rest) =>
      match skipBlanks rest with
      | ',' :: rest => (assignments? fuel rest).map fun r => (a :: r.1, r.2)
      | '\x7d' :: rest => some ([a], rest)
      | _ => none

end

/-! ## Documents -/

/-- The statement that a line starts with. -/
def statement? (cs : List Char) : Scan Statement :=
  match cs with
  | '[' :: '[' :: rest =>
    match key? rest.length rest with
    | some ((path, key), ']' :: ']' :: rest) => some (.element path key, rest)
    | _ => none
  | '[' :: rest =>
    match key? rest.length rest with
    | some ((path, key), ']' :: rest) => some (.table path key, rest)
    | _ => none
  | cs => (assignment? (3 * cs.length + 1) cs).map fun r => (.assign r.1.1 r.1.2.1 r.1.2.2, r.2)

/-- The statements of a document. -/
def statements? : Nat → List Char → Option (List Statement)
  | 0, _ => none
  | fuel + 1, cs =>
    match skipLines cs.length cs with
    | [] => some []
    | cs =>
      match statement? cs with
      | none => none
      | some (s, rest) =>
        match afterLine? rest with
        | none => none
        | some rest => (statements? fuel rest).map (s :: ·)

/-- A text without the mark of its byte order. -/
def unmarked : List Char → List Char
  | '\uFEFF' :: cs => cs
  | cs => cs

/-- The tree of a document. -/
def parse? (s : String) : Option Json :=
  let cs := unmarked s.toList
  (statements? (cs.length + 1) cs).bind Draft.build?

end Toml
end Gatehouse
