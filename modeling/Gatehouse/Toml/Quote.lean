/-!
# Strings in TOML documents

A string is written in one of four ways.  Between single quotes every character stands for itself;
between double quotes a backslash begins an escape.  Three quotes instead of one let the string run
over several lines: a line break right behind the opening quotes is dropped, up to two quotes may
stand right in front of the closing ones, and between double quotes a backslash at the end of a line
takes the line break with it and all blanks and line breaks that follow.

Each function here is given what follows the opening quotes, and answers the string and what follows
the closing ones.
-/

set_option autoImplicit false

namespace Gatehouse
namespace Toml

/-- A blank inside a line. -/
def isBlank (c : Char) : Bool :=
  c == ' ' || c == '\t'

/-- Whether a character can stand in a document as it is, line breaks aside. -/
def isPlain (c : Char) : Bool :=
  c == '\t' || (0x20 ≤ c.toNat && c.toNat ≤ 0x7E) || 0x80 ≤ c.toNat

/-- What is read, and what follows it. -/
abbrev Scan (α : Type) := Option (α × List Char)

namespace Quote

/-- One more character in front of a string that has been read. -/
def push (c : Char) (r : Scan (List Char)) : Scan (List Char) :=
  r.map fun p => (c :: p.1, p.2)

/-! ## Escapes -/

/-- The value of a hexadecimal digit. -/
def hex? (c : Char) : Option Nat :=
  if '0' ≤ c ∧ c ≤ '9' then some (c.toNat - '0'.toNat)
  else if 'a' ≤ c ∧ c ≤ 'f' then some (c.toNat - 'a'.toNat + 10)
  else if 'A' ≤ c ∧ c ≤ 'F' then some (c.toNat - 'A'.toNat + 10)
  else none

/-- The character whose code point some hexadecimal digits spell. -/
def codePoint? (digits : List Char) : Option Char := do
  let n := (← digits.mapM hex?).foldl (fun n d => n * 16 + d) 0
  if n.isValidChar then return Char.ofNat n
  none

/-- The character that a one-letter escape stands for. -/
def escape? : Char → Option Char
  | '"' => some '"'
  | '\\' => some '\\'
  | 'b' => some '\x08'
  | 'f' => some '\x0C'
  | 'n' => some '\n'
  | 'r' => some '\r'
  | 't' => some '\t'
  | _ => none

/-! ## Strings on one line -/

/-- A string between single quotes. -/
def literal : List Char → Scan (List Char)
  | [] => none
  | '\'' :: rest => some ([], rest)
  | c :: rest => if isPlain c then push c (literal rest) else none

/-- A string between double quotes. -/
def basic : List Char → Scan (List Char)
  | [] => none
  | '"' :: rest => some ([], rest)
  | '\\' :: 'u' :: a :: b :: c :: d :: rest =>
    match codePoint? [a, b, c, d] with
    | some x => push x (basic rest)
    | none => none
  | '\\' :: 'U' :: a :: b :: c :: d :: e :: f :: g :: h :: rest =>
    match codePoint? [a, b, c, d, e, f, g, h] with
    | some x => push x (basic rest)
    | none => none
  | '\\' :: x :: rest =>
    match escape? x with
    | some y => push y (basic rest)
    | none => none
  | c :: rest => if isPlain c && c != '\\' then push c (basic rest) else none

/-! ## Strings on several lines -/

/-- The rest of a string at its closing quotes: those that belong to the string stand first. -/
def closing (quote : Char) (rest : List Char) : Scan (List Char) :=
  let extra := (rest.takeWhile (· == quote)).take 2
  some (extra, rest.drop extra.length)

/-- A string between three single quotes. -/
def longLiteral : List Char → Scan (List Char)
  | [] => none
  | '\'' :: '\'' :: '\'' :: rest => closing '\'' rest
  | '\r' :: '\n' :: rest => push '\n' (longLiteral rest)
  | c :: rest => if isPlain c || c == '\n' then push c (longLiteral rest) else none

/-- Where a reader is in a string: in its text, behind a backslash in front of a line break, or in
the blanks that such a backslash takes with it. -/
inductive Place where
  | text
  | beforeBreak
  | afterBreak
deriving DecidableEq

/-- A string between three double quotes. -/
def longBasic : Place → List Char → Scan (List Char)
  | _, [] => none
  | .beforeBreak, '\r' :: '\n' :: rest => longBasic .afterBreak rest
  | .beforeBreak, '\n' :: rest => longBasic .afterBreak rest
  | .beforeBreak, c :: rest => if isBlank c then longBasic .beforeBreak rest else none
  | .afterBreak, '\r' :: '\n' :: rest => longBasic .afterBreak rest
  | .afterBreak, '\n' :: rest => longBasic .afterBreak rest
  | .afterBreak, ' ' :: rest => longBasic .afterBreak rest
  | .afterBreak, '\t' :: rest => longBasic .afterBreak rest
  | _, '"' :: '"' :: '"' :: rest => closing '"' rest
  | _, '\r' :: '\n' :: rest => push '\n' (longBasic .text rest)
  | _, '\\' :: 'u' :: a :: b :: c :: d :: rest =>
    match codePoint? [a, b, c, d] with
    | some x => push x (longBasic .text rest)
    | none => none
  | _, '\\' :: 'U' :: a :: b :: c :: d :: e :: f :: g :: h :: rest =>
    match codePoint? [a, b, c, d, e, f, g, h] with
    | some x => push x (longBasic .text rest)
    | none => none
  | _, '\\' :: '\r' :: '\n' :: rest => longBasic .afterBreak rest
  | _, '\\' :: '\n' :: rest => longBasic .afterBreak rest
  | _, '\\' :: ' ' :: rest => longBasic .beforeBreak rest
  | _, '\\' :: '\t' :: rest => longBasic .beforeBreak rest
  | _, '\\' :: x :: rest =>
    match escape? x with
    | some y => push y (longBasic .text rest)
    | none => none
  | _, c :: rest =>
    if (isPlain c || c == '\n') && c != '\\' then push c (longBasic .text rest) else none

/-- A text without a line break at its start. -/
def dropBreak : List Char → List Char
  | '\r' :: '\n' :: rest => rest
  | '\n' :: rest => rest
  | cs => cs

/-! ## Any string -/

/-- The string that a text starts with, quotes included. -/
def string? : List Char → Scan String
  | '"' :: '"' :: '"' :: rest => text (longBasic .text (dropBreak rest))
  | '"' :: rest => text (basic rest)
  | '\'' :: '\'' :: '\'' :: rest => text (longLiteral (dropBreak rest))
  | '\'' :: rest => text (literal rest)
  | _ => none
where
  text (r : Scan (List Char)) : Scan String := r.map fun p => (String.ofList p.1, p.2)

end Quote
end Toml
end Gatehouse
