import Gatehouse.Config.Environment
import Gatehouse.Text.Utf8

/-!
# Environment files

A file of variables with their values, one on a line, which are added to the environment unless they
are there already.  A line may begin with the word `export` and may end in a comment behind a blank,
and the value may be in quotes: single ones for a text as it is, double ones for a text with
escapes, and either may hold line breaks.  Outside single quotes a name behind a dollar sign stands
for the value that it has in the environment or on an earlier line, and for nothing if it has none.

A file is first cut into logical lines (`LogicalLine.step` follows the quotes), and then each of
them is read.  A line that cannot be read is reported with the place at which reading stopped.
-/

set_option autoImplicit false

namespace Gatehouse

/-- Why an environment file cannot be read. -/
inductive DotenvError where
  | line (text : String) (index : Nat)
  | encoding
deriving Repr, DecidableEq

/-- The text of the fault. -/
def DotenvError.message : DotenvError → String
  | .line t i => "Error parsing line: '" ++ t ++ "', error at line index: " ++ toString i
  | .encoding => "stream did not contain valid UTF-8"

namespace Dotenv

/-! ## Logical lines -/

/-- Where a line break would stand. -/
inductive Place where
  /-- Outside all quotes: the logical line would end. -/
  | outside
  /-- Outside all quotes and behind a blank. -/
  | blank
  | escaped
  | single
  | singleEscaped
  | double
  | doubleEscaped
  | comment
deriving Repr, DecidableEq

/-- The place after one more character; nothing if a comment begins with it. -/
def Place.step (c : Char) : Place → Place
  | .outside =>
    if Text.isBlank c && c != '\n' && c != '\r' then .blank
    else if c = '\\' then .escaped
    else if c = '"' then .double
    else if c = '\'' then .single
    else .outside
  | .blank =>
    if c = '#' then .comment
    else if c = '\\' then .escaped
    else if c = '"' then .double
    else if c = '\'' then .single
    else .outside
  | .escaped => .outside
  | .double => if c = '\\' then .doubleEscaped else if c = '"' then .outside else .double
  | .doubleEscaped => .double
  | .single => if c = '\\' then .singleEscaped else if c = '\'' then .outside else .single
  | .singleEscaped => .single
  | .comment => .comment

/-- The part of a line in front of a comment, and the place after it. -/
def scan : Place → List Char → List Char × Place
  | place, [] => ([], place)
  | place, c :: cs =>
    match place.step c with
    | .comment => ([], .comment)
    | next =>
      let r := scan next cs
      (c :: r.1, r.2)

/-- A text without the line break at its end. -/
def withoutBreak (cs : List Char) : List Char :=
  match cs.reverse with
  | '\n' :: '\r' :: rest => rest.reverse
  | '\n' :: rest => rest.reverse
  | _ => cs

/-- The lines of a file, each with the break at its end. -/
def rawLines : List UInt8 → List (List UInt8)
  | [] => []
  | b :: bs =>
    if b = 10 then [b] :: rawLines bs
    else
      match rawLines bs with
      | [] => [[b]]
      | l :: ls => (b :: l) :: ls

/-- A logical line, or why there is none. -/
abbrev LogicalLine := Except DotenvError (List Char)

/-- The logical lines of some lines, given what the first of them goes on with. -/
def logicalLines (front : List Char) (place : Place) : List (List UInt8) → List LogicalLine
  | [] =>
    if place = .outside then []
    else
      let text := String.ofList front
      [.error (.line text text.utf8ByteSize)]
  | raw :: rest =>
    match Text.Utf8.decode? raw with
    | none => [.error .encoding]
    | some line =>
      let whole := front ++ line.toList
      if (Text.trimStart whole).head? = some '#' then .ok [] :: logicalLines [] .outside rest
      else
        let (kept, next) := scan place line.toList
        match next with
        | .comment => .ok (front ++ kept) :: logicalLines [] .outside rest
        | .outside => .ok (withoutBreak whole) :: logicalLines [] .outside rest
        | next => logicalLines whole next rest

/-! ## Values -/

/-- What a name in a value stands for. -/
abbrev Lookup := String → String

/-- Where a reader is in a value. -/
inductive Mode where
  | text (quoted : Bool)
  | single
  | escape (quoted : Bool)
  /-- In a name behind a dollar sign. -/
  | variable (quoted : Bool) (name : List Char)
  /-- In a name in braces. -/
  | braced (quoted : Bool) (name : List Char)
  /-- Behind the value, where only a comment can follow. -/
  | behind
deriving Repr, DecidableEq

/-- Whether a character can belong to a name behind a dollar sign. -/
def isNamePart (c : Char) : Bool :=
  c.isAlphanum || (0x80 ≤ c.toNat && Text.Case.isCased c)

/-- The mode after one more character and what the character adds to the value; nothing if it cannot
stand there. -/
def Mode.step (lookup : Lookup) (c : Char) : Mode → Option (Mode × List Char)
  | .behind => if c = ' ' ∨ c = '\t' then some (.behind, []) else none
  | .escape quoted =>
    if c = 'n' then some (.text quoted, ['\n'])
    else if "\\'\"$ ".toList.contains c then some (.text quoted, [c])
    else none
  | .single => if c = '\'' then some (.text false, []) else some (.single, [c])
  | .variable quoted name =>
    let found := (lookup (String.ofList name)).toList
    if isNamePart c then some (.variable quoted (name ++ [c]), [])
    else if c = '\x7b' ∧ name.isEmpty then some (.braced quoted [], [])
    else if c = '$' then some (.variable quoted [], found)
    else some (.text quoted, found ++ [c])
  | .braced quoted name =>
    if c = '\x7d' then some (.text quoted, (lookup (String.ofList name)).toList)
    else some (.braced quoted (name ++ [c]), [])
  | .text quoted =>
    if c = '$' then some (.variable quoted [], [])
    else if c = '\\' then some (.escape quoted, [])
    else if c = '"' then some (.text (!quoted), [])
    else if quoted then some (.text true, [c])
    else if c = '\'' then some (.single, [])
    else if c = ' ' ∨ c = '\t' then some (.behind, [])
    else some (.text false, [c])

/-- What the end of a value adds to it; nothing if the value cannot end there. -/
def Mode.finish (lookup : Lookup) : Mode → Option (List Char)
  | .text false => some []
  | .escape false => some []
  | .variable false name => some (lookup (String.ofList name)).toList
  | .behind => some []
  | _ => none

/-- The value of a text from a position on. -/
def valueFrom (lookup : Lookup) (whole : String) : Mode → Nat → List Char →
    Except DotenvError (List Char)
  | mode, _, [] =>
    match mode.finish lookup with
    | some last => .ok last
    | none => .error (.line whole (whole.utf8ByteSize - 1))
  | mode, i, c :: cs =>
    if mode = .behind ∧ c = '#' then .ok []
    else
      match mode.step lookup c with
      | none => .error (.line whole i)
      | some (next, piece) => (valueFrom lookup whole next (i + 1) cs).map (piece ++ ·)

/-- The value that a text spells. -/
def value (lookup : Lookup) (cs : List Char) : Except DotenvError String :=
  (valueFrom lookup (String.ofList cs) (.text false) 0 cs).map String.ofList

/-! ## Lines -/

/-- What is left of a line, and how many bytes of it have been read. -/
abbrev Cursor := List Char × Nat

/-- Past the blanks at the cursor. -/
def skipBlanks : Cursor → Cursor
  | (cs, pos) =>
    (cs.dropWhile Text.isBlank, pos + (String.ofList (cs.takeWhile Text.isBlank)).utf8ByteSize)

/-- Whether a character can stand in the name of a variable. -/
def isKeyPart (c : Char) : Bool :=
  c.isAlphanum || c == '_' || c == '.'

/-- The name at the cursor. -/
def key (line : String) : Cursor → Except DotenvError (String × Cursor)
  | (cs, pos) =>
    if (cs.head?.map fun c => c.isAlpha || c == '_').getD false then
      let name := cs.takeWhile isKeyPart
      .ok (String.ofList name, (cs.dropWhile isKeyPart, pos + name.length))
    else .error (.line line pos)

/-- Past the equals sign at the cursor. -/
def equals (line : String) : Cursor → Except DotenvError Cursor
  | ('=' :: cs, pos) => .ok (cs, pos + 1)
  | (_, pos) => .error (.line line pos)

/-- The name of a line, past its equals sign.  The word `export` in front of a name is passed
over. -/
def assigned (line : String) (cursor : Cursor) : Except DotenvError (String × Cursor) := do
  let (name, cursor) ← key line cursor
  let cursor := skipBlanks cursor
  match equals line cursor with
  | .ok rest => return (name, rest)
  | .error e =>
    if name = "export" then
      let (name, cursor) ← key line cursor
      return (name, ← equals line (skipBlanks cursor))
    throw e

/-- Whether nothing but a comment follows. -/
def isVoid (cs : List Char) : Bool :=
  cs.isEmpty || cs.head? == some '#'

/-- The variable of a line with its value, if the line has one. -/
def entry (lookup : Lookup) (line : List Char) : Except DotenvError (Option (String × String)) := do
  let shown := String.ofList line
  let cursor := skipBlanks (Text.trimEnd line, 0)
  if isVoid cursor.1 then return none
  let (name, cursor) ← assigned shown cursor
  let rest := (skipBlanks cursor).1
  if isVoid rest then return some (name, "")
  return some (name, ← value lookup rest)

/-! ## Files -/

/-- The environment with a variable, unless it is there already. -/
def define (env : Environment) (v : String × String) : Environment :=
  if (env.lookup v.1).isSome then env else env ++ [v]

/-- The environment after some logical lines; the values of the lines before are given, the last of
them first. -/
def loadLines (env : Environment) (before : List (String × String)) :
    List LogicalLine → Except DotenvError Environment
  | [] => .ok env
  | line :: rest => do
    let lookup (name : String) : String := (((env.lookup name).or (before.lookup name)).getD "")
    match ← entry lookup (← line) with
    | some v => loadLines (define env v) (v :: before) rest
    | none => loadLines env before rest

/-- A file without the mark of its byte order. -/
def unmarked : List UInt8 → List UInt8
  | 0xEF :: 0xBB :: 0xBF :: bs => bs
  | bs => bs

/-- The environment after a file has been read. -/
def load (env : Environment) (file : List UInt8) : Except DotenvError Environment :=
  loadLines env [] (logicalLines [] .outside (rawLines (unmarked file)))

end Dotenv
end Gatehouse
