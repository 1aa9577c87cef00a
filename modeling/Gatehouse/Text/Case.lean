import Gatehouse.Text.Case.Table

/-!
# Changing case

Names of applications and formats are compared without regard to case, and the name of an
environment variable is made from a word in capitals.  Both follow Unicode: a character may change
into several (`ß` becomes `SS`), and a capital sigma becomes `ς` at the end of a word and `σ`
elsewhere.

* `lower`, `upper` — the text in small letters, or in capitals.
* `lowerAscii` — only `A` to `Z` change; identity attributes are compared this way.
-/

set_option autoImplicit false

namespace Gatehouse
namespace Text

namespace Case

/-- The mapping of one code point: the long form if it has one, else the run it lies on, else
itself. -/
def mapped (long : List (Nat × List Nat)) (runs : List Run) (c : Char) : List Char :=
  match long.lookup c.toNat with
  | some ns => ns.map Char.ofNat
  | none => [((runs.findSome? (·.image? c.toNat)).map Char.ofNat).getD c]

/-- Whether a character has a case. -/
def isCased (c : Char) : Bool :=
  inRanges cased c.toNat

/-- Whether a character is passed over when looking for the neighbours of a sigma. -/
def isIgnorable (c : Char) : Bool :=
  inRanges caseIgnorable c.toNat

/-- Whether the first character that is not passed over has a case. -/
def meetsCased (cs : List Char) : Bool :=
  match cs.dropWhile isIgnorable with
  | [] => false
  | c :: _ => isCased c

/-- The small form of a capital sigma between the text in front of it, read backwards, and the text
behind it. -/
def smallSigma (front behind : List Char) : Char :=
  if meetsCased front && !meetsCased behind then 'ς' else 'σ'

/-- Small letters for the rest of a text, given what came before it, read backwards. -/
def lowerFrom (front : List Char) : List Char → List Char
  | [] => []
  | c :: cs =>
    (if c = 'Σ' then [smallSigma front cs] else mapped lowerLong lowerRuns c) ++
      lowerFrom (c :: front) cs

end Case

/-- A text in small letters. -/
def lower (s : String) : String :=
  String.ofList (Case.lowerFrom [] s.toList)

/-- A text in capitals. -/
def upper (s : String) : String :=
  String.ofList (s.toList.flatMap (Case.mapped Case.upperLong Case.upperRuns))

/-- A text with `A` to `Z` in small letters and everything else as it is. -/
def lowerAscii (s : String) : String :=
  String.ofList (s.toList.map Char.toLower)

end Text
end Gatehouse
