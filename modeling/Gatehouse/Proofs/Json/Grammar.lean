import Gatehouse.Json.Basic

/-!
# The grammar of JSON texts

What a JSON text is, and the text of which value, said without reading one: it is built from the
value, with a choice wherever there is one.  Blanks may stand around every token.  A character
between quotes may stand for itself or be escaped, by a letter or by the number of its unit, and
beyond the first 65536 characters by the numbers of two.  A number has no zeros in front, and keeps
its spelling if it is not a whole one.

* `SpellsText`, `SpellsNumber` — the ways to spell a text and a number.
* `Writes` — the ways to write a value, and the parts of a value.
* `IsDocument` — the texts of a value.
-/

set_option autoImplicit false

namespace Gatehouse
namespace Json

/-- Characters that may stand between tokens. -/
def AreBlanks (cs : List Char) : Prop :=
  ∀ c ∈ cs, c ∈ [' ', '\n', '\t', '\r']

/-! ## Texts -/

/-- The letters of escapes, and the characters that they stand for. -/
def shortEscapes : List (Char × Char) :=
  [('"', '"'), ('\\', '\\'), ('/', '/'), ('b', '\x08'), ('f', '\x0C'), ('n', '\n'), ('r', '\r'),
    ('t', '\t')]

/-- A digit of a number below sixteen, in small letters or in capitals. -/
def SpellsDigit (n : Nat) (c : Char) : Prop :=
  n < 16 ∧ (c = n.digitChar ∨ c = n.digitChar.toUpper)

/-- Four digits of a number below 65536. -/
inductive SpellsUnit : Nat → List Char → Prop
  | digits {i j k l : Nat} {a b c d : Char} (ha : SpellsDigit i a) (hb : SpellsDigit j b)
      (hc : SpellsDigit k c) (hd : SpellsDigit l d) :
      SpellsUnit (((i * 16 + j) * 16 + k) * 16 + l) [a, b, c, d]

/-- The ways to spell a text between quotes. -/
inductive SpellsText : List Char → List Char → Prop
  | nil : SpellsText [] []
  | plain {c : Char} {text cs : List Char} (hc : 0x20 ≤ c.toNat) (hquote : c ≠ '"')
      (hslash : c ≠ '\\') (h : SpellsText text cs) : SpellsText (c :: text) (c :: cs)
  | short {e c : Char} {text cs : List Char} (he : (e, c) ∈ shortEscapes) (h : SpellsText text cs) :
      SpellsText (c :: text) ('\\' :: e :: cs)
  /-- The number of a character, if that is not the half of a pair. -/
  | unit {u : Nat} {text ds cs : List Char} (hds : SpellsUnit u ds)
      (hu : ¬ (0xD800 ≤ u ∧ u ≤ 0xDFFF)) (h : SpellsText text cs) :
      SpellsText (Char.ofNat u :: text) ('\\' :: 'u' :: (ds ++ cs))
  /-- The numbers of the two halves of a pair. -/
  | pair {hi lo : Nat} {text ds es cs : List Char} (hds : SpellsUnit hi ds) (hes : SpellsUnit lo es)
      (hhi : 0xD800 ≤ hi ∧ hi < 0xDC00) (hlo : 0xDC00 ≤ lo ∧ lo ≤ 0xDFFF) (h : SpellsText text cs) :
      SpellsText (Char.ofNat (0x10000 + (hi - 0xD800) * 0x400 + (lo - 0xDC00)) :: text)
        ('\\' :: 'u' :: (ds ++ '\\' :: 'u' :: (es ++ cs)))

/-! ## Numbers -/

/-- The digits of a whole number. -/
def wholeDigits (n : Nat) : List Char :=
  (toString n).toList

/-- Some digits, of which there is at least one. -/
structure AreDigits (ds : List Char) : Prop where
  ne_nil : ds ≠ []
  digits : ∀ d ∈ ds, d.isDigit = true

/-- A fraction, or nothing. -/
inductive SpellsFraction : List Char → Prop
  | none : SpellsFraction []
  | point {ds : List Char} (h : AreDigits ds) : SpellsFraction ('.' :: ds)

/-- An exponent, or nothing, as it is kept and as it may be written. -/
inductive SpellsExponent : List Char → List Char → Prop
  | none : SpellsExponent [] []
  | power {e : Char} {sign ds : List Char} (he : e = 'e' ∨ e = 'E')
      (hsign : sign = [] ∨ sign = ['+'] ∨ sign = ['-']) (h : AreDigits ds) :
      SpellsExponent ('e' :: sign ++ ds) (e :: sign ++ ds)

/-- The ways to spell a number. -/
inductive SpellsNumber : Number → List Char → Prop
  | natural (n : Nat) : SpellsNumber (.natural n) (wholeDigits n)
  | negative {n : Nat} (h : 0 < n) : SpellsNumber (.negative n) ('-' :: wholeDigits n)
  /-- A number with a fraction or an exponent, or with nothing but a sign that zero does not
  have. -/
  | fractional {n : Nat} {minus fraction exponent cs : List Char}
      (hminus : minus = [] ∨ minus = ['-'])
      (hfraction : SpellsFraction fraction) (hexponent : SpellsExponent exponent cs)
      (h : fraction ≠ [] ∨ exponent ≠ [] ∨ minus = ['-'] ∧ n = 0) :
      SpellsNumber (.fractional (String.ofList (minus ++ wholeDigits n ++ fraction ++ exponent)))
        (minus ++ wholeDigits n ++ fraction ++ cs)

/-! ## Values -/

/-- What can be written: a value, the elements of an array with the bracket behind them, a member of
an object, and the members of an object with the brace behind them. -/
inductive Form where
  | value (v : Json)
  | elements (es : List Json)
  | member (m : Option String × Json)
  | members (ms : List (Option String × Json))

/-- The ways to write something. -/
inductive Writes : Form → List Char → Prop
  | null : Writes (.value .null) "null".toList
  | true : Writes (.value (.bool .true)) "true".toList
  | false : Writes (.value (.bool .false)) "false".toList
  | number {n : Number} {cs : List Char} (h : SpellsNumber n cs) : Writes (.value (.number n)) cs
  | string {text cs : List Char} (h : SpellsText text cs) :
      Writes (.value (.string (some (String.ofList text)))) ('"' :: (cs ++ ['"']))
  | emptyArray {gap : List Char} (hgap : AreBlanks gap) :
      Writes (.value (.array [])) ('[' :: (gap ++ [']']))
  | array {es : List Json} {cs : List Char} (h : Writes (.elements es) cs) :
      Writes (.value (.array es)) ('[' :: cs)
  | emptyObject {gap : List Char} (hgap : AreBlanks gap) :
      Writes (.value (.object [])) ('{' :: (gap ++ ['}']))
  | object {ms : List (Option String × Json)} {cs : List Char} (h : Writes (.members ms) cs) :
      Writes (.value (.object ms)) ('{' :: cs)
  | blanks {v : Json} {gap cs : List Char} (hgap : AreBlanks gap) (h : Writes (.value v) cs) :
      Writes (.value v) (gap ++ cs)
  | lastElement {v : Json} {cs gap : List Char} (h : Writes (.value v) cs) (hgap : AreBlanks gap) :
      Writes (.elements [v]) (cs ++ (gap ++ [']']))
  | element {v : Json} {es : List Json} {cs gap ds : List Char} (h : Writes (.value v) cs)
      (hgap : AreBlanks gap) (hes : Writes (.elements es) ds) :
      Writes (.elements (v :: es)) (cs ++ (gap ++ ',' :: ds))
  | member {key : List Char} {v : Json} {before ks between cs gap : List Char}
      (hbefore : AreBlanks before) (hkey : SpellsText key ks) (hbetween : AreBlanks between)
      (h : Writes (.value v) cs) (hgap : AreBlanks gap) :
      Writes (.member (some (String.ofList key), v))
        (before ++ ('"' :: (ks ++ '"' :: (between ++ ':' :: (cs ++ gap)))))
  | lastMember {m : Option String × Json} {cs : List Char} (h : Writes (.member m) cs) :
      Writes (.members [m]) (cs ++ ['}'])
  | members {m : Option String × Json} {ms : List (Option String × Json)} {cs ds : List Char}
      (h : Writes (.member m) cs) (hms : Writes (.members ms) ds) :
      Writes (.members (m :: ms)) (cs ++ ',' :: ds)

/-- The texts of a value. -/
def IsDocument (v : Json) (text : String) : Prop :=
  ∃ cs gap, Writes (.value v) cs ∧ AreBlanks gap ∧ text.toList = cs ++ gap

end Json
end Gatehouse
