/-!
# Blank characters

The characters that trimming removes.  Identity attributes, request identifiers, cookies and
configuration values all come from people or from other programs, and all of them are trimmed by the
same rule: a character is blank when Unicode gives it the property `White_Space`.  Core's
`Char.isWhitespace` knows only six of them, so the ranges are listed here.

* `isBlank` — the property, as a test on one character.
* `trimStart`, `trimEnd`, `trim` — drop blank characters from one end, or from both.
-/

set_option autoImplicit false

namespace Gatehouse
namespace Text

/-- Whether a character has the Unicode property `White_Space`. -/
def isBlank (c : Char) : Bool :=
  let n := c.toNat
  (0x9 ≤ n && n ≤ 0xD) || n == 0x20 || n == 0x85 || n == 0xA0 || n == 0x1680 ||
    (0x2000 ≤ n && n ≤ 0x200A) || n == 0x2028 || n == 0x2029 || n == 0x202F || n == 0x205F ||
    n == 0x3000

/-- The text without the blank characters it starts with. -/
def trimStart (cs : List Char) : List Char :=
  cs.dropWhile isBlank

/-- The text without the blank characters it ends with. -/
def trimEnd (cs : List Char) : List Char :=
  (cs.reverse.dropWhile isBlank).reverse

/-- The text without the blank characters at either end. -/
def trim (cs : List Char) : List Char :=
  trimEnd (trimStart cs)

/-- `trim` on strings. -/
def trimmed (s : String) : String :=
  String.ofList (trim s.toList)

/-- Whether trimming leaves nothing. -/
def isAllBlank (s : String) : Bool :=
  s.toList.all isBlank

/-! ## Small facts -/

@[simp] theorem trim_nil : trim [] = [] := rfl

end Text
end Gatehouse
