/-!
# Spans of time as texts

Every span of time in the settings is a whole number of milliseconds.  It is shown in seconds if it
is at least one second long, and in milliseconds otherwise, with as many decimals as it needs and no
more.  Nothing at all is shown as `0ns`.
-/

set_option autoImplicit false

namespace Gatehouse
namespace Text

/-- The digits after the point for a number of thousandths. -/
def decimals (thousandths : Nat) : List Char :=
  let ds := [thousandths / 100, thousandths / 10 % 10, thousandths % 10]
  (ds.reverse.dropWhile (· == 0)).reverse.map fun d => Char.ofNat ('0'.toNat + d)

/-- A number of milliseconds as a text. -/
def duration (milliseconds : Nat) : String :=
  if milliseconds = 0 then "0ns"
  else if milliseconds < 1000 then toString milliseconds ++ "ms"
  else
    let ds := decimals (milliseconds % 1000)
    let fraction := if ds.isEmpty then "" else "." ++ String.ofList ds
    toString (milliseconds / 1000) ++ fraction ++ "s"

end Text
end Gatehouse
