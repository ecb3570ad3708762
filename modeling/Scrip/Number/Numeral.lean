import Scrip.Number.Rounding

/-!
# Numerals

Whole numbers written in decimal digits.

* `Numeral.natural?`, `Numeral.integer?`: numbers of so many bits, without a sign or with one.
-/

namespace Scrip.Numeral

/-- The number that digits stand for, if there are any and nothing else. -/
def digits? (cs : List Char) : Option Nat :=
  if cs.isEmpty || !cs.all Char.isDigit then none
  else some (cs.foldl (fun n c => 10 * n + (c.toNat - 48)) 0)

/-- Whether a text begins with a minus sign, and the text without its sign. -/
def takeSign : List Char → Bool × List Char
  | '-' :: cs => (true, cs)
  | '+' :: cs => (false, cs)
  | cs => (false, cs)

/-- A number of either sign. -/
def signed? (cs : List Char) : Option Int :=
  let (negative, cs) := takeSign cs
  (digits? cs).map fun n => if negative then -(n : Int) else n

/-- A number of so many bits, one of which is for the sign. -/
def integer? (bits : Nat) (cs : List Char) : Option Int :=
  (signed? cs).filter fun n => -(twoPow (bits - 1) : Int) ≤ n && n < twoPow (bits - 1)

/-- A number of so many bits that cannot be negative. A plus sign may stand in front. -/
def natural? (bits : Nat) (cs : List Char) : Option Nat :=
  let cs := match cs with
    | '+' :: cs => cs
    | cs => cs
  (digits? cs).filter (· < twoPow bits)

end Scrip.Numeral
