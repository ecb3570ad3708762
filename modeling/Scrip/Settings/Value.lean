import Scrip.Number.Floating
import Scrip.Number.Numeral
import Scrip.Number.Rounding

/-!
# Values of settings

What a setting may be given as, and how it is taken for what is wanted.

* `Value.toInteger?`, `Value.toNatural?`, `Value.toText?`: words for yes and no count as one and
  zero, numbers in text as numbers, and fractions are rounded.
* `readFloating?`: the numbers with a point or an exponent that text may hold.
-/

namespace Scrip.Settings

/-- A value as it was given. -/
inductive Value where
  | boolean (b : Bool)
  | integer (n : Int)
  | floating (x : Floating)
  | text (s : String)
  | list (vs : List Value)
  | table (fields : List (String × Value))
  /-- A place that was given no value. -/
  | nothing
  deriving Repr

/-- A number of digits with a point among them or not, and an exponent of ten. -/
def readDecimal? (negative : Bool) (cs : List Char) : Option Floating :=
  let isMark (c : Char) : Bool := c == 'e' || c == 'E'
  let significand := cs.takeWhile (!isMark ·)
  let whole := significand.takeWhile (· != '.')
  let fraction := (significand.dropWhile (· != '.')).drop 1
  let exponent : Option Int := match cs.dropWhile (!isMark ·) with
    | [] => some 0
    | _ :: cs => Numeral.signed? cs
  match Numeral.digits? (whole ++ fraction), exponent with
  | some n, some e => some (Floating.ofDecimal negative n (e - fraction.length))
  | _, _ => none

/-- A number in floating point. -/
def readFloating? (s : String) : Option Floating :=
  let (negative, cs) := Numeral.takeSign s.toList
  let word := String.ofList (cs.map Char.toLower)
  if word = "inf" ∨ word = "infinity" then some (.infinite negative)
  else if word = "nan" then some .nan
  else readDecimal? negative cs

/-- The words for yes, as one, and for no, as zero. -/
def readSwitch? (s : String) : Option Nat :=
  let word := String.ofList (s.toList.map Char.toLower)
  if ["true", "on", "yes"].contains word then some 1
  else if ["false", "off", "no"].contains word then some 0
  else none

namespace Value

/-- A value taken for a whole number of 64 bits with a sign. -/
def toInteger? : Value → Option Int
  | boolean b => some b.toInt
  | integer n => some n
  | floating x => some (x.toWhole (-(twoPow 63 : Int)) ((twoPow 63 : Int) - 1))
  | text s => (readSwitch? s).map Int.ofNat <|> Numeral.integer? 64 s.toList
  | list _ | table _ | nothing => none

/-- A value taken for a whole number of 64 bits without a sign. -/
def toNatural? : Value → Option Nat
  | boolean b => some b.toNat
  | integer n => if 0 ≤ n then some n.toNat else none
  | floating x => some (x.toWhole 0 ((twoPow 64 : Int) - 1)).toNat
  | text s => readSwitch? s <|> Numeral.natural? 64 s.toList
  | list _ | table _ | nothing => none

/-- A value taken for text. -/
def toText? : Value → Option String
  | boolean b => some (if b then "true" else "false")
  | integer n => some (toString n)
  | floating x => some x.display
  | text s => some s
  | list _ | table _ | nothing => none

/-- The fields of a table; anything else has none. -/
def fields : Value → List (String × Value)
  | table fields => fields
  | _ => []

/-- The elements of a list; anything else has none. -/
def elements : Value → List Value
  | list vs => vs
  | _ => []

end Value

end Scrip.Settings
