import Scrip.Number.Rounding

/-!
# Floating-point numbers

Numbers of 64 bits in binary floating point, by exact arithmetic on whole numbers.

* `Floating.ofDecimal`: the nearest number to a decimal; of two equally near ones the even one.
* `Floating.display`: the fewest digits that read back as the number, written without exponent.
* `Floating.toWhole`: the nearest whole number within bounds, a half away from zero.
-/

namespace Scrip

/-- A number in floating point. The finite ones are `m · 2^q` with a sign, where `m` has at most
53 bits. -/
inductive Floating where
  | nan
  | infinite (negative : Bool)
  | finite (negative : Bool) (m : Nat) (q : Int)
  deriving DecidableEq, Repr

namespace Floating

/-- The least exponent of a finite number. -/
def leastExponent : Int := -1074

/-- The greatest exponent of a finite number. -/
def greatestExponent : Int := 971

/-- `a · 2^q` as a fraction. -/
def scaled (a d : Nat) (q : Int) : Nat × Nat :=
  (a * twoPow q.toNat, d * twoPow (-q).toNat)

/-- The nearest whole number to a fraction, a half to the even one. -/
def nearestEven (a d : Nat) : Nat :=
  if d < 2 * (a % d) ∨ (d = 2 * (a % d) ∧ a / d % 2 = 1) then a / d + 1 else a / d

/-- The exponent at which a fraction has 53 bits in front of the point, or the least one. -/
def exponentFor (a d : Nat) : Int :=
  let guess : Int := (a.log2 : Int) - d.log2 - 52
  let (n, m) := scaled a d (-guess)
  max leastExponent (if n < m * twoPow 52 then guess - 1 else guess)

/-- The nearest number to a positive fraction. -/
def ofFraction (negative : Bool) (a d : Nat) : Floating :=
  let q := exponentFor a d
  let (n, m) := scaled a d (-q)
  let rounded := nearestEven n m
  let (rounded, q) := if rounded = twoPow 53 then (twoPow 52, q + 1) else (rounded, q)
  if greatestExponent < q then infinite negative else finite negative rounded q

/-- The nearest number to `n · 10 ^ e`. A decimal far outside of the range is not computed. -/
def ofDecimal (negative : Bool) (n : Nat) (e : Int) : Floating :=
  let size := e + (Nat.toDigits 10 n).length
  if n = 0 ∨ size < -400 then finite negative 0 0
  else if 400 < size then infinite negative
  else ofFraction negative (n * tenPow e.toNat) (tenPow (-e).toNat)

/-- Whether `c · 10 ^ u` is less than `x · 2 ^ q`. -/
def decimalLt (c : Nat) (u : Int) (x : Nat) (q : Int) : Bool :=
  c * tenPow u.toNat * twoPow (-q).toNat < x * twoPow q.toNat * tenPow (-u).toNat

/-- Whether `c · 10 ^ u` equals `x · 2 ^ q`. -/
def decimalEq (c : Nat) (u : Int) (x : Nat) (q : Int) : Bool :=
  c * tenPow u.toNat * twoPow (-q).toNat == x * twoPow q.toNat * tenPow (-u).toNat

/-- Whether `c · 10 ^ u` reads back as `m · 2^q`: it lies between the midpoints to the neighbours.
The midpoints themselves do for an even number. Below a power of two the neighbour is nearer. -/
def readsBack (m : Nat) (q : Int) (c : Nat) (u : Int) : Bool :=
  let low := if m = twoPow 52 ∧ leastExponent < q then 4 * m - 1 else 4 * m - 2
  let high := 4 * m + 2
  let isEven := m % 2 == 0
  !decimalLt c u low (q - 2) && (isEven || !decimalEq c u low (q - 2)) &&
    (decimalLt c u high (q - 2) || (isEven && decimalEq c u high (q - 2)))

/-- The multiple of `10 ^ u` just below `m · 2^q`. -/
def gridFloor (m : Nat) (q u : Int) : Nat :=
  m * twoPow q.toNat * tenPow (-u).toNat / (twoPow (-q).toNat * tenPow u.toNat)

/-- The multiple of `10 ^ u` that reads back as `m · 2^q` and is nearest to it, if one does. Of two
equally near ones it is the greater. -/
def onGrid? (m : Nat) (q u : Int) : Option Nat :=
  let c := gridFloor m q u
  match readsBack m q c u && c != 0, readsBack m q (c + 1) u with
  | true, true =>
    if decimalLt (2 * c + 1) u (2 * m) q || decimalEq (2 * c + 1) u (2 * m) q then some (c + 1)
    else some c
  | true, false => some c
  | false, true => some (c + 1)
  | false, false => none

/-- Finer and finer grids, as many as `fuel` says, until a multiple reads back. -/
def shortestFrom (m : Nat) (q : Int) : (fuel : Nat) → (u : Int) → Nat × Int
  | 0, u => (gridFloor m q u, u)
  | fuel + 1, u =>
    match onGrid? m q u with
    | some c => (c, u)
    | none => shortestFrom m q fuel (u - 1)

/-- The decimal `c · 10 ^ u` of the fewest digits that reads back as `m · 2^q`. The first grid
is coarser than the number, and the last one fine enough to tell all numbers apart. -/
def shortest (m : Nat) (q : Int) : Nat × Int :=
  let bits : Int := m.log2 + q
  shortestFrom m q 20 (bits * 30103 / 100000 + 2)

/-- `c · 10 ^ u` written without exponent. -/
def positional (c : Nat) (u : Int) : String :=
  let digits := Nat.toDigits 10 c
  if 0 ≤ u then String.ofList (digits ++ List.replicate u.toNat '0')
  else
    let places := (-u).toNat
    let padded := List.replicate (places + 1 - digits.length) '0' ++ digits
    String.ofList (padded.take (padded.length - places)) ++ "." ++
      String.ofList (padded.drop (padded.length - places))

/-- The fewest digits that read back as the number, without exponent. -/
def display : Floating → String
  | nan => "NaN"
  | infinite negative => (if negative then "-" else "") ++ "inf"
  | finite negative m q =>
    (if negative then "-" else "") ++
      if m = 0 then "0"
      else
        let (c, u) := shortest m q
        positional c u

/-- The nearest whole number, a half away from zero, or the bound that it lies past. -/
def toWhole (low high : Int) : Floating → Int
  | nan => 0
  | infinite negative => if negative then low else high
  | finite negative m q =>
    let magnitude : Int :=
      (2 * m * twoPow q.toNat + twoPow (-q).toNat) / (2 * twoPow (-q).toNat)
    max low (min high (if negative then -magnitude else magnitude))

end Floating

end Scrip
