/-!
# Powers and rounding

Whole numbers as binary floating point keeps them: the 53 leading bits, a half to the even
neighbour.

* `twoPow`, `tenPow`: the powers of the two bases in which numbers are kept and written;
* `roundBits`, `roundWhole`: a number without a sign and with one.
-/

namespace Scrip

/-- A power of two. -/
def twoPow (n : Nat) : Nat := Nat.pow 2 n

/-- A power of ten. -/
def tenPow (n : Nat) : Nat := Nat.pow 10 n

/-- The bits that floating point keeps of a number. -/
def precision : Nat := 53

/-- The nearest number of at most 53 leading bits; of two equally near ones the even one. -/
def roundBits (n : Nat) : Nat :=
  if n < twoPow precision then n
  else
    let unit := twoPow (n.log2 + 1 - precision)
    let kept := n / unit
    let dropped := n % unit
    if 2 * dropped < unit ∨ (2 * dropped = unit ∧ kept % 2 = 0) then kept * unit
    else (kept + 1) * unit

/-- A whole number of either sign in floating point. -/
def roundWhole (n : Int) : Int :=
  if n < 0 then -(roundBits n.natAbs : Int) else (roundBits n.natAbs : Int)

end Scrip
