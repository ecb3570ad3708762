import Scrip.Number.Rounding

/-!
# Binary digits of π

The fraction of π as 32-bit words, by the formula π = 16 arctan (1/5) − 4 arctan (1/239) in
fixed-point arithmetic.

* `piWords`: the first words of the fraction.
-/

namespace Scrip.Crypt

/-- The sum of `power / (2k + 1)` with alternating signs, where `power` shrinks by the square of
`x` with every term: twice the positive terms less all terms, up to the number of terms. -/
def arctanSeries (square : Nat) : Nat → Nat → Nat → Int → Int
  | 0, _, _, sum => sum
  | terms + 1, power, odd, sum =>
    if power = 0 then sum
    else
      let term : Int := power / odd
      arctanSeries square terms (power / square) (odd + 2)
        (if odd % 4 = 1 then sum + term else sum - term)

/-- `arctan (1 / x)` in units of `1 / one`. -/
def arctanInverse (one x : Nat) : Int :=
  arctanSeries (x * x) one.log2 (one / x) 1 0

/-- Bits computed past those that are used, so that rounding does not reach them. -/
def guardBits : Nat := 64

/-- The first `n` words of 32 bits of the fraction of π. -/
def piWords (n : Nat) : List UInt32 :=
  let one := twoPow (32 * n + guardBits)
  let pi := 16 * arctanInverse one 5 - 4 * arctanInverse one 239
  let fraction := (pi - 3 * one).toNat >>> guardBits
  (List.range n).map fun i => UInt32.ofNat (fraction >>> (32 * (n - 1 - i)) % twoPow 32)

theorem length_piWords (n : Nat) : (piWords n).length = n := by
  simp only [piWords, List.length_map, List.length_range]

end Scrip.Crypt
