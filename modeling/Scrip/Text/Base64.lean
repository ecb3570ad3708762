/-!
# Base 64

Bytes as text of 64 digits, three bytes to four digits.

* `encode`, `decode?`: with an alphabet of the caller's choice and without padding. Reading
  refuses text that writing cannot produce: bits past the last byte must be zero.
* `decodePadded?`: the standard alphabet with padding to full groups of four.
-/

namespace Scrip.Text.Base64

/-- The digits of value 0 to 63. -/
abbrev Alphabet := List Char

/-- The standard alphabet. -/
def standard : Alphabet :=
  "ABCDEFGHIJKLMNOPQRSTUVWXYZabcdefghijklmnopqrstuvwxyz0123456789+/".toList

/-- The alphabet of password hashes. -/
def crypt : Alphabet :=
  "./ABCDEFGHIJKLMNOPQRSTUVWXYZabcdefghijklmnopqrstuvwxyz0123456789".toList

/-- The digit of a value below 64. -/
def digit (a : Alphabet) (value : Nat) : Char :=
  a.getD value '='

/-- The value of a digit. -/
def value? (a : Alphabet) (c : Char) : Option Nat :=
  a.idxOf? c

/-- Bytes as digits, without padding. -/
def encode (a : Alphabet) : List UInt8 → List Char
  | [] => []
  | [x] => [digit a (x.toNat / 4), digit a (x.toNat % 4 * 16)]
  | [x, y] =>
    [digit a (x.toNat / 4), digit a (x.toNat % 4 * 16 + y.toNat / 16), digit a (y.toNat % 16 * 4)]
  | x :: y :: z :: bytes =>
    digit a (x.toNat / 4) :: digit a (x.toNat % 4 * 16 + y.toNat / 16) ::
      digit a (y.toNat % 16 * 4 + z.toNat / 64) :: digit a (z.toNat % 64) :: encode a bytes

/-- The bytes that digits without padding stand for. -/
def decode? (a : Alphabet) : List Char → Option (List UInt8)
  | [] => some []
  | [_] => none
  | [c, d] => do
    let c ← value? a c
    let d ← value? a d
    if d % 16 = 0 then some [UInt8.ofNat (c * 4 + d / 16)] else none
  | [c, d, e] => do
    let c ← value? a c
    let d ← value? a d
    let e ← value? a e
    if e % 4 = 0 then
      some [UInt8.ofNat (c * 4 + d / 16), UInt8.ofNat (d % 16 * 16 + e / 4)]
    else none
  | c :: d :: e :: f :: digits => do
    let c ← value? a c
    let d ← value? a d
    let e ← value? a e
    let f ← value? a f
    let bytes ← decode? a digits
    some (UInt8.ofNat (c * 4 + d / 16) :: UInt8.ofNat (d % 16 * 16 + e / 4) ::
      UInt8.ofNat (e % 4 * 64 + f) :: bytes)

/-- Bytes as digits of the standard alphabet, padded to full groups of four. -/
def encodePadded (bytes : List UInt8) : List Char :=
  encode standard bytes ++ List.replicate ((3 - bytes.length % 3) % 3) '='

/-- The bytes that padded digits of the standard alphabet stand for. -/
def decodePadded? (digits : List Char) : Option (List UInt8) :=
  let padding := (digits.reverse.takeWhile (· == '=')).length
  if digits.length % 4 = 0 ∧ padding ≤ 2 then
    decode? standard (digits.take (digits.length - padding))
  else none

end Scrip.Text.Base64
