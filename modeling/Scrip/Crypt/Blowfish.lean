import Scrip.Crypt.Pi
import Scrip.Number.Rounding

/-!
# Blowfish with an expensive key schedule

The block cipher Blowfish, and the variant of its key schedule that mixes a salt into the boxes.

* `encipher`: one block through the sixteen rounds.
* `mixKey`, `fill`: the two halves of the key schedule.
* `expensiveBoxes`: the schedule repeated with key and salt in turn.
-/

namespace Scrip.Crypt

/-- The eighteen round keys of the cipher and, after them, its four boxes of 256 words. -/
abbrev Boxes := Vector UInt32 1042

/-- The boxes before any key: the fraction of π. -/
def initialBoxes : Boxes :=
  ⟨(piWords 1042).toArray, List.size_toArray.trans (length_piWords 1042)⟩

theorem low_byte_lt (x : UInt32) : (x &&& 0xFF).toNat < 256 := by
  rw [UInt32.toNat_and]
  exact Nat.lt_of_le_of_lt Nat.and_le_right (by decide)

/-- The word of a box that a byte selects. The boxes start after the round keys. -/
@[inline] def boxWord (b : Boxes) (box : Nat) (hbox : box < 4) (x : UInt32) : UInt32 :=
  have h : 18 + 256 * box + (x &&& 0xFF).toNat < 1042 := by
    have := low_byte_lt x
    omega
  b[18 + 256 * box + (x &&& 0xFF).toNat]

/-- The round function: its four bytes look up one word each. -/
@[inline] def roundWord (b : Boxes) (x : UInt32) : UInt32 :=
  ((boxWord b 0 (by decide) (x >>> 24) + boxWord b 1 (by decide) (x >>> 16)) ^^^
    boxWord b 2 (by decide) (x >>> 8)) + boxWord b 3 (by decide) x

/-- The last rounds of the cipher, as many as `n` says: the round key into the left half, its
round word into the right half, halves exchanged. -/
def rounds (b : Boxes) : (n : Nat) → n ≤ 16 → UInt32 → UInt32 → UInt64
  | 0, _, left, right =>
    ((right ^^^ b[17]).toUInt64 <<< 32) ||| (left ^^^ b[16]).toUInt64
  | n + 1, h, left, right =>
    let left := left ^^^ b[15 - n]
    rounds b n (by omega) (right ^^^ roundWord b left) left

/-- One block of 64 bits enciphered. -/
def encipher (b : Boxes) (block : UInt64) : UInt64 :=
  rounds b 16 (by decide) (block >>> 32).toUInt32 block.toUInt32

/-- The last `n` of the 521 pairs of words in the boxes replaced, each pair by the encipherment of
the pair before it with half of the salt mixed in. The halves take turns. -/
def fill : (n : Nat) → n ≤ 521 → (salt salt' : UInt64) → Boxes → UInt64 → Boxes
  | 0, _, _, _, b, _ => b
  | n + 1, h, salt, salt', b, block =>
    let block := encipher b (block ^^^ salt)
    let b := b.set (2 * (520 - n)) (block >>> 32).toUInt32
    let b := b.set (2 * (520 - n) + 1) block.toUInt32
    fill n (by omega) salt' salt b block

/-- The round keys with a key of eighteen words mixed in. -/
def mixKey (b : Boxes) (key : Vector UInt32 18) : Boxes :=
  Nat.fold 18 (fun i h b => b.set i (b[i] ^^^ key[i])) b

/-- The boxes after one run of the key schedule. -/
def expandKey (key : Vector UInt32 18) (salt salt' : UInt64) (b : Boxes) : Boxes :=
  fill 521 (by decide) salt salt' (mixKey b key) 0

/-- The key schedule without salt, `n` times, with the key and the second key in turn. -/
def repeatKeys (key key' : Vector UInt32 18) : Nat → Boxes → Boxes
  | 0, b => b
  | n + 1, b => repeatKeys key key' n (expandKey key' 0 0 (expandKey key 0 0 b))

/-- The byte at a position of an endlessly repeated key. -/
def cycleByte (key : ByteArray) (i : Nat) : UInt8 :=
  key.data.getD (i % key.size) 0

/-- Eighteen words of an endlessly repeated key, the high byte of each word first. -/
def cycleWords (key : ByteArray) : Vector UInt32 18 :=
  Vector.ofFn fun i =>
    ((cycleByte key (4 * i)).toUInt32 <<< 24) ||| ((cycleByte key (4 * i + 1)).toUInt32 <<< 16) |||
      ((cycleByte key (4 * i + 2)).toUInt32 <<< 8) ||| (cycleByte key (4 * i + 3)).toUInt32

/-- The block of eight bytes at a position, the high byte first. -/
def blockAt (bytes : ByteArray) (start : Nat) : UInt64 :=
  (List.range 8).foldl
    (fun block i => (block <<< 8) ||| (bytes.data.getD (start + i) 0).toUInt64) 0

/-- The boxes for a key and a salt: one schedule with both, then `2 ^ cost` rounds of schedules
with the key and with the salt as a key. -/
def expensiveBoxes (cost : Nat) (salt key : ByteArray) : Boxes :=
  let keyWords := cycleWords key
  repeatKeys keyWords (cycleWords salt) (twoPow cost)
    (expandKey keyWords (blockAt salt 0) (blockAt salt 8) initialBoxes)

end Scrip.Crypt
