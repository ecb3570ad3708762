import Scrip.Crypt.Blowfish

/-!
# Bcrypt

The password hash bcrypt: a fixed text enciphered under boxes that are expensive to compute.

* `key`: the bytes of a password that take part. What lies past them does not matter.
* `digest`: the 23 bytes for a cost, a salt and a password.
-/

namespace Scrip.Crypt

/-- Sixteen bytes that make equal passwords hash differently. -/
structure Salt where
  bytes : ByteArray
  size_eq : bytes.size = 16

/-- The salt of sixteen equal bytes. -/
def Salt.replicate (b : UInt8) : Salt :=
  ⟨⟨Array.replicate 16 b⟩, by simp [ByteArray.size]⟩

namespace Bcrypt

/-- The most bytes of a key that take part. -/
def keyLimit : Nat := 72

/-- The key of a password: its bytes in UTF-8 and a zero byte, cut to 72 bytes. -/
def key (password : String) : ByteArray :=
  (password.toUTF8.push 0).extract 0 keyLimit

/-- The text that is enciphered, as three blocks. -/
def plaintext : List UInt64 :=
  let bytes := "OrpheanBeholderScryDoubt".toUTF8
  [blockAt bytes 0, blockAt bytes 8, blockAt bytes 16]

/-- A block enciphered `n` times in a row. -/
def encipherTimes (b : Boxes) : Nat → UInt64 → UInt64
  | 0, block => block
  | n + 1, block => encipherTimes b n (encipher b block)

/-- The eight bytes of a block, the high byte first. -/
def blockBytes (block : UInt64) : List UInt8 :=
  (List.range 8).map fun i => (block >>> UInt64.ofNat (56 - 8 * i)).toUInt8

/-- The digest of a key: the text enciphered 64 times, without its last byte. -/
def digestOfKey (cost : Nat) (salt : Salt) (key : ByteArray) : List UInt8 :=
  let boxes := expensiveBoxes cost salt.bytes key
  (plaintext.flatMap fun block => blockBytes (encipherTimes boxes 64 block)).take 23

/-- The digest of a password. -/
def digest (cost : Nat) (salt : Salt) (password : String) : List UInt8 :=
  digestOfKey cost salt (key password)

end Bcrypt

end Scrip.Crypt
