import Scrip.Crypt.Bcrypt
import Scrip.Error
import Scrip.Number.Numeral
import Scrip.Text.Base64

/-!
# Passwords

Which passwords are accepted, how they are kept and how they are checked.

* `hashPassword`: the text kept in place of a password, `$2b$10$`, the salt and the digest.
* `StoredHash.ofText?`: such a text taken apart. Pieces between dollar signs that are empty do
  not count, and the versions `2a`, `2b`, `2x` and `2y` mean the same.
* `verifyPassword`: whether a password gives the digest of a kept text. A text that cannot be
  taken apart matches no password.
-/

namespace Scrip.Credential

open Scrip.Crypt (Salt)
open Scrip.Text

/-- The fewest code points of a password. -/
def passwordMin : Nat := 6

/-- The cost at which passwords are hashed. -/
def hashCost : Nat := 10

/-- The least and the greatest cost that a kept hash may have. -/
def costBounds : Nat × Nat := (4, 31)

/-- Refuses a password that is too short. -/
def validatePassword (password : String) : Except Error Unit :=
  if password.length < passwordMin then
    .error (.invalidInput ("password must be at least " ++ toString passwordMin ++
      " characters long"))
  else .ok ()

/-- A kept hash: the cost, the salt and the digest. -/
structure StoredHash where
  cost : Nat
  salt : Salt
  digest : List UInt8

namespace StoredHash

/-- The texts between dollar signs that are not empty. -/
def pieces (cs : List Char) : List (List Char) :=
  let (piece, pieces) := cs.foldr
    (fun c (piece, pieces) => if c = '$' then ([], piece :: pieces) else (c :: piece, pieces))
    ([], [])
  (piece :: pieces).filter (!·.isEmpty)

/-- Sixteen bytes as a salt. -/
def salt? (bytes : List UInt8) : Option Salt :=
  let bytes : ByteArray := ⟨bytes.toArray⟩
  if h : bytes.size = 16 then some ⟨bytes, h⟩ else none

/-- The hash that a kept text stands for. -/
def ofText? (text : String) : Option StoredHash :=
  match pieces text.toList with
  | [version, cost, body] => do
    let cost ← Numeral.natural? 32 cost
    if ["2a", "2b", "2x", "2y"].contains (String.ofList version) ∧
        costBounds.1 ≤ cost ∧ cost ≤ costBounds.2 ∧ body.length = 53 then
      let salt ← Base64.decode? Base64.crypt (body.take 22)
      let salt ← salt? salt
      let digest ← Base64.decode? Base64.crypt (body.drop 22)
      some ⟨cost, salt, digest⟩
    else none
  | _ => none

/-- The text kept for a hash. -/
def toText (h : StoredHash) : String :=
  "$2b$" ++ (if h.cost < 10 then "0" else "") ++ toString h.cost ++ "$" ++
    String.ofList (Base64.encode Base64.crypt h.salt.bytes.data.toList) ++
    String.ofList (Base64.encode Base64.crypt h.digest)

end StoredHash

/-- The text kept in place of a password. -/
def hashPassword (salt : Salt) (password : String) : String :=
  StoredHash.toText ⟨hashCost, salt, Crypt.Bcrypt.digest hashCost salt password⟩

/-- Whether a password gives the digest of a kept text. -/
def verifyPassword (password stored : String) : Bool :=
  match StoredHash.ofText? stored with
  | none => false
  | some h => Crypt.Bcrypt.digest h.cost h.salt password == h.digest

end Scrip.Credential
