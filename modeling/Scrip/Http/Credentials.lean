import Scrip.Http.Request
import Scrip.Text.Base64

/-!
# Credentials in a header

A name and a password in an `Authorization` header of the scheme `Basic`.

* `Credentials.ofHeader?`: what a header says. The scheme may be in any case, and what follows it
  is base 64 of a name, a colon and a password. The first colon counts.
* `basicHeader`: the header for a text of name, colon and password.
-/

namespace Scrip.Http

open Text (Base64.decodePadded? Base64.encodePadded)

/-- Bytes as characters of the same numbers. -/
def charsOf (bytes : List UInt8) : List Char :=
  bytes.map fun b => Char.ofNat b.toNat

/-- Characters of numbers below 256 as bytes. -/
def bytesOf (cs : List Char) : List UInt8 :=
  cs.map fun c => UInt8.ofNat c.toNat

/-- The text before and after the first of a character. -/
def splitFirst? (mark : Char) (cs : List Char) : Option (List Char × List Char) :=
  match cs.dropWhile (· != mark) with
  | [] => none
  | _ :: rest => some (cs.takeWhile (· != mark), rest)

/-- The text that bytes in UTF-8 stand for. -/
def ofUtf8? (bytes : List UInt8) : Option String :=
  String.fromUTF8? ⟨bytes.toArray⟩

/-- The name of the scheme, in lower case. -/
def basicScheme : List Char := "basic".toList

namespace Credentials

/-- What a text of name, colon and password says. -/
def ofPair? (pair : String) : Option Credentials :=
  (splitFirst? ':' pair.toList).map fun (username, password) =>
    ⟨String.ofList username, String.ofList password⟩

/-- What a header says. -/
def ofHeader? (header : List UInt8) : Option Credentials :=
  let cs := charsOf header
  let rest := cs.drop basicScheme.length
  if (cs.take basicScheme.length).map Char.toLower = basicScheme ∧ rest.head? = some ' ' then do
    let digits := rest.dropWhile (· == ' ')
    if digits.isEmpty then none
    else
      let bytes ← Base64.decodePadded? digits
      let pair ← ofUtf8? bytes
      ofPair? pair
  else none

end Credentials

/-- The header for a text of name, colon and password. -/
def basicHeader (pair : String) : List UInt8 :=
  bytesOf ("Basic ".toList ++ Base64.encodePadded pair.toUTF8.data.toList)

end Scrip.Http
