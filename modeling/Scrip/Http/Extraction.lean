import Scrip.Http.MediaType
import Scrip.Http.Route
import Scrip.Wire.Read

/-!
# Reading requests

What is read from a request for the server, and how it is refused if it cannot be read.

* `Request.message`: the message in the body. The body has to be said to be JSON, must not be too
  large, and has to hold the message.
* `segmentName?`: the name in a segment of a path.
* `Extractors.standard`: all that the server wants.
-/

namespace Scrip.Http

/-! ## The body -/

/-- How a byte is written that is part of no character: as nothing that may stand in JSON, in a
string that somebody wants neither. Only a string that is passed over may hold it. -/
def strayByte : List Char := "x\\udc00".toList

/-- Characters in UTF-8, with stray bytes among them. -/
def ofUtf8Lossy : (fuel : Nat) → List UInt8 → List Char
  | 0, _ | _, [] => []
  | fuel + 1, b :: bytes =>
    let character? := [1, 2, 3, 4].findSome? fun n =>
      (ofUtf8? ((b :: bytes).take n)).map fun text => (text.toList, n)
    match character? with
    | some (c, n) => c ++ ofUtf8Lossy fuel ((b :: bytes).drop n)
    | none => strayByte ++ ofUtf8Lossy fuel bytes

/-- The text of a body. -/
def bodyText (bytes : List UInt8) : String :=
  (ofUtf8? bytes).getD (String.ofList (ofUtf8Lossy bytes.length bytes))

/-- How many bytes a body may have: two mebibytes. -/
def bodyLimit : Nat := 2 * 1024 * 1024

/-- The message in the body of a request, or the answer that refuses it. -/
def Request.message {α : Type} (read : Json.Reader α) (r : Request) : Except Response α :=
  if ((r.values "content-type").head?.any isJson) then
    if r.body.length ≤ bodyLimit then
      match Wire.ofText read (bodyText r.body) with
      | .ok message => .ok message
      | .error .mismatch => .error (.unreadable 422)
      | .error _ => .error (.unreadable 400)
    else .error (.unreadable 413)
  else .error (.unreadable 415)

/-! ## The path -/

/-- Bytes written as a percent sign and two hexadecimal digits; all else stands for itself. -/
def percentDecode : List UInt8 → List UInt8
  | [] => []
  | [b] => [b]
  | [b, c] => [b, c]
  | b :: c :: d :: rest =>
    if b = 37 then
      match Json.hexValue? (Char.ofNat c.toNat), Json.hexValue? (Char.ofNat d.toNat) with
      | some high, some low => UInt8.ofNat (16 * high + low) :: percentDecode rest
      | _, _ => b :: percentDecode (c :: d :: rest)
    else b :: percentDecode (c :: d :: rest)

/-- The name that a segment of a path stands for. -/
def segmentName? (segment : List Char) : Option String :=
  ofUtf8? (percentDecode (String.ofList segment).toUTF8.data.toList)

/-! ## All that is wanted -/

/-- What is wanted, or the answer to a request that is malformed. -/
def orMalformed {α : Type} : Option α → Except Response α
  | some a => .ok a
  | none => .error (.unreadable 400)

/-- Of several `Authorization` headers the first one counts. -/
def Extractors.standard : Extractors where
  credentials r :=
    match r.values "authorization" with
    | [] => .ok none
    | header :: _ => (orMalformed (Credentials.ofHeader? header)).map some
  signIn := Request.message Wire.SignIn.read
  sendCoins := Request.message Wire.SendCoins.read
  item r := orMalformed (segmentName? ((plainPath r.path).drop buyPath.length))

end Scrip.Http
