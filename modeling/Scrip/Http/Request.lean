import Scrip.Http.Response
import Scrip.Wire.Message

/-!
# Requests

A request as it reaches the server, with its headers and its body in bytes.

* `Request.values`: the values of a header.
* `Extractors`: what is taken from a request for the server. To read it is not the server's own
  work, so the server is given whoever does it.
-/

namespace Scrip.Http

/-- A request. The names of its headers are in lower case. -/
structure Request where
  method : Method
  path : String
  headers : List (String × List UInt8) := []
  body : List UInt8 := []
  deriving DecidableEq, Repr

/-- The values of a header, in the order in which they were sent. -/
def Request.values (r : Request) (name : String) : List (List UInt8) :=
  (r.headers.filter (·.1 = name)).map (·.2)

/-- A name and a password, neither of them checked. -/
structure Credentials where
  username : String
  password : String
  deriving DecidableEq, Repr

/-- What is taken from a request for the server, or the answer to a request of which it cannot be
read. -/
structure Extractors where
  /-- The credentials of the scheme `Basic`, if the request brings any. -/
  credentials : Request → Except Response (Option Credentials)
  /-- The message by which somebody signs in. -/
  signIn : Request → Except Response Wire.SignIn
  /-- The message by which somebody sends coins. -/
  sendCoins : Request → Except Response Wire.SendCoins
  /-- The name of the item that somebody buys. -/
  item : Request → Except Response String

end Scrip.Http
