import Scrip.Error
import Scrip.Json.Text

/-!
# Responses

What the server answers.

* `Error.status`: the status code for an error of the engine.
* `Response.refusal`: every error of the engine is answered by an object with the one member
  `errors`, which holds the error's text.
-/

namespace Scrip.Http

/-- What stands in the body of a response. -/
inductive Body where
  | empty
  | json (text : Json.Text)
  /-- A remark in plain text on a request that could not be read. -/
  | plain
  deriving DecidableEq, Repr

/-- A request method. -/
abbrev Method := String

/-- A response: the status code, the body and, when the method was wrong, the right ones. -/
structure Response where
  status : Nat
  body : Body
  allow : Option (List Method) := none
  deriving DecidableEq, Repr

/-- The status code for an error of the engine. -/
def statusOf : Error → Nat
  | .accountNotFound _ | .itemNotFound _ => 404
  | .accountAlreadyExists _ | .itemAlreadyExists _ => 409
  | .invalidCredentials => 401
  | .timeout _ => 503
  | .operationFailed _ => 500
  | .insufficientFunds _ | .invalidAmount _ | .invalidRecipient _ | .invalidInput _ => 400

/-- The body that reports an error by its text. -/
def errorBody (message : String) : Json.Text :=
  Json.object [("errors", Json.string message)]

namespace Response

/-- The answer to an error of the engine. -/
def refusal (e : Error) : Response :=
  { status := statusOf e, body := .json (errorBody e.message) }

/-- The answer to a request that is wrong for a reason told in the text. -/
def badRequest (message : String) : Response :=
  { status := 400, body := .json (errorBody message) }

/-- Success without a body. -/
def done : Response :=
  { status := 200, body := .empty }

/-- Success with a JSON body. -/
def found (text : Json.Text) : Response :=
  { status := 200, body := .json text }

/-- A refusal of a request that could not be read. -/
def unreadable (status : Nat) : Response :=
  { status, body := .plain }

end Response

end Scrip.Http
