import Scrip.Engine.Command
import Scrip.Http.Request
import Scrip.Http.Route

/-!
# The server

What is answered to a request, after a dialogue with the storage and with what its extractors took
from the request.

* `authorize`: the account of a request's credentials. Without any, or with an empty part, the
  request is refused; credentials that cannot be read are an error of the client.
* `respond`: the answer. Who asks is looked at before what is asked, but an unknown path is
  unknown to everybody. A method that a route does not take is told the right ones.
-/

namespace Scrip.Http

open Crypt (Salt)
open Wire

/-- The answer to the outcome of an operation. -/
def answer {α : Type} (response : α → Response) : Except Error α → Response
  | .ok a => response a
  | .error e => .refusal e

/-- Signs in, and tells the balance. -/
def signIn (x : Extractors) (e : Engine) (salt : Salt) (r : Request) : Exchange Response := do
  match x.signIn r with
  | .error response => pure response
  | .ok m =>
    return answer (fun a => .found (SignedIn.toJson ⟨a.username, a.coins⟩))
      (← e.signIn m.username m.password salt)

/-- Tells an account holder everything. -/
def info (e : Engine) (account : Account) : Exchange Response := do
  return answer (fun s => .found (Info.ofStatement s).toJson) (← e.statement account.id)

/-- Sends coins. -/
def sendCoins (x : Extractors) (e : Engine) (account : Account) (r : Request) :
    Exchange Response := do
  match x.sendCoins r with
  | .error response => pure response
  | .ok m =>
    return answer (fun _ => .done) (← e.transfer account.id m.toUser m.amount none)

/-- Buys the item that the path names. -/
def buy (x : Extractors) (e : Engine) (account : Account) (r : Request) : Exchange Response := do
  match x.item r with
  | .error response => pure response
  | .ok item => return answer (fun _ => .done) (← e.purchase account.id item none)

/-- Lists the items on offer. -/
def offers (e : Engine) : Exchange Response := do
  return answer (fun items => .found (Json.array (items.map fun i => (Offer.ofItem i).toJson)))
    (← e.catalog)

/-- The account of a request's credentials, or the answer that refuses it. -/
def authorize (x : Extractors) (e : Engine) (r : Request) : Exchange (Except Response Account) :=
  match x.credentials r with
  | .error response => pure (.error response)
  | .ok none => pure (.error (.refusal .invalidCredentials))
  | .ok (some c) =>
    if c.username.isEmpty || c.password.isEmpty then
      pure (.error (.refusal .invalidCredentials))
    else do
      match ← e.authenticate c.username c.password with
      | .ok account => pure (.ok account)
      | .error failure => pure (.error (.refusal failure))

/-- The answer on a route that needs credentials, once they are known to be right. -/
def serve (x : Extractors) (e : Engine) (r : Request) (account : Account) :
    MemberRoute → Exchange Response
  | .info => info e account
  | .sendCoins => sendCoins x e account r
  | .buy => buy x e account r
  | .offers => offers e

/-- A method that the route does not take. -/
def wrongMethod : Response :=
  { status := 405, body := .empty }

/-- The answer on a route, when the method may be wrong. -/
def respondOn (x : Extractors) (e : Engine) (salt : Salt) (r : Request) (route : Route) :
    Exchange Response := do
  let isRight := route.methods.contains r.method
  let response ←
    match route with
    | .signIn => if isRight then signIn x e salt r else pure wrongMethod
    | .member route => do
      match ← authorize x e r with
      | .error response => pure response
      | .ok account => if isRight then serve x e r account route else pure wrongMethod
  return if isRight then response else { response with allow := some route.methods }

/-- The answer to a request. That to the method `HEAD` has no body. -/
def respond (x : Extractors) (e : Engine) (salt : Salt) (r : Request) : Exchange Response := do
  match Route.ofPath? r.path with
  | none => pure { status := 404, body := .empty }
  | some route =>
    let response ← respondOn x e salt r route
    return if r.method = "HEAD" then { response with body := .empty } else response

end Scrip.Http
