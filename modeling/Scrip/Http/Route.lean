import Scrip.Http.Response

/-!
# Routes

The five paths that the server knows. All but one need credentials.

* `Route.ofPath?`: the route of a path. What follows a question mark does not count.
* `Route.methods`: the methods that it takes.
-/

namespace Scrip.Http

/-- A path that needs credentials. -/
inductive MemberRoute where
  | info
  | sendCoins
  /-- The item is named by the last segment of the path. -/
  | buy
  | offers
  deriving DecidableEq, Repr

/-- A path that the server knows. -/
inductive Route where
  | signIn
  | member (route : MemberRoute)
  deriving DecidableEq, Repr

/-- What stands in front of the item's segment. -/
def buyPath : List Char := "/api/buy/".toList

/-- A path without what follows a question mark. -/
def plainPath (path : String) : List Char :=
  path.toList.takeWhile fun c => c != '?' && c != '#'

/-- The route of a path. -/
def Route.ofPath? (path : String) : Option Route :=
  let cs := plainPath path
  if cs = "/api/auth".toList then some signIn
  else if cs = "/api/info".toList then some (member .info)
  else if cs = "/api/sendCoin".toList then some (member .sendCoins)
  else if cs = "/api/merch".toList then some (member .offers)
  else if buyPath.isPrefixOf cs then
    let segment := cs.drop buyPath.length
    if segment.isEmpty || segment.contains '/' then none else some (member .buy)
  else none

/-- The methods that a route takes. -/
def Route.methods : Route → List Method
  | signIn | member .sendCoins => ["POST"]
  | member .info | member .buy | member .offers => ["GET", "HEAD"]

end Scrip.Http
