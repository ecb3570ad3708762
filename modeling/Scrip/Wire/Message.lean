import Scrip.Engine.Statement
import Scrip.Json.Record

/-!
# Messages

What clients and the server send each other, as JSON objects.

* `toJson`: the text of each kind of message.
* `Info.ofStatement`: what an account holder is told. Times and entry numbers stay behind.
-/

namespace Scrip.Wire

open Json (Text)

/-- A name and password that want to sign in. -/
structure SignIn where
  username : String
  password : String
  deriving DecidableEq, Repr

/-- The account that signed in. -/
structure SignedIn where
  username : String
  coins : Int
  deriving DecidableEq, Repr

/-- How many of a kind of item an account owns. -/
structure Owned where
  kind : String
  quantity : Int
  deriving DecidableEq, Repr

/-- Coins that came in. -/
structure Received where
  fromUser : String
  amount : Int
  deriving DecidableEq, Repr

/-- Coins that went out, and the item they were spent on. -/
structure Sent where
  toUser : String
  amount : Int
  item : Option String
  deriving DecidableEq, Repr

/-- Coins that came in and went out, newest first. -/
structure CoinHistory where
  received : List Received
  sent : List Sent
  deriving DecidableEq, Repr

/-- All that an account holder is told. -/
structure Info where
  coins : Int
  inventory : List Owned
  coinHistory : CoinHistory
  deriving DecidableEq, Repr

/-- A wish to send coins. -/
structure SendCoins where
  toUser : String
  amount : Int
  deriving DecidableEq, Repr

/-- An item on offer. -/
structure Offer where
  name : String
  price : Int
  deriving DecidableEq, Repr

/-- Why a request was refused. -/
structure Refusal where
  errors : String
  deriving DecidableEq, Repr

/-- A name and password in JSON. -/
def SignIn.toJson (m : SignIn) : Text :=
  Json.object [
    ("username", Json.string m.username),
    ("password", Json.string m.password)]

/-- The account that signed in, in JSON. -/
def SignedIn.toJson (m : SignedIn) : Text :=
  Json.object [
    ("username", Json.string m.username),
    ("coins", Json.integer m.coins)]

/-- An owned kind of item in JSON. -/
def Owned.toJson (m : Owned) : Text :=
  Json.object [
    ("type", Json.string m.kind),
    ("quantity", Json.integer m.quantity)]

/-- Coins that came in, in JSON. -/
def Received.toJson (m : Received) : Text :=
  Json.object [
    ("fromUser", Json.string m.fromUser),
    ("amount", Json.integer m.amount)]

/-- Coins that went out, in JSON. Without an item there is no such member. -/
def Sent.toJson (m : Sent) : Text :=
  Json.object ([
    ("toUser", Json.string m.toUser),
    ("amount", Json.integer m.amount)] ++
    (m.item.map fun item => ("item", Json.string item)).toList)

/-- Coins that came in and went out, in JSON. -/
def CoinHistory.toJson (m : CoinHistory) : Text :=
  Json.object [
    ("received", Json.array (m.received.map Received.toJson)),
    ("sent", Json.array (m.sent.map Sent.toJson))]

/-- All that an account holder is told, in JSON. -/
def Info.toJson (m : Info) : Text :=
  Json.object [
    ("coins", Json.integer m.coins),
    ("inventory", Json.array (m.inventory.map Owned.toJson)),
    ("coinHistory", m.coinHistory.toJson)]

/-- A wish to send coins, in JSON. -/
def SendCoins.toJson (m : SendCoins) : Text :=
  Json.object [
    ("toUser", Json.string m.toUser),
    ("amount", Json.integer m.amount)]

/-- An item on offer, in JSON. -/
def Offer.toJson (m : Offer) : Text :=
  Json.object [
    ("name", Json.string m.name),
    ("price", Json.integer m.price)]

/-- Why a request was refused, in JSON. -/
def Refusal.toJson (m : Refusal) : Text :=
  Json.object [("errors", Json.string m.errors)]

/-- What an account holder is told of a statement. -/
def Info.ofStatement (s : Statement) : Info where
  coins := s.account.coins
  inventory := s.inventory.map fun o => ⟨o.item, o.quantity⟩
  coinHistory :=
    { received := s.history.received.map fun l => ⟨l.counterparty, l.amount⟩
      sent := s.history.sent.map fun l => ⟨l.counterparty, l.amount, l.item⟩ }

/-- What is told of an item. -/
def Offer.ofItem (i : Item) : Offer :=
  ⟨i.name, i.price⟩

end Scrip.Wire
