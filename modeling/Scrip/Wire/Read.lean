import Scrip.Json.Shape
import Scrip.Wire.Message

/-!
# Reading messages

Messages from JSON. Members that a message does not have are passed over.

* `SignIn.read`, `SendCoins.read` and the like: one message from the front of a text.
* `ofText`: a message that is all of a text.
-/

namespace Scrip

open Json

/-- A shape of two members, both required. -/
def Json.Shape.pair {α β γ : Type} (first : String) (r : Reader α) (second : String) (s : Reader β)
    (make : α → β → γ) : Shape (Option α × Option β) γ where
  fields := [
    .required first (·.1) (fun d a => (some a, d.2)) r,
    .required second (·.2) (fun d b => (d.1, some b)) s]
  empty := (none, none)
  finish
    | (some a, some b) => some (make a b)
    | _ => none

namespace Wire

/-- A name and password. -/
def SignIn.read : Reader SignIn :=
  readFields (.pair "username" readString "password" readString .mk)

/-- The account that signed in. -/
def SignedIn.read : Reader SignedIn :=
  readFields (.pair "username" readString "coins" readInteger .mk)

/-- An owned kind of item. -/
def Owned.read : Reader Owned :=
  readFields (.pair "type" readString "quantity" readInteger .mk)

/-- Coins that came in. -/
def Received.read : Reader Received :=
  readFields (.pair "fromUser" readString "amount" readInteger .mk)

/-- What has been read of coins that went out. -/
structure SentDraft where
  toUser : Option String := none
  amount : Option Int := none
  item : Option (Option String) := none

/-- The shape of coins that went out. The item may be absent. -/
def Sent.shape : Shape SentDraft Sent where
  fields := [
    .required "toUser" (·.toUser) (fun d toUser => { d with toUser := toUser }) readString,
    .required "amount" (·.amount) (fun d amount => { d with amount := amount }) readInteger,
    { Field.required "item" (·.item) (fun (d : SentDraft) item => { d with item := some item })
        (readOption readString) with mayLack := true }]
  empty := {}
  finish d := do
    let toUser ← d.toUser
    let amount ← d.amount
    return ⟨toUser, amount, d.item.getD none⟩

/-- Coins that went out. -/
def Sent.read : Reader Sent :=
  readFields Sent.shape

/-- Coins that came in and went out. -/
def CoinHistory.read : Reader CoinHistory :=
  readFields (.pair "received" (readList Received.read) "sent" (readList Sent.read) .mk)

/-- What has been read of what an account holder is told. -/
structure InfoDraft where
  coins : Option Int := none
  inventory : Option (List Owned) := none
  coinHistory : Option CoinHistory := none

/-- The shape of what an account holder is told. -/
def Info.shape : Shape InfoDraft Info where
  fields := [
    .required "coins" (·.coins) (fun d coins => { d with coins := coins }) readInteger,
    .required "inventory" (·.inventory) (fun d inventory => { d with inventory := inventory })
      (readList Owned.read),
    .required "coinHistory" (·.coinHistory) (fun d history => { d with coinHistory := history })
      CoinHistory.read]
  empty := {}
  finish d := do
    let coins ← d.coins
    let inventory ← d.inventory
    let coinHistory ← d.coinHistory
    return ⟨coins, inventory, coinHistory⟩

/-- All that an account holder is told. -/
def Info.read : Reader Info :=
  readFields Info.shape

/-- A wish to send coins. -/
def SendCoins.read : Reader SendCoins :=
  readFields (.pair "toUser" readString "amount" readInteger .mk)

/-- An item on offer. -/
def Offer.read : Reader Offer :=
  readFields (.pair "name" readString "price" readInteger .mk)

/-- The shape of a refusal. -/
def Refusal.shape : Shape (Option String) Refusal where
  fields := [.required "errors" id (fun _ errors => some errors) readString]
  empty := none
  finish d := d.map .mk

/-- Why a request was refused. -/
def Refusal.read : Reader Refusal :=
  readFields Refusal.shape

/-- The kind that a string names. -/
def kindOf (word : String) (rest : List Char) : Except Flaw (EntryKind × List Char) :=
  match EntryKind.ofName? word with
  | .ok kind => .ok (kind, rest)
  | .error _ => .error .mismatch

/-- The absent value. -/
def readNull (cs : List Char) : Except Flaw (List Char) :=
  match skipSpace cs with
  | [] => .error .cutOff
  | 'n' :: cs => (word ['u', 'l', 'l'] cs).map (·.2)
  | cs => .error (otherKind cs)

/-- A kind of entry: its name, or an object whose one key is the name and has no value. -/
def readKind (cs : List Char) : Except Flaw (EntryKind × List Char) :=
  match skipSpace cs with
  | [] => .error .cutOff
  | '"' :: cs => do
    let (word, rest) ← stringBody cs
    kindOf word rest
  | '{' :: cs => do
    let (word, rest) ← readString cs
    let (kind, rest) ← kindOf word rest
    let rest ← colon rest >>= readNull
    match skipSpace rest with
    | [] => .error .cutOff
    | '}' :: rest => .ok (kind, rest)
    | _ => .error .malformed
  | _ => .error .malformed

/-- A message that is all of a text. -/
def ofText {α : Type} (r : Reader α) (text : String) : Except Flaw α :=
  readAll r text.toList

end Wire

end Scrip
