import Scrip.Credential.Username
import Scrip.Engine.Basic

/-!
# Movements of coins

Coins go to another account or are spent on an item.

* `Engine.transfer`: both accounts are locked, the one of the lower number first, before the
  balance is looked at.
* `Engine.purchase`: the buyer is locked, pays the price and comes by one item more.
-/

namespace Scrip.Engine

open Credential Work

/-- Reads an account and locks it. -/
def lock (id : AccountId) : Work Account := do
  found (.noAccount id) (← call (.lockAccount id))

/-- Locks two accounts, the lower number first, and gives them in the order asked for. -/
def lockPair (a b : AccountId) : Work (Account × Account) := do
  let low ← lock (min a b)
  let high ← lock (max a b)
  return if low.id = a then (low, high) else (high, low)

/-- The balance does not cover a transfer. -/
def tooFewCoins (sender : Account) (amount : Int) : Error :=
  .insufficientFunds (sender.username ++ " has " ++ toString sender.coins ++ " coins, " ++
    toString amount ++ " needed")

/-- The balance cannot grow by so much. -/
def tooManyCoins (recipient : Account) (amount : Int) : Error :=
  .invalidAmount ("balance of " ++ recipient.username ++ " cannot hold " ++ toString amount ++
    " more coins")

/-- Moves coins from an account to the one of a name. -/
def moveCoins (sender : AccountId) (recipient : String) (amount : Int) : Work Entry := do
  let sender ← found (.noAccount sender) (← call (.account sender))
  let recipient ← found (.accountNotFound recipient) (← call (.accountByName recipient))
  let entry ← checked (NewEntry.transfer? sender.id recipient.id amount)
  let (sender, recipient) ← lockPair sender.id recipient.id
  if !sender.canAfford amount then
    refuse (tooFewCoins sender amount)
  if maxCoins < recipient.coins + amount then
    refuse (tooManyCoins recipient amount)
  if !(← call (.debit sender.id amount)) then
    refuse (tooFewCoins sender amount)
  if !(← call (.credit recipient.id amount)) then
    refuse (.accountNotFound recipient.username)
  call (.append entry)

/-- A transfer of coins to the account of a name, in whatever spelling. -/
def transfer (e : Engine) (sender : AccountId) (recipient : String) (amount : Int)
    (deadline : Option Nat) : Exchange (Except Error Entry) :=
  if amount ≤ 0 then .done (.error (.amountNotPositive amount))
  else e.unit .transfer (moveCoins sender (canonicalUsername recipient) amount) deadline

/-- The balance does not cover a price. -/
def tooDear (buyer : Account) (item : Item) : Error :=
  .insufficientFunds (buyer.username ++ " has " ++ toString buyer.coins ++ " coins, " ++
    item.name ++ " costs " ++ toString item.price)

/-- A holding that could neither be made nor be raised. -/
def holdingFailure (account : AccountId) (item : ItemId) : StoreError :=
  .conflict ("inventory record (" ++ toString account ++ ", " ++ toString item ++
    ") could not be written")

/-- Adds one to the holding of an account and an item. Without a holding one is made; if that is
refused because somebody made it meanwhile, it is raised after all. -/
def takeOne (account : AccountId) (item : ItemId) : Work Unit := do
  if (← call (.holding account item)).isNone then
    if (← call (.insertHolding account item)).isSome then
      return
  if !(← call (.incrementHolding account item)) then
    throw (.store (holdingFailure account item))

/-- Spends the price of an item. -/
def buy (buyer : AccountId) (item : String) : Work Entry := do
  let item ← found (.itemNotFound item) (← call (.itemByName item))
  let buyer ← lock buyer
  let entry ← checked (NewEntry.purchase? buyer.id item.price item.id)
  if !buyer.canAfford item.price then
    refuse (tooDear buyer item)
  if !(← call (.debit buyer.id item.price)) then
    refuse (tooDear buyer item)
  takeOne buyer.id item.id
  call (.append entry)

/-- A purchase of one item of a name, which has to be spelled exactly. -/
def purchase (e : Engine) (buyer : AccountId) (item : String) (deadline : Option Nat) :
    Exchange (Except Error Entry) :=
  e.unit .purchase (buy buyer item) deadline

end Scrip.Engine
