import Scrip.Engine.Basic
import Scrip.History

/-!
# Statements

What an account holder is shown: the balance, the items owned and the movements of coins.

* `ownedItems`: holdings with the names of their items; a holding whose item is unknown is left
  out.
* `Resolved`: the names that a history needs, each account asked for at most once.
* `Engine.statement`: balance, items and history from one unit.
-/

namespace Scrip

/-- All that an account holder is shown. -/
structure Statement where
  account : Account
  inventory : List OwnedItem
  history : History
  deriving DecidableEq, Repr

namespace Engine

open Work

/-- Holdings with the names of their items, without those whose item is unknown. -/
def ownedItems : List Holding → Work (List OwnedItem)
  | [] => pure []
  | holding :: holdings => do
    let item ← call (.item holding.item)
    let owned ← ownedItems holdings
    match item with
    | some item => pure (⟨item.name, holding.quantity⟩ :: owned)
    | none => pure owned

/-- What an account owns. -/
def loadInventory (id : AccountId) : Work (List OwnedItem) := do
  ownedItems (← call (.holdings id))

/-- The names found so far, and the accounts that were asked for. -/
structure Resolved where
  asked : List AccountId
  names : Names := []
  items : Names := []

namespace Resolved

/-- Asks for the name of an account, unless it was asked for already. -/
def account (r : Resolved) (id : AccountId) : Work Resolved :=
  if r.asked.contains id then pure r
  else do
    let asked := id :: r.asked
    match ← call (.account id) with
    | some account => pure { r with asked, names := (id, account.username) :: r.names }
    | none => pure { r with asked }

/-- Asks for the name of an item, unless it is known already. -/
def item (r : Resolved) (id : ItemId) : Work Resolved :=
  if (r.items.lookup id).isSome then pure r
  else do
    match ← call (.item id) with
    | some item => pure { r with items := (id, item.name) :: r.items }
    | none => pure r

/-- Asks for the names that an entry mentions. -/
def entry (r : Resolved) (e : Entry) : Work Resolved := do
  let r ← r.account e.source
  let r ← r.account e.destination
  match e.item with
  | some id => r.item id
  | none => pure r

end Resolved

/-- The history of an account over the ledger. -/
def loadHistory (owner : Account) : Work History := do
  let entries ← call (.entriesFor owner.id)
  let resolved ← entries.foldlM Resolved.entry { asked := [owner.id] }
  return History.ofEntries owner entries resolved.names resolved.items

/-- What an account owns. -/
def inventory (e : Engine) (id : AccountId) : Exchange (Except Error (List OwnedItem)) :=
  e.unit .inventory do
    let _ ← found (.noAccount id) (← call (.account id))
    loadInventory id

/-- The history of an account, newest first. -/
def history (e : Engine) (id : AccountId) : Exchange (Except Error History) :=
  e.unit .history do
    let owner ← found (.noAccount id) (← call (.account id))
    loadHistory owner

/-- Balance, items and history, all from the same state of the books. -/
def statement (e : Engine) (id : AccountId) : Exchange (Except Error Statement) :=
  e.unit .accountInfo do
    let account ← found (.noAccount id) (← call (.account id))
    let inventory ← loadInventory id
    let history ← loadHistory account
    return ⟨account, inventory, history⟩

end Engine

end Scrip
