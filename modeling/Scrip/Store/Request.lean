import Scrip.Holding
import Scrip.Ledger

/-!
# Requests to a store

What can be asked of a store inside a unit of work, and how a store fails.

* `Request.Answer`: what a request is answered with when the store does not fail.
* `Request.isWrite`: whether a request may change what is stored.
* `Request.nothing?`: the answer that finds or changes nothing, where there is one.
-/

namespace Scrip

/-- How a store fails. -/
inductive StoreError where
  | database
  /-- A name that has to be unique is taken. -/
  | conflict (detail : String)
  /-- A record that cannot be understood. -/
  | corrupted (detail : String)
  deriving DecidableEq, Repr

/-- The text shown for a failure, where the store itself gives one. -/
def StoreError.message? : StoreError → Option String
  | database => none
  | conflict detail => some ("unique constraint violated: " ++ detail)
  | corrupted detail => some ("corrupted record: " ++ detail)

/-- Something asked of a store inside a unit of work. -/
inductive Request where
  | account (id : AccountId)
  | accountByName (username : String)
  /-- Reads an account and keeps others from it until the unit ends. -/
  | lockAccount (id : AccountId)
  /-- Refused with a conflict when the username is taken. -/
  | insertAccount (account : NewAccount)
  /-- Takes an amount if the balance covers it, and tells whether it did. -/
  | debit (id : AccountId) (amount : Int)
  /-- Adds an amount, and tells whether there is such an account. -/
  | credit (id : AccountId) (amount : Int)
  | item (id : ItemId)
  | itemByName (name : String)
  /-- All items by id. -/
  | items
  /-- Refused with a conflict when the name is taken. -/
  | insertItem (item : NewItem)
  | holding (account : AccountId) (item : ItemId)
  /-- The holdings of an account by id. -/
  | holdings (account : AccountId)
  /-- Adds one to a holding, and tells whether there is one. -/
  | incrementHolding (account : AccountId) (item : ItemId)
  /-- Makes a holding of one, unless there is one already. -/
  | insertHolding (account : AccountId) (item : ItemId)
  | append (entry : NewEntry)
  /-- The entries that involve an account, newest first and equal times by id. -/
  | entriesFor (account : AccountId)
  deriving DecidableEq, Repr

namespace Request

/-- What a request is answered with. -/
@[reducible] def Answer : Request → Type
  | account _ | accountByName _ | lockAccount _ => Option Account
  | insertAccount _ => Account
  | debit _ _ | credit _ _ | incrementHolding _ _ => Bool
  | item _ | itemByName _ => Option Item
  | items => List Item
  | insertItem _ => Item
  | holding _ _ | insertHolding _ _ => Option Holding
  | holdings _ => List Holding
  | append _ => Entry
  | entriesFor _ => List Entry

/-- Whether a request may change what is stored. -/
def isWrite : Request → Bool
  | insertAccount _ | debit _ _ | credit _ _ | insertItem _ | incrementHolding _ _
  | insertHolding _ _ | append _ => true
  | _ => false

/-- The answer that finds or changes nothing, where there is one. -/
def nothing? : (r : Request) → Option r.Answer
  | account _ | accountByName _ | lockAccount _ => some none
  | item _ | itemByName _ => some none
  | holding _ _ | insertHolding _ _ => some none
  | debit _ _ | credit _ _ | incrementHolding _ _ => some false
  | items | holdings _ | entriesFor _ => some []
  | insertAccount _ | insertItem _ | append _ => none

end Request

end Scrip
