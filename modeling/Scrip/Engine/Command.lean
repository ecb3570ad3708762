import Scrip.Engine.Catalog
import Scrip.Engine.Movement
import Scrip.Engine.SignIn
import Scrip.Engine.Statement

/-!
# Commands

Everything an engine can be told to do, as data.

* `Engine.perform`: the dialogue with the storage that carries a command out.
* `Command.isRead`: whether a command only looks.
-/

namespace Scrip

open Crypt (Salt)

/-- Something an engine can be told to do. -/
inductive Command where
  | register (username password : String) (salt : Salt)
  | authenticate (username password : String)
  | signIn (username password : String) (salt : Salt)
  | account (id : AccountId)
  | accountByName (username : String)
  | inventory (id : AccountId)
  | statement (id : AccountId)
  | history (id : AccountId)
  | catalog
  | addItem (name : String) (price : Int)
  | transfer (sender : AccountId) (recipient : String) (amount : Int) (deadline : Option Nat)
  | purchase (buyer : AccountId) (item : String) (deadline : Option Nat)

/-- What a command yields. -/
inductive Outcome where
  | account (account : Account)
  | inventory (owned : List OwnedItem)
  | statement (statement : Statement)
  | history (history : History)
  | catalog (items : List Item)
  | item (item : Item)
  | entry (entry : Entry)
  deriving DecidableEq, Repr

/-- Whether a command only looks. -/
def Command.isRead : Command → Bool
  | authenticate .. | account .. | accountByName .. | inventory .. | statement .. | history ..
  | catalog => true
  | _ => false

/-- The dialogue with the storage that carries a command out. -/
def Engine.perform (e : Engine) : Command → Exchange (Except Error Outcome)
  | .register username password salt => wrap .account (e.register username password salt)
  | .authenticate username password => wrap .account (e.authenticate username password)
  | .signIn username password salt => wrap .account (e.signIn username password salt)
  | .account id => wrap .account (e.account id)
  | .accountByName username => wrap .account (e.accountByName username)
  | .inventory id => wrap .inventory (e.inventory id)
  | .statement id => wrap .statement (e.statement id)
  | .history id => wrap .history (e.history id)
  | .catalog => wrap .catalog e.catalog
  | .addItem name price => wrap .item (e.addItem name price)
  | .transfer sender recipient amount deadline =>
    wrap .entry (e.transfer sender recipient amount deadline)
  | .purchase buyer item deadline => wrap .entry (e.purchase buyer item deadline)
where
  /-- The value of an operation as an outcome. -/
  wrap {α : Type} (f : α → Outcome) (x : Exchange (Except Error α)) :
      Exchange (Except Error Outcome) :=
    x >>= fun outcome => pure (outcome.map f)

end Scrip
