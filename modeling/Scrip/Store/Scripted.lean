import Scrip.Store.Books
import Scrip.Store.Storage

/-!
# Scripted storages

A storage of books that notes every call and fails where a script says so.

* `Call.render`: a call as it is noted.
* `Scripted.party`: the surroundings of a dialogue. A call that the script lets fail is noted, but
  does not reach the books.
-/

namespace Scrip

/-- Values in parentheses after the name of a call. -/
def renderCall (name : String) (arguments : List String) : String :=
  name ++ "(" ++ ",".intercalate arguments ++ ")"

/-- The name of a request. -/
def Request.name : Request → String
  | account _ => "account"
  | accountByName _ => "account_by_name"
  | lockAccount _ => "lock_account"
  | insertAccount _ => "insert_account"
  | debit _ _ => "debit"
  | credit _ _ => "credit"
  | item _ => "item"
  | itemByName _ => "item_by_name"
  | items => "items"
  | insertItem _ => "insert_item"
  | holding _ _ => "holding"
  | holdings _ => "holdings"
  | incrementHolding _ _ => "increment_holding"
  | insertHolding _ _ => "insert_holding"
  | append _ => "append"
  | entriesFor _ => "entries_for"

/-- What a request names. A password hash is not among it. -/
def Request.arguments : Request → List String
  | account id | lockAccount id | item id => [toString id]
  | accountByName name | itemByName name => [name]
  | insertAccount a => [a.username, toString a.coins]
  | debit id amount | credit id amount => [toString id, toString amount]
  | items => []
  | insertItem i => [i.name, toString i.price]
  | holding owner i | incrementHolding owner i | insertHolding owner i =>
    [toString owner, toString i]
  | append e =>
    [toString e.source, toString e.destination, toString e.amount, e.kind.name,
      e.item.elim "-" toString]
  | holdings owner | entriesFor owner => [toString owner]

namespace Call

/-- The name of a call. -/
def name : Call → String
  | begin _ => "begin"
  | within r => r.name
  | commit => "commit"
  | rollback => "rollback"

/-- A call as it is noted. -/
def render : Call → String
  | within r => renderCall r.name r.arguments
  | call => renderCall call.name []

/-- A failure of the store as what comes back for a call. -/
def fail (e : StoreError) : (c : Call) → c.Reply
  | begin _ => .error (.failed e)
  | within _ => .error (.failed e)
  | commit => .error e
  | rollback => .error (.failed e)

/-- What comes back for a call that finds nothing. A call that cannot do so fails. -/
def findNothing : (c : Call) → c.Reply
  | within r =>
    match r.nothing? with
    | some answer => .ok answer
    | none => .error (.failed .database)
  | call => call.fail .database

end Call

/-- What a script makes of a call. -/
inductive Turn where
  | fails (e : StoreError)
  /-- The call finds or changes nothing. -/
  | findsNothing
  deriving DecidableEq, Repr

/-- A line of a script: the call of some name and occurrence, counted from one. -/
structure Fault where
  call : String
  occurrence : Nat
  turn : Turn
  deriving DecidableEq, Repr

/-- A storage of books under a script. -/
structure Scripted where
  script : List Fault := []
  /-- What every request for entries is answered, when that is fixed. -/
  ledger : Option (List Entry) := none
  /-- The calls so far. -/
  calls : List Call := []
  books : Storage Books

namespace Scripted

/-- What the script makes of the last call. -/
def turn? (s : Scripted) (c : Call) : Option Turn :=
  let occurrence := s.calls.countP (·.name == c.name)
  (s.script.find? fun f => f.call == c.name && f.occurrence == occurrence).map (·.turn)

/-- A unit that did not end as it should is left. -/
def leave (s : Scripted) : Call → Scripted
  | .commit | .rollback => { s with books := s.books.drop }
  | _ => s

/-- A call that reaches the books, or the fixed ledger. -/
def pass (s : Scripted) : (c : Call) → c.Reply × Scripted
  | .within (.entriesFor account) =>
    match s.ledger with
    | some entries => (.ok entries, s)
    | none =>
      let (reply, books) := s.books.party Books.answer (.within (.entriesFor account))
      (reply, { s with books })
  | c =>
    let (reply, books) := s.books.party Books.answer c
    (reply, { s with books })

/-- The scripted storage as the surroundings of a dialogue. -/
def party : Dialogue.Party Call Call.Reply Scripted := fun c s =>
  let s := { s with calls := s.calls ++ [c] }
  match s.turn? c with
  | some (.fails e) => (c.fail e, s.leave c)
  | some .findsNothing => (c.findNothing, s.leave c)
  | none => s.pass c

end Scripted

end Scrip
