import Scrip.Engine.Command
import Scrip.Http.Extraction
import Scrip.Http.Server
import Scrip.Store.Migration
import Scrip.Store.Scripted

/-!
# Sessions

Steps over one engine and one store, as taken by an operator: commands, single requests inside a
unit that is opened by hand, edits of tables, and requests to the server.

* `Session.step`: the answer to a step, and the session afterwards.
* `Session.view`: what the store holds, as far as it can be read.
-/

namespace Scrip

open Crypt (Salt)

/-- A store that a session can be held on. -/
inductive Store where
  | memory (s : Storage Books)
  | scripted (s : Scripted)
  | tables (s : Storage Tables)

namespace Store

/-- The time at which sessions begin. -/
def start : Instant := ⟨1780000000, 0⟩

/-- A store in memory with nothing in it. -/
def emptyMemory : Store :=
  memory { committed := {}, now := start }

/-- A store under a script with nothing in it. -/
def emptyScripted (script : List Fault) (ledger : Option (List Entry)) : Store :=
  scripted { script, ledger, books := { committed := {}, now := start } }

/-- A database with no table in it. -/
def emptyTables : Store :=
  tables { committed := {}, now := start }

/-- A database with all migrations applied. -/
def migratedTables : Store :=
  tables { committed := (Tables.migrateUp start none {}).2, now := start }

/-- The store as the surroundings of a dialogue. -/
def party : Dialogue.Party Call Call.Reply Store
  | c, memory s => (s.party Books.answer c).map id memory
  | c, scripted s => (s.party c).map id scripted
  | c, tables s => (s.party Tables.answer c).map id tables

/-- The store without its script. -/
def directParty : Dialogue.Party Call Call.Reply Store
  | c, scripted s => (s.books.party Books.answer c).map id fun books => scripted { s with books }
  | c, s => s.party c

/-- Whether a unit is open. -/
def isOpen : Store → Bool
  | memory s => s.working.isSome
  | scripted s => s.books.working.isSome
  | tables s => s.working.isSome

/-- The store with the open unit left. -/
def drop : Store → Store
  | memory s => memory s.drop
  | scripted s => scripted { s with books := s.books.drop }
  | tables s => tables s.drop

/-- The calls that a script has noted. -/
def calls : Store → List Call
  | scripted s => s.calls
  | _ => []

/-- The number of rows that an edit changes, when the store has tables. -/
def edit (e : Edit) : Store → Except StoreError Nat × Store
  | tables s =>
    match s.committed.edit e with
    | .ok (rows, committed) => (.ok rows, tables { s with committed })
    | .error failure => (.error failure, tables s)
  | s => (.error .database, s)

/-- Whether a command to the migrations succeeds, when the store has tables. -/
def migrate (c : MigrationCommand) : Store → Bool × Store
  | tables s =>
    let (succeeded, committed) := s.committed.migrate s.now c
    (succeeded, tables { s with committed })
  | s => (false, s)

end Store

/-- What a store holds, as far as it can be read: accounts, holdings and entries by number. -/
structure View where
  accounts : Option (List Account)
  holdings : Option (List Holding)
  ledger : Option (List LedgerRow)
  deriving DecidableEq, Repr

/-- What books hold. -/
def Books.view (b : Books) : View :=
  ⟨some b.accounts, some b.holdings, some (b.ledger.map .ofEntry)⟩

/-- What tables hold, as far as they can be read. -/
def Tables.view (t : Tables) : View where
  accounts := ((t.usersTable.bind fun users => users.rows.mapM Account.readable).toOption)
  holdings := (t.holdingsTable.map (·.rows)).toOption
  ledger := (t.ledgerTable.map (·.rows)).toOption

/-- What a store holds. -/
def Store.view : Store → View
  | memory s => s.committed.view
  | scripted s => s.books.committed.view
  | tables s => s.committed.view

/-- A session: the settings of the engine, and the store. -/
structure Session where
  engine : Engine := {}
  store : Store

/-- One step of a session. -/
inductive Step where
  | command (c : Command)
  | initialBalance
  /-- Commands given at the same time, which are carried out one after the other. -/
  | together (cs : List Command)
  | seedAccount (a : NewAccount)
  | seedItem (i : NewItem)
  | begin
  | commit
  | rollback
  | drop
  | request (r : Request)
  /-- An entry that has to be made before it can be appended. -/
  | append (e : Except Error NewEntry)
  | edit (e : Edit)
  | http (r : Http.Request) (salt : Salt)

/-- What a step is answered. -/
inductive Answer where
  | outcome (o : Except Error Outcome)
  | balance (coins : Int)
  | together (os : List (Except Error Outcome))
  | seeded (id : Except StoreError Int)
  | done (r : Except StoreError Unit)
  | reply (r : Request) (a : Except StoreError r.Answer)
  | refused (e : Error)
  | edited (e : Edit) (rows : Except StoreError Nat)
  | response (r : Http.Response)

namespace Session

/-- A dialogue with the store of a session. -/
def converse {α : Type} (s : Session) (d : Exchange α) : α × Session :=
  (d.run Store.party s.store).map id fun store => { s with store }

/-- The failure of a store behind a lapse. A step never waits for an open unit. -/
def storeErrorOf : Lapse → StoreError
  | .failed e => e
  | .expired => .database

/-- A unit of one request, past any script. -/
def seed (s : Session) (r : Request) (number : r.Answer → Int) : Answer × Session :=
  let unit : Exchange (Except StoreError Int) :=
    .ask (.begin none) fun _ => .ask (.within r) fun
      | .ok a => .ask .commit fun committed => .done (committed.map fun _ => number a)
      | .error lapse => .ask .rollback fun _ => .done (.error (storeErrorOf lapse))
  let (id, store) := unit.run Store.directParty s.store
  (.seeded id, { s with store })

/-- One call to the store by hand. -/
def callByHand (s : Session) (c : Call) (answer : c.Reply → Answer) : Answer × Session :=
  let (reply, store) := s.store.party c
  (answer reply, { s with store })

/-- A request inside the unit that was opened by hand. -/
def requestByHand (s : Session) (r : Request) : Answer × Session :=
  s.callByHand (.within r) fun
    | .ok a => .reply r (.ok a)
    | .error lapse => .reply r (.error (storeErrorOf lapse))

/-- The answer to a step, and the session afterwards. -/
def step (s : Session) : Step → Answer × Session
  | .command c => (s.converse (s.engine.perform c)).map .outcome id
  | .initialBalance => (.balance s.engine.initialBalance, s)
  | .together cs => (s.converse (cs.mapM s.engine.perform)).map .together id
  | .seedAccount a => s.seed (.insertAccount a) fun inserted => inserted.id
  | .seedItem i => s.seed (.insertItem i) fun inserted => inserted.id
  | .begin => s.callByHand (.begin none) fun reply => .done (reply.mapError storeErrorOf)
  | .commit => s.callByHand .commit .done
  | .rollback => s.callByHand .rollback fun reply => .done (reply.mapError storeErrorOf)
  | .drop => (.done (.ok ()), { s with store := s.store.drop })
  | .request r => s.requestByHand r
  | .append (.ok e) => s.requestByHand (.append e)
  | .append (.error e) => (.refused e, s)
  | .edit e => (s.store.edit e).map (.edited e) fun store => { s with store }
  | .http r salt => (s.converse (Http.respond .standard s.engine salt r)).map .response id

/-- What the store of a session holds. -/
def view (s : Session) : View :=
  s.store.view

end Session

end Scrip
