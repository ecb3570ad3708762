import Scrip.Number.Rounding
import Scrip.Store.Request
import Scrip.Time.Reading
import Scrip.Time.Rfc3339

/-!
# Tables

All that is stored, as four tables of a relational database with its constraints. The names of
accounts and items are unique, balances are not negative, prices, amounts and quantities are
positive, and entries and holdings refer to accounts and items that exist.

* `Tables.answer`: what the tables answer to a request, and what they are afterwards. A statement
  that fails changes nothing and uses up no number.
-/

namespace Scrip

/-- A table: its name, its rows by number and the number given last. -/
structure Table (Row : Type) where
  name : String
  rows : List Row := []
  sequence : Nat := 0
  deriving DecidableEq, Repr

/-- One more row, of the next number. -/
def Table.insert {Row : Type} (t : Table Row) (row : Int → Row) : Row × Table Row :=
  let inserted := row (t.sequence + 1)
  (inserted, { t with rows := t.rows ++ [inserted], sequence := t.sequence + 1 })

/-- The rows that meet a condition changed, and whether there are any. -/
def Table.update {Row : Type} (t : Table Row) (where? : Row → Bool) (change : Row → Row) :
    Bool × Table Row :=
  (t.rows.any where?, { t with rows := t.rows.map fun r => if where? r then change r else r })

/-- The rows that meet a condition removed. -/
def Table.delete {Row : Type} (t : Table Row) (where? : Row → Bool) : Table Row :=
  { t with rows := t.rows.filter (!where? ·) }

/-- A row of the ledger. Kind and time are kept as text. -/
structure LedgerRow where
  id : EntryId
  source : AccountId
  destination : AccountId
  amount : Int
  kind : String
  item : Option ItemId
  createdAt : String
  deriving DecidableEq, Repr

namespace LedgerRow

/-- The row of an entry. -/
def ofEntry (e : Entry) : LedgerRow :=
  ⟨e.id, e.source, e.destination, e.amount, e.kind.name, e.item, e.createdAt.toStored⟩

/-- Whether an account is on either side. -/
def involves (r : LedgerRow) (account : AccountId) : Bool :=
  r.source == account || r.destination == account

/-- Newest first by the text of the time; equal texts by ascending number. -/
def isBefore (a b : LedgerRow) : Bool :=
  if b.createdAt < a.createdAt then true
  else if a.createdAt < b.createdAt then false
  else a.id ≤ b.id

/-- The entry of a row whose time is known. -/
def toEntry (r : LedgerRow) (t : Instant) : Except StoreError Entry :=
  match EntryKind.ofName? r.kind with
  | .ok kind => .ok ⟨r.id, r.source, r.destination, r.amount, kind, r.item, t⟩
  | .error e => .error (.corrupted e.message)

/-- The row with its time, when the text is one. -/
def withTime (r : LedgerRow) : Except StoreError (LedgerRow × Instant) :=
  match Instant.ofStored? r.createdAt with
  | some t => .ok (r, t)
  | none => .error .database

/-- The entries of rows. All times are read before any kind. -/
def readAll (rows : List LedgerRow) : Except StoreError (List Entry) := do
  let timed ← rows.mapM withTime
  timed.mapM fun (r, t) => r.toEntry t

end LedgerRow

/-- The four tables, as far as they have been made, and the migrations that have been applied. -/
structure Tables where
  users : Option (Table Account) := none
  items : Option (Table Item) := none
  ledger : Option (Table LedgerRow) := none
  holdings : Option (Table Holding) := none
  applied : Option (Table String) := none
  deriving DecidableEq, Repr

/-- What the tables are called in statements. -/
structure TableNames where
  users : String
  items : String
  ledger : String
  holdings : String
  applied : String

/-- The names of the tables. -/
def tableNames : TableNames :=
  ⟨"users", "merch_items", "transactions", "user_inventory", "seaql_migrations"⟩

/-- A sum as a column of whole numbers keeps it. Past 64 bits it is kept in floating point, and
such a value goes on being one until it fits again. -/
def storedSum (a b : Int) : Int :=
  let fits (n : Int) : Bool := -maxCoins - 1 ≤ n && n ≤ maxCoins
  if fits a && fits b && fits (a + b) then a + b
  else roundWhole (roundWhole a + roundWhole b)

/-- An account can be read only if its balance is a whole number of 64 bits. -/
def Account.readable (a : Account) : Except StoreError Account :=
  if -maxCoins - 1 ≤ a.coins ∧ a.coins ≤ maxCoins then .ok a else .error .database

namespace Tables

/-- Whether two names of tables are the same. ASCII letters may differ in case. -/
def sameName (a b : String) : Bool :=
  a.toLower == b.toLower

/-- A table that a statement needs under its name. -/
def need {Row : Type} (name : String) : Option (Table Row) → Except StoreError (Table Row)
  | some t => if sameName t.name name then .ok t else .error .database
  | none => .error .database

/-- The users, when their table has its name. -/
def usersTable (t : Tables) : Except StoreError (Table Account) :=
  need tableNames.users t.users

/-- The items, when their table has its name. -/
def itemsTable (t : Tables) : Except StoreError (Table Item) :=
  need tableNames.items t.items

/-- The ledger, when its table has its name. -/
def ledgerTable (t : Tables) : Except StoreError (Table LedgerRow) :=
  need tableNames.ledger t.ledger

/-- The holdings, when their table has its name. -/
def holdingsTable (t : Tables) : Except StoreError (Table Holding) :=
  need tableNames.holdings t.holdings

/-- Whether there is an account of a number, whatever its table is called. -/
def hasAccount (t : Tables) (id : AccountId) : Bool :=
  t.users.any fun users => users.rows.any (·.id == id)

/-- Whether there is an item of a number, whatever its table is called. -/
def hasItem (t : Tables) (id : ItemId) : Bool :=
  t.items.any fun items => items.rows.any (·.id == id)

/-- The account of the first row that meets a condition. -/
def findAccount (t : Tables) (where? : Account → Bool) : Except StoreError (Option Account) := do
  match (← t.usersTable).rows.find? where? with
  | some a => return some (← a.readable)
  | none => return none

/-- The refusal of a name that is taken in a column. -/
def taken (name column : String) : StoreError :=
  .conflict (name ++ ": UNIQUE constraint failed: " ++ column)

/-- One more account. -/
def insertAccount (t : Tables) (now : Instant) (account : NewAccount) :
    Except StoreError (Account × Tables) := do
  let users ← t.usersTable
  if account.coins < 0 then throw .database
  if users.rows.any (·.username == account.username) then
    throw (taken account.username "users.username")
  let (inserted, users) := users.insert (account.toAccount · now)
  return (inserted, { t with users })

/-- Adds to the balance of the accounts that meet a condition, and tells whether there are any.
No balance may become negative. -/
def addCoins (t : Tables) (where? : Account → Bool) (amount : Int) :
    Except StoreError (Bool × Tables) := do
  let users ← t.usersTable
  if users.rows.any fun a => where? a && storedSum a.coins amount < 0 then throw .database
  let (changed, users) :=
    users.update where? fun a => { a with coins := storedSum a.coins amount }
  return (changed, { t with users })

/-- One more item. -/
def insertItem (t : Tables) (now : Instant) (item : NewItem) :
    Except StoreError (Item × Tables) := do
  let items ← t.itemsTable
  if item.price ≤ 0 then throw .database
  if items.rows.any (·.name == item.name) then
    throw (taken item.name "merch_items.name")
  let (inserted, items) := items.insert (item.toItem · now)
  return (inserted, { t with items })

/-- Whether a holding is that of an account and an item. -/
def isHoldingOf (account : AccountId) (item : ItemId) (h : Holding) : Bool :=
  h.account == account && h.item == item

/-- The first of an item that an account comes by, unless there is a holding already. -/
def insertHolding (t : Tables) (now : Instant) (account : AccountId) (item : ItemId) :
    Except StoreError (Option Holding × Tables) := do
  let holdings ← t.holdingsTable
  if holdings.rows.any (isHoldingOf account item) then return (none, t)
  if !(t.hasAccount account && t.hasItem item) then throw .database
  let (inserted, holdings) := holdings.insert (⟨·, account, item, 1, now⟩)
  return (some inserted, { t with holdings })

/-- One more entry. -/
def append (t : Tables) (now : Instant) (entry : NewEntry) :
    Except StoreError (Entry × Tables) := do
  let ledger ← t.ledgerTable
  if entry.amount ≤ 0 then throw .database
  if !(t.hasAccount entry.source && t.hasAccount entry.destination && entry.item.all t.hasItem) then
    throw .database
  let inserted := entry.toEntry (ledger.sequence + 1) now
  let (_, ledger) := ledger.insert fun _ => .ofEntry inserted
  return (inserted, { t with ledger })

/-- The entries that involve an account, newest first. -/
def entriesFor (t : Tables) (account : AccountId) : Except StoreError (List Entry) := do
  let rows := (← t.ledgerTable).rows.filter (·.involves account)
  LedgerRow.readAll (rows.mergeSort LedgerRow.isBefore)

/-- An answer that leaves the tables as they are. -/
def unchanged {α : Type} (t : Tables) (answer : Except StoreError α) :
    Except StoreError (α × Tables) :=
  answer.map fun a => (a, t)

/-- What the tables answer to a request at a time, and what they are afterwards. -/
def answer (now : Instant) (t : Tables) : (r : Request) → Except StoreError (r.Answer × Tables)
  | .account id | .lockAccount id => t.unchanged (t.findAccount (·.id == id))
  | .accountByName username => t.unchanged (t.findAccount (·.username == username))
  | .insertAccount account => t.insertAccount now account
  | .debit id amount => t.addCoins (fun a => a.id == id && amount ≤ a.coins) (-amount)
  | .credit id amount => t.addCoins (fun a => a.id == id) amount
  | .item id => t.unchanged (t.itemsTable.map fun items => items.rows.find? (·.id == id))
  | .itemByName name =>
    t.unchanged (t.itemsTable.map fun items => items.rows.find? (·.name == name))
  | .items => t.unchanged (t.itemsTable.map (·.rows))
  | .insertItem item => t.insertItem now item
  | .holding account item =>
    t.unchanged (t.holdingsTable.map fun holdings => holdings.rows.find? (isHoldingOf account item))
  | .holdings account =>
    t.unchanged (t.holdingsTable.map fun holdings => holdings.rows.filter (·.account == account))
  | .incrementHolding account item =>
    t.holdingsTable.map fun holdings =>
      let (changed, holdings) :=
        holdings.update (isHoldingOf account item) fun h => { h with quantity := h.quantity + 1 }
      (changed, { t with holdings })
  | .insertHolding account item => t.insertHolding now account item
  | .append entry => t.append now entry
  | .entriesFor account => t.unchanged (t.entriesFor account)

end Tables

end Scrip
