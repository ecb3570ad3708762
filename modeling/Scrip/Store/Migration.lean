import Scrip.Store.Edit

/-!
# Migrations

Changes of the set of tables that are made in order, noted when made, and undone in the opposite
order.

* `Migration.all`: the tables, and then the ten items on offer from the start.
* `Tables.migrateUp`, `Tables.migrateDown`: at most a number of migrations applied or undone. A
  migration that fails changes nothing and stops those after it.
* `Tables.fresh`: everything made anew.
-/

namespace Scrip

/-- One change of the set of tables. -/
inductive Migration where
  | schema
  | seed
  deriving DecidableEq, Repr

namespace Migration

/-- The migrations in the order in which they are applied. -/
def all : List Migration := [schema, seed]

/-- The name under which a migration is noted. -/
def name : Migration → String
  | schema => "m20260101_000000_init"
  | seed => "m20260101_000001_seed_merch"

/-- The items on offer from the start. -/
def seedItems : List NewItem := [
  ⟨"t-shirt", 80⟩,
  ⟨"cup", 20⟩,
  ⟨"book", 50⟩,
  ⟨"pen", 10⟩,
  ⟨"powerbank", 200⟩,
  ⟨"hoody", 300⟩,
  ⟨"umbrella", 200⟩,
  ⟨"socks", 10⟩,
  ⟨"wallet", 50⟩,
  ⟨"pink-hoody", 500⟩]

end Migration

namespace Tables

/-- The four tables made, as far as they are missing. There must be none of their indexes yet. -/
def createTables (t : Tables) : Except StoreError Tables :=
  if t.indexes.isEmpty then
    .ok { t with
      users := t.users <|> some { name := tableNames.users }
      items := t.items <|> some { name := tableNames.items }
      ledger := some { name := tableNames.ledger }
      holdings := some { name := tableNames.holdings } }
  else .error .database

/-- The four tables dropped. Each must be there under its name. -/
def dropTables (t : Tables) : Except StoreError Tables := do
  let _ ← t.holdingsTable
  let _ ← t.ledgerTable
  let _ ← t.itemsTable
  let _ ← t.usersTable
  return { t with users := none, items := none, ledger := none, holdings := none }

/-- Items added one after the other. -/
def insertItems (now : Instant) : List NewItem → Tables → Except StoreError Tables
  | [], t => .ok t
  | item :: items, t => do
    let (_, t) ← t.insertItem now item
    insertItems now items t

/-- Items of some names deleted. None of them may be held or named in the ledger. -/
def deleteItems (names : List String) (t : Tables) : Except StoreError Tables := do
  let items ← t.itemsTable
  let doomed := (items.rows.filter fun i => names.contains i.name).map (·.id)
  let named := t.ledger.any fun ledger => ledger.rows.any fun r => r.item.any doomed.contains
  let held := t.holdings.any fun holdings => holdings.rows.any fun h => doomed.contains h.item
  if named || held then throw .database
  return { t with items := items.delete fun i => names.contains i.name }

end Tables

namespace Migration

/-- Makes the change. -/
def up (now : Instant) : Migration → Tables → Except StoreError Tables
  | schema, t => t.createTables
  | seed, t => t.insertItems now seedItems

/-- Takes the change back. -/
def down : Migration → Tables → Except StoreError Tables
  | schema, t => t.dropTables
  | seed, t => t.deleteItems (seedItems.map (·.name))

end Migration

namespace Tables

/-- The tables with one in which migrations are noted. -/
def install (t : Tables) : Tables :=
  match t.applied with
  | some applied =>
    if sameName applied.name tableNames.applied then t
    else { t with applied := some { name := tableNames.applied } }
  | none => { t with applied := some { name := tableNames.applied } }

/-- The names of the migrations that were applied, in order. -/
def appliedNames (t : Tables) : List String :=
  (t.applied.map (·.rows)).getD []

/-- Notes which migrations are applied. -/
def note (t : Tables) (names : List String) : Tables :=
  { t with applied := t.applied.map fun applied => { applied with rows := names } }

/-- Applies migrations until one fails: the tables after the last that did not, and whether all
succeeded. -/
def applyAll (now : Instant) : List Migration → Tables → Bool × Tables
  | [], t => (true, t)
  | m :: ms, t =>
    match m.up now t with
    | .ok changed => applyAll now ms (changed.note (t.appliedNames ++ [m.name]))
    | .error _ => (false, t)

/-- Undoes migrations until one fails: the tables after the last that did not, and whether all
succeeded. -/
def undoAll : List Migration → Tables → Bool × Tables
  | [], t => (true, t)
  | m :: ms, t =>
    match m.down t with
    | .ok changed => undoAll ms (changed.note (t.appliedNames.filter (· != m.name)))
    | .error _ => (false, t)

/-- At most a number of them, when there is a limit. -/
def atMost {α : Type} (limit : Option Nat) (xs : List α) : List α :=
  match limit with
  | some n => xs.take n
  | none => xs

/-- Applies the migrations that were not applied yet, at most a number of them. -/
def migrateUp (now : Instant) (limit : Option Nat) (t : Tables) : Bool × Tables :=
  let t := t.install
  let pending := Migration.all.filter fun m => !t.appliedNames.contains m.name
  t.applyAll now (atMost limit pending)

/-- Undoes the migrations that were applied, at most a number of them and the last one first. -/
def migrateDown (limit : Option Nat) (t : Tables) : Bool × Tables :=
  let t := t.install
  let undoable := Migration.all.reverse.filter fun m => t.appliedNames.contains m.name
  t.undoAll (atMost limit undoable)

/-- Undoes all migrations and applies them again. -/
def refresh (now : Instant) (t : Tables) : Bool × Tables :=
  match t.migrateDown none with
  | (true, t) => t.migrateUp now none
  | failed => failed

/-- Everything made anew, whatever there was. -/
def fresh (now : Instant) : Bool × Tables :=
  migrateUp now none {}

end Tables

/-- What can be told to the migrations. -/
inductive MigrationCommand where
  | up (limit : Option Nat)
  | down (limit : Option Nat)
  | fresh
  | refresh
  | reset
  | status
  deriving DecidableEq, Repr

/-- Whether the command succeeds, and the tables afterwards. -/
def Tables.migrate (now : Instant) (t : Tables) : MigrationCommand → Bool × Tables
  | .up limit => t.migrateUp now limit
  | .down limit => t.migrateDown limit
  | .fresh => fresh now
  | .refresh => t.refresh now
  | .reset => t.migrateDown none
  | .status => (true, t.install)

end Scrip
