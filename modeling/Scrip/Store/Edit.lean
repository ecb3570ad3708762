import Scrip.Store.Tables

/-!
# Edits of tables

Changes made to the tables from outside of any unit.

* `Tables.edit`: the number of rows that an edit changed, and the tables afterwards. The
  constraints hold here too.
-/

namespace Scrip

/-- A change made to the tables from outside. -/
inductive Edit where
  | setCoins (id : AccountId) (coins : Int)
  | setKind (id : EntryId) (kind : String)
  | setCreated (id : EntryId) (createdAt : String)
  | setItem (id : EntryId) (item : Option ItemId)
  /-- Deletes an account that the ledger does not name, and its holdings. -/
  | deleteAccount (id : AccountId)
  /-- Gives a table another name. -/
  | rename (source target : String)
  deriving DecidableEq, Repr

/-- The indexes that belong to the ledger. -/
def ledgerIndexes : List String :=
  ["idx-transactions-from_user_id", "idx-transactions-to_user_id"]

/-- The index that belongs to the holdings. -/
def holdingIndexes : List String :=
  ["idx-user_inventory-user_id-item_id-unique"]

namespace Tables

/-- The names that the tables have now. -/
def names (t : Tables) : List String :=
  (t.users.map (·.name)).toList ++ (t.items.map (·.name)).toList ++
    (t.ledger.map (·.name)).toList ++ (t.holdings.map (·.name)).toList ++
    (t.applied.map (·.name)).toList

/-- The names of the indexes of the tables there are. -/
def indexes (t : Tables) : List String :=
  (if t.ledger.isSome then ledgerIndexes else []) ++
    (if t.holdings.isSome then holdingIndexes else [])

/-- A row of the ledger changed. -/
def editEntry (t : Tables) (id : EntryId) (change : LedgerRow → LedgerRow) :
    Except StoreError (Nat × Tables) := do
  let (changed, ledger) := (← t.ledgerTable).update (·.id == id) change
  return (changed.toNat, { t with ledger })

/-- A table with another name, if it has the one that is meant. -/
def renameTable {Row : Type} (source target : String) (t : Table Row) : Table Row :=
  if sameName t.name source then { t with name := target } else t

/-- Whether a table may be given a name: none has it yet, and it is not reserved. -/
def isFree (t : Tables) (name : String) : Bool :=
  !(t.names ++ t.indexes).any (sameName name) && !name.toLower.startsWith "sqlite_"

/-- The number of rows that an edit changed, and the tables afterwards. -/
def edit (t : Tables) : Edit → Except StoreError (Nat × Tables)
  | .setCoins id coins => do
    let users ← t.usersTable
    let (changed, users) := users.update (·.id == id) fun a => { a with coins }
    if changed && coins < 0 then throw .database
    return (changed.toNat, { t with users })
  | .setKind id kind => t.editEntry id fun r => { r with kind }
  | .setCreated id createdAt => t.editEntry id fun r => { r with createdAt }
  | .setItem id item => do
    let (changed, edited) ← t.editEntry id fun r => { r with item }
    if 0 < changed && !item.all t.hasItem then throw .database
    return (changed, edited)
  | .deleteAccount id => do
    let users ← t.usersTable
    if !users.rows.any (·.id == id) then return (0, t)
    if t.ledger.any fun ledger => ledger.rows.any (·.involves id) then throw .database
    return (1,
      { t with
        users := users.delete (·.id == id)
        holdings := t.holdings.map (·.delete (·.account == id)) })
  | .rename source target =>
    if t.names.any (sameName source) && t.isFree target then
      .ok (1,
        { users := t.users.map (renameTable source target)
          items := t.items.map (renameTable source target)
          ledger := t.ledger.map (renameTable source target)
          holdings := t.holdings.map (renameTable source target)
          applied := t.applied.map (renameTable source target) })
    else .error .database

end Tables

end Scrip
