import Scrip.Proofs.Ledger.Catalog
import Scrip.Proofs.Ledger.Inventory
import Scrip.Proofs.Ledger.Permanent
import Scrip.Proofs.Store.Agreement

/-!
# Migrations undone

Tables that commands were carried out on are taken back to nothing, and then made anew as they were
from the start, unless somebody bought one of the items on offer from the start: the ledger names
it, so that it cannot be deleted, and everything stays as it is (`migrations_undone`).

* `Books.OfferedFirst`: the items on offer from the start come first in the catalog;
* `Tables.migrateDown_tables`: what undoing all migrations does to books in tables.
-/

namespace Scrip

open Backend (Stands)

namespace Books

variable {b b' : Books}

/-- The items on offer from the start come first. -/
def OfferedFirst (now : Instant) (b : Books) : Prop :=
  (stocked now).items <+: b.items

/-- An item on offer from the start was bought. -/
def SoldFirst (b : Books) : Prop :=
  ∃ x ∈ b.ledger, ∃ id, x.item = some id ∧ 1 ≤ id ∧ id ≤ Migration.seedItems.length

/-- The items of the names that are on offer from the start are those with the first numbers. -/
theorem OfferedFirst.mem_ids {now : Instant} (h : b.OfferedFirst now) (hc : b.Catalogued)
    {id : ItemId} :
    id ∈ (b.items.filter fun i => (Migration.seedItems.map (·.name)).contains i.name).map (·.id) ↔
      1 ≤ id ∧ id ≤ Migration.seedItems.length := by
  obtain ⟨more, hmore⟩ := h
  have distinct := hc.distinct
  rw [← hmore, List.map_append] at distinct
  have names : (stocked now).items.map (·.name) = Migration.seedItems.map (·.name) := rfl
  have first : (stocked now).items.filter
      (fun i => (Migration.seedItems.map (·.name)).contains i.name) = (stocked now).items :=
    List.filter_eq_self.mpr fun i hi =>
      List.contains_iff_mem.mpr (names ▸ List.mem_map_of_mem hi)
  have others : more.filter
      (fun i => (Migration.seedItems.map (·.name)).contains i.name) = [] := by
    refine List.filter_eq_nil_iff.mpr fun i hi listed => ?_
    rw [List.contains_iff_mem, ← names] at listed
    exact (List.nodup_append.mp distinct).2.2 _ listed _ (List.mem_map_of_mem hi) rfl
  have ids : (stocked now).items.map (·.id) = idsTo Migration.seedItems.length := rfl
  rw [← hmore, List.filter_append, first, others, List.append_nil, ids, mem_idsTo]

/-- What is held was bought. -/
theorem Reconciled.soldFirst_of_held {grant : Int} (h : b.Reconciled grant) {x : Holding}
    (hx : x ∈ b.holdings) (first : 1 ≤ x.item ∧ x.item ≤ Migration.seedItems.length) :
    b.SoldFirst := by
  obtain ⟨y, hy, -, -, named⟩ := (h.tallies x.account x.item).exists_iff.mp ⟨x, hx, rfl, rfl⟩
  exact ⟨y, hy, x.item, named, first⟩

end Books

namespace Tables

variable {b : Books} {grant : Int} {now : Instant}

/-- The items on offer from the start are deleted, unless one of them was bought. -/
theorem deleteItems_tables (hr : b.Reconciled grant) (hc : b.Catalogued)
    (hf : b.OfferedFirst now) (applied : Option (Table String)) :
    let names := Migration.seedItems.map (·.name)
    (b.SoldFirst → (b.tables applied).deleteItems names = .error .database) ∧
      (¬ b.SoldFirst → (b.tables applied).deleteItems names =
        .ok (Books.tables { b with items := b.items.filter fun i => !names.contains i.name }
          applied)) := by
  intro names
  let doomed : List ItemId := (b.items.filter fun i => names.contains i.name).map (·.id)
  have mem {id : ItemId} : id ∈ doomed ↔ 1 ≤ id ∧ id ≤ Migration.seedItems.length := hf.mem_ids hc
  let named := (b.ledger.map LedgerRow.ofEntry).any fun r => r.item.any doomed.contains
  let held := b.holdings.any fun h => doomed.contains h.item
  have sold : named = true ↔ b.SoldFirst := by
    simp only [named, Books.SoldFirst, List.any_eq_true, List.mem_map, Option.any_eq_true,
      List.contains_iff_mem, mem]
    constructor
    · rintro ⟨_, ⟨x, hx, rfl⟩, id, hid, first⟩
      exact ⟨x, hx, id, hid, first⟩
    · rintro ⟨x, hx, id, hid, first⟩
      exact ⟨_, ⟨x, hx, rfl⟩, id, hid, first⟩
  have kept (h : held = true) : b.SoldFirst := by
    obtain ⟨x, hx, listed⟩ := List.any_eq_true.mp h
    exact hr.soldFirst_of_held hx (mem.mp (List.contains_iff_mem.mp listed))
  -- The ledger and the holdings are asked before the items are deleted.
  refine ⟨fun h => ?_, fun h => ?_⟩
  · have refused : (named || held) = true := Bool.or_eq_true_iff.mpr (.inl (sold.mpr h))
    rw [deleteItems, Books.itemsTable_tables, Books.ok_bind]
    exact if_pos refused
  · have allowed : ¬ (named || held) = true := fun refused =>
      h ((Bool.or_eq_true_iff.mp refused).elim sold.mp kept)
    rw [deleteItems, Books.itemsTable_tables, Books.ok_bind]
    exact if_neg allowed

/-- Tables with none but the one of migrations, and none of these applied. -/
def cleared : Tables :=
  { applied := some { name := tableNames.applied } }

/-- Undoing all migrations fails and changes nothing if an item on offer from the start was bought,
and drops all tables if not. -/
theorem migrateDown_tables (hr : b.Reconciled grant) (hc : b.Catalogued)
    (hf : b.OfferedFirst now) :
    let t := b.tables (some Migration.noted)
    (b.SoldFirst → t.migrateDown none = (false, t)) ∧
      (¬ b.SoldFirst → t.migrateDown none = (true, cleared)) := by
  intro t
  obtain ⟨refused, deleted⟩ := deleteItems_tables hr hc hf (some Migration.noted)
  have installed : t.install = t := if_pos (Books.sameName_self _)
  have down : t.migrateDown none = t.undoAll [.seed, .schema] := by
    rw [migrateDown, installed]
    rfl
  rw [down]
  refine ⟨fun h => ?_, fun h => ?_⟩
  · have stuck : Migration.seed.down t = .error .database := refused h
    rw [undoAll, stuck]
  · have seed : Migration.seed.down t = .ok _ := deleted h
    have schema (c : Books) (applied : Option (Table String)) :
        Migration.schema.down (c.tables applied) = .ok { applied } := by
      rw [Migration.down, dropTables, Books.holdingsTable_tables, Books.ledgerTable_tables,
        Books.itemsTable_tables, Books.usersTable_tables]
      rfl
    rw [undoAll, seed]
    show undoAll [.schema] (Books.tables _ _) = _
    rw [undoAll, schema]
    rfl

theorem migrateUp_cleared (now : Instant) :
    cleared.migrateUp now none = (true, Backend.tables.fresh now) := by
  have installed : cleared.install = install {} := if_pos (Books.sameName_self _)
  have same : cleared.migrateUp now none = migrateUp now none {} := by
    rw [migrateUp, installed]
    rfl
  rw [same, Backend.fresh_eq, migrateUp_empty]
  rfl

end Tables

theorem Effect.offeredFirst {e : Engine} {b b' : Books} {c : Command} {o : Outcome} {now : Instant}
    (he : Effect e b c o b') (h : b.OfferedFirst now) : b'.OfferedFirst now :=
  List.IsPrefix.trans h he.continues.items

/-- Books of which all that undoing needs to know holds. -/
structure Books.Undoable (grant : Int) (now : Instant) (b : Books) : Prop where
  reconciled : b.Reconciled grant
  catalogued : b.Catalogued
  offeredFirst : b.OfferedFirst now

theorem Books.undoable_stocked (grant : Int) (now : Instant) : (stocked now).Undoable grant now :=
  ⟨Backend.reconciled_stock grant now .tables, Backend.catalogued_stock now .tables,
    List.prefix_refl _⟩

theorem Effect.undoable {e : Engine} {b b' : Books} {c : Command} {o : Outcome} {now : Instant}
    (hm : e.initialBalance ≤ maxCoins) (he : Effect e b c o b')
    (h : b.Undoable e.initialBalance now) : b'.Undoable e.initialBalance now :=
  ⟨he.reconciled hm h.reconciled, he.catalogued h.catalogued, he.offeredFirst h.offeredFirst⟩

/-- Whatever is commanded of tables that were just migrated, undoing all migrations drops all
tables, unless an item on offer from the start was bought: then it fails and changes nothing.
Once they are dropped, applying the migrations makes the tables that there were from the start. -/
theorem migrations_undone {e : Engine} (hm : e.initialBalance ≤ maxCoins) (now : Instant)
    (cs : List (Command × (Nat → Instant))) :
    let start : Storage Tables := { committed := Backend.tables.fresh now, now }
    let t : Tables := (Backend.tables.performAll e cs start).2.committed
    ∃ b : Books, t = b.tables (some Migration.noted) ∧
      (b.SoldFirst → t.migrateDown none = (false, t)) ∧
      (¬ b.SoldFirst → t.migrateDown none = (true, Tables.cleared)) ∧
      ∀ later, Tables.cleared.migrateUp later none = (true, Backend.tables.fresh later) := by
  intro start t
  obtain ⟨b, stands, undoable⟩ := Backend.performAll_invariant hm
    (fun _ _ _ _ h he => he.undoable hm h) cs (k := .tables) (.fresh now .tables)
    (Books.undoable_stocked e.initialBalance now)
  have committed : t = b.tables (some Migration.noted) := stands.committed
  obtain ⟨refused, dropped⟩ := Tables.migrateDown_tables undoable.reconciled undoable.catalogued
    undoable.offeredFirst
  rw [committed]
  exact ⟨b, rfl, refused, dropped, Tables.migrateUp_cleared⟩

/-- Somebody is registered, and buys a cup. -/
def firstCup : List (Command × (Nat → Instant)) :=
  [(.register "ann" "secret" (.replicate 7), fun _ => default),
    (.purchase 1 "cup" none, fun _ => default)]

/-- The first cup that is bought. -/
theorem migrations_undone_cup :
    let start : Storage Tables := { committed := Backend.tables.fresh default, now := default }
    let t : Tables := (Backend.tables.performAll {} firstCup start).2.committed
    ({} : Engine).initialBalance ≤ maxCoins ∧
      ∃ b : Books, t = b.tables (some Migration.noted) ∧
        (b.SoldFirst → t.migrateDown none = (false, t)) ∧
        (¬ b.SoldFirst → t.migrateDown none = (true, Tables.cleared)) ∧
        ∀ later, Tables.cleared.migrateUp later none = (true, Backend.tables.fresh later) := by
  intro start t
  have hm : ({} : Engine).initialBalance ≤ maxCoins := by
    show defaultGrant ≤ maxCoins
    decide
  exact ⟨hm, migrations_undone hm default firstCup⟩

open Credential in
/-- The cup is one of the items on offer from the start. -/
theorem items_firstCup (memory : Storage Books) {b : Books}
    (stocked : memory = { committed := .stocked default, now := default })
    (h : (Backend.memory.performAll {} firstCup memory).2.committed = b) :
    b.ledger.map (·.item) = [some 2] := by
  have hname : normalizeUsername "ann" = .ok (canonicalUsername "ann") :=
    normalizeUsername_of_fits (by decide +kernel)
  have hpass : validatePassword "secret" = .ok () := if_neg (by decide)
  have registers : Engine.perform {} (.register "ann" "secret" (.replicate 7)) = _ :=
    congrArg (Engine.perform.wrap .account) (Engine.register_of_accepted
      (Engine.newAccount?_of_accepted {} (.replicate 7) hname hpass))
  -- Which name and which hash are kept does not matter.
  generalize canonicalUsername "ann" = name at registers
  generalize hashPassword (.replicate 7) "secret" = hash at registers
  subst h stocked
  simp only [firstCup, Backend.performAll, Backend.perform, registers]
  cbv

/-- Once a cup was bought, the migrations cannot be undone. -/
theorem migrateDown_refused :
    let start : Storage Tables := { committed := Backend.tables.fresh default, now := default }
    let t : Tables := (Backend.tables.performAll {} firstCup start).2.committed
    t.migrateDown none = (false, t) ∧ t ≠ Tables.cleared := by
  intro start t
  let memory : Storage Books := { committed := .stocked default, now := default }
  have hm : ({} : Engine).initialBalance ≤ maxCoins := by
    show defaultGrant ≤ maxCoins
    decide
  have inMemory : Stands (some Migration.noted) .memory memory ⟨.stocked default, none⟩ :=
    .start (k := .memory) (Backend.storable_stock default .tables) default
  have inTables : Stands (some Migration.noted) .tables start ⟨.stocked default, none⟩ :=
    .fresh default .tables
  obtain ⟨b, stands, undoable⟩ := Backend.performAll_invariant hm
    (fun _ _ _ _ h he => he.undoable hm h) firstCup inMemory
    (Books.undoable_stocked _ default)
  obtain ⟨-, c, stands', stands''⟩ := performAll_alike hm firstCup inMemory inTables
  have same : b = c := stands.committed.symm.trans stands'.committed
  have committed : t = b.tables (some Migration.noted) := same ▸ stands''.committed
  have kept : (Backend.memory.performAll {} firstCup memory).2.committed = b := stands.committed
  have items : b.ledger.map (·.item) = [some 2] := items_firstCup memory rfl kept
  obtain ⟨x, hx, hitem⟩ := List.mem_map.mp (items ▸ List.mem_singleton_self (some (2 : ItemId)))
  have sold : b.SoldFirst := ⟨x, hx, 2, hitem, by decide, by decide⟩
  rw [committed]
  exact ⟨(Tables.migrateDown_tables undoable.reconciled undoable.catalogued
    undoable.offeredFirst).1 sold, nofun⟩

end Scrip
