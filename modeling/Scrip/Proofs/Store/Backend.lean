import Scrip.Proofs.Framework.Complies
import Scrip.Store.Migration
import Scrip.Store.Storage

/-!
# The two stores

Books in memory and books in tables as one (`Backend`): what answers requests, where books
stand, and how a store begins. The clock of a computer knows no leap seconds (`Instant.shown`).

* `Storage.clocked`: a storage with a clock that shows what it likes;
* `Backend.fresh_eq`: a store begins with nothing, or with the tables and the items on offer;
* `Backend.keeper_answers`: books that are storable are answered alike wherever they are kept.
-/

namespace Scrip

/-- What a clock shows of an instant that may lie within a leap second. -/
def Instant.shown (t : Instant) : Instant :=
  { t with nanoseconds := t.nanoseconds % 1000000000 }

theorem Instant.ordinary_shown (t : Instant) : t.shown.Ordinary :=
  Nat.mod_lt _ (by decide)

/-- Whether a request makes a record with a time. -/
def Request.isDated : Request → Bool
  | insertAccount _ | insertItem _ | insertHolding _ _ | append _ => true
  | _ => false

/-- Whether a call reads the clock. -/
def Call.isDated : Call → Bool
  | within r => r.isDated
  | _ => false

/-- A storage with a clock of which only the readings count: the next one is that of a number,
and it is taken when a record is made. -/
def Storage.clocked {σ : Type} (keeper : Keeper σ) (clock : Nat → Instant) :
    Dialogue.Party Call Call.Reply (Storage σ × Nat) := fun c t =>
  let answered := { t.1 with now := clock t.2 }.party keeper c
  (answered.1, answered.2, if c.isDated then t.2 + 1 else t.2)

/-- Where books are kept. -/
inductive Backend where
  | memory
  | tables
  deriving DecidableEq, Repr

namespace Backend

/-- What a store consists of. -/
def State : Backend → Type
  | memory => Books
  | tables => Tables

/-- What answers requests, by the clock of a computer. -/
def keeper : (k : Backend) → Keeper k.State
  | memory => fun now => Books.answer now.shown
  | tables => fun now => Tables.answer now.shown

/-- Books as a store keeps them, beside a table of migrations if it has one. -/
def hold (applied : Option (Table String)) : (k : Backend) → Books → k.State
  | memory, b => b
  | tables, b => b.tables applied

/-- A store in which nothing was done: without any records, or with all migrations applied. -/
def fresh (now : Instant) : (k : Backend) → k.State
  | memory => ({} : Books)
  | tables => (Tables.migrateUp now none {}).2

end Backend

/-- The table of migrations when all are applied. -/
def Migration.noted : Table String :=
  { name := tableNames.applied, rows := all.map name }

/-- Books with the items on offer from the start. -/
def Books.stocked (now : Instant) : Books :=
  Migration.seedItems.foldl (fun b item => (b.addItem now item).2) {}

namespace Tables

/-- Items of new names and positive prices are added one after the other. -/
theorem insertItems_tables (now : Instant) (applied : Option (Table String)) {items : List NewItem}
    {b : Books} (hprice : ∀ i ∈ items, 0 < i.price)
    (hname : (b.items.map (·.name) ++ items.map (·.name)).Nodup) :
    insertItems now items (b.tables applied) =
      .ok ((items.foldl (fun b item => (b.addItem now item).2) b).tables applied) := by
  induction items generalizing b with
  | nil => rfl
  | cons item items ih =>
    rw [List.forall_mem_cons] at hprice
    have free : ¬ (b.items.any fun i => i.name == item.name) = true := by
      simp only [List.any_eq_true, beq_iff_eq, not_exists, not_and]
      intro i hi he
      exact (List.nodup_append.mp hname).2.2 _ (List.mem_map_of_mem hi) _
        (List.mem_cons_self ..) he
    have inserted : (b.tables applied).insertItem now item =
        .ok ((b.addItem now item).1, (b.addItem now item).2.tables applied) := by
      simp only [insertItem, Books.itemsTable_tables, Books.ok_bind, if_neg free,
        if_neg (Int.not_le.mpr hprice.1)]
      rfl
    rw [insertItems, inserted]
    refine ih hprice.2 ?_
    simpa [Books.addItem, NewItem.toItem] using hname

theorem unchanged_eq_ok {t t' : Tables} {α : Type} {x : Except StoreError α} {a : α}
    (h : t.unchanged x = .ok (a, t')) : t' = t := by
  cases x with
  | error e => cases h
  | ok a => exact (congrArg Prod.snd (Except.ok.inj h)).symm

theorem migrateUp_empty (now : Instant) :
    migrateUp now none {} = (true, (Books.stocked now).tables (some Migration.noted)) := by
  let begun : Tables := { applied := some { name := tableNames.applied } }
  have hstart : migrateUp now none {} = applyAll now Migration.all begun := rfl
  have hnote (b : Books) (applied : Option (Table String)) (names : List String) :
      (b.tables applied).note names = b.tables (applied.map fun t => { t with rows := names }) :=
    rfl
  have hschema : Migration.schema.up now begun = .ok (({} : Books).tables begun.applied) := rfl
  have hseed (applied : Option (Table String)) :
      Migration.seed.up now (({} : Books).tables applied) =
        .ok ((Books.stocked now).tables applied) :=
    insertItems_tables now applied (by decide) (by decide)
  rw [hstart]
  simp only [Migration.all, applyAll, hschema, hnote, hseed]
  rfl

end Tables

namespace Backend

/-- What is there before anything was done. -/
def stock (now : Instant) : Backend → Books
  | memory => {}
  | tables => .stocked now

theorem fresh_eq (now : Instant) (k : Backend) :
    k.fresh now = k.hold (some Migration.noted) (k.stock now) := by
  cases k with
  | memory => rfl
  | tables => exact congrArg Prod.snd (Tables.migrateUp_empty now)

theorem storable_stock (now : Instant) (k : Backend) : (k.stock now).Storable := by
  cases k with
  | memory => exact .empty
  | tables => exact Books.Storable.empty.congr rfl rfl rfl rfl

/-- A request that is not refused is answered alike wherever the books are kept, but for the
order of entries. -/
theorem keeper_answers {listing : Prop} {b : Books} (h : b.Storable) {r : Request}
    (hr : b.Accepts listing r) (applied : Option (Table String)) (now : Instant) :
    ∃ x b', b.answer now.shown r = .ok (x, b') ∧ b'.Storable ∧ ∀ k : Backend, ∃ a,
      k.keeper now (k.hold applied b) r = .ok (a, k.hold applied b') ∧ r.SameAnswer x a := by
  obtain ⟨x, b', hx⟩ := hr.exists_answer now.shown
  refine ⟨x, b', hx, h.answer now.ordinary_shown hr.respects hx, fun k => ?_⟩
  cases k with
  | memory => exact ⟨x, hx, .refl x⟩
  | tables =>
    have halike := Books.answer_tables applied h hr.respects now.shown
    rw [hx] at halike
    generalize hy : (b.tables applied).answer now.shown r = y at halike
    cases halike with
    | answers hs => exact ⟨_, hy, hs⟩

/-- What a store holds tells the accounts. -/
theorem account?_congr {k : Backend} {applied : Option (Table String)} {b b' : Books}
    (h : b.Storable) (h' : b'.Storable) (hk : k.hold applied b = k.hold applied b')
    (id : AccountId) : b.account? id = b'.account? id := by
  have accepts (b : Books) : b.Accepts False (.account id) := ⟨trivial, trivial, False.elim⟩
  obtain ⟨x, _, hx, -, answers⟩ := keeper_answers h (accepts b) applied default
  obtain ⟨x', _, hx', -, answers'⟩ := keeper_answers h' (accepts b') applied default
  obtain ⟨a, ha, same⟩ := answers k
  obtain ⟨a', ha', same'⟩ := answers' k
  rw [hk, ha'] at ha
  cases hx
  cases hx'
  exact same.trans ((Prod.mk.inj (Except.ok.inj ha)).1.symm.trans same'.symm)

/-- A request that does not write leaves a store as it was, whatever is in it. -/
theorem keeper_read {k : Backend} {now : Instant} {s s' : k.State} {r : Request} {a : r.Answer}
    (hr : r.isWrite = false) (h : k.keeper now s r = .ok (a, s')) : s' = s := by
  cases k with
  | memory => exact (Books.Replies.answers now.shown h).of_read hr
  | tables =>
    cases r <;> simp only [Request.isWrite, reduceCtorEq] at hr <;> exact Tables.unchanged_eq_ok h

end Backend

end Scrip
