import Scrip.Proofs.Store.Storable
import Scrip.Proofs.Time.Stored
import Scrip.Store.Tables

/-!
# Books in tables

Books written into the four tables (`Books.tables`). A request that respects the constraints
is answered by both alike and leaves them alike (`Books.answer_tables`): only the words of a
conflict differ, and the order of entries where the texts of their times are not in the order
of the times.

* `LedgerRow.readAll_map`: entries are read from the ledger as they were;
* `LedgerRow.isBefore_ofEntry`: in years of four digits rows are in the order of entries.
-/

namespace Scrip

/-! ## Rows of the ledger -/

namespace LedgerRow

theorem withTime_ofEntry {x : Entry} (h : x.createdAt.Ordinary) :
    withTime (ofEntry x) = .ok (ofEntry x, x.createdAt) := by
  simp only [withTime, ofEntry, Instant.ofStored?_toStored h]

theorem toEntry_ofEntry (x : Entry) : (ofEntry x).toEntry x.createdAt = .ok x := by
  simp only [toEntry, ofEntry, EntryKind.ofName?_name]

/-- Entries are read as they were. -/
theorem readAll_map {xs : List Entry} (h : ∀ x ∈ xs, x.createdAt.Ordinary) :
    readAll (xs.map ofEntry) = .ok xs := by
  have timed : (xs.map ofEntry).mapM withTime = .ok (xs.map fun x => (ofEntry x, x.createdAt)) := by
    induction xs with
    | nil => rfl
    | cons x xs ih =>
      rw [List.forall_mem_cons] at h
      rw [List.map_cons, List.mapM_cons, withTime_ofEntry h.1, ih h.2]
      rfl
  have read : (xs.map fun x => (ofEntry x, x.createdAt)).mapM (fun p => p.1.toEntry p.2) =
      .ok xs := by
    clear timed h
    induction xs with
    | nil => rfl
    | cons x xs ih =>
      rw [List.map_cons, List.mapM_cons, ih]
      simp only [toEntry_ofEntry]
      rfl
  unfold readAll
  rw [timed]
  exact read

/-- In years of four digits rows are in the order of their entries. -/
theorem isBefore_ofEntry {x y : Entry} (hx : x.createdAt.Ordinary) (hy : y.createdAt.Ordinary)
    (hx4 : x.createdAt.FourDigits) (hy4 : y.createdAt.FourDigits) :
    isBefore (ofEntry x) (ofEntry y) = x.isBefore y := by
  have later {x y : Entry} (hx : x.createdAt.Ordinary) (hy : y.createdAt.Ordinary)
      (hx4 : x.createdAt.FourDigits) (hy4 : y.createdAt.FourDigits)
      (h : x.createdAt.isAfter y.createdAt = true) :
      (ofEntry y).createdAt < (ofEntry x).createdAt :=
    Instant.toStored_lt hy hx hy4 hx4 h
  unfold isBefore Entry.isBefore
  by_cases hxy : x.createdAt.isAfter y.createdAt = true
  · rw [if_pos (later hx hy hx4 hy4 hxy), if_pos hxy]
  · by_cases hyx : y.createdAt.isAfter x.createdAt = true
    · have hlt := later hy hx hy4 hx4 hyx
      rw [if_neg (String.lt_asymm hlt), if_pos hlt, if_neg hxy, if_pos hyx]
    · -- Neither time is later, so both are the same.
      have he : x.createdAt = y.createdAt := by
        cases hx : x.createdAt
        cases hy : y.createdAt
        simp only [hx, hy, Instant.isAfter, Bool.or_eq_true, Bool.and_eq_true, decide_eq_true_eq,
          beq_iff_eq] at hxy hyx
        rw [Instant.mk.injEq]
        omega
      have hs : (ofEntry x).createdAt = (ofEntry y).createdAt := congrArg Instant.toStored he
      have irrefl : ¬ (ofEntry y).createdAt < (ofEntry x).createdAt := by
        rw [hs]
        exact String.lt_irrefl _
      have irrefl' : ¬ (ofEntry x).createdAt < (ofEntry y).createdAt := by
        rw [hs]
        exact String.lt_irrefl _
      rw [if_neg irrefl, if_neg irrefl', if_neg hxy, if_neg hyx]
      rfl

end LedgerRow

namespace Books

/-- The books as rows of tables, beside a table of migrations. -/
def tables (b : Books) (applied : Option (Table String)) : Tables where
  users := some ⟨tableNames.users, b.accounts, b.sequences.account⟩
  items := some ⟨tableNames.items, b.items, b.sequences.item⟩
  ledger := some ⟨tableNames.ledger, b.ledger.map .ofEntry, b.sequences.entry⟩
  holdings := some ⟨tableNames.holdings, b.holdings, b.sequences.holding⟩
  applied := applied

end Books

/-- Whether two answers to a request are the same but for the order of entries, which is the same
too if all are from years of four digits. -/
def Request.SameAnswer : (r : Request) → r.Answer → r.Answer → Prop
  | .entriesFor _, xs, ys =>
    xs.Perm ys ∧ ((∀ x ∈ xs, x.createdAt.FourDigits) → xs = ys)
  | _, x, y => x = y

/-- Books and tables give the same answer and are left alike, or both find a name taken. -/
inductive Alike (applied : Option (Table String)) {r : Request} :
    Except StoreError (r.Answer × Books) → Except StoreError (r.Answer × Tables) → Prop
  | answers {x y : r.Answer} {b : Books} (h : r.SameAnswer x y) :
      Alike applied (.ok (x, b)) (.ok (y, b.tables applied))
  | conflicts (s t : String) : Alike applied (.error (.conflict s)) (.error (.conflict t))

namespace Books

variable {b : Books} {applied : Option (Table String)}

theorem ok_bind {ε α β : Type} (x : α) (f : α → Except ε β) : (Except.ok x >>= f) = f x :=
  rfl

section Need

variable (b applied)

theorem sameName_self (name : String) : Tables.sameName name name = true :=
  beq_self_eq_true _

@[simp] theorem usersTable_tables : (b.tables applied).usersTable =
    .ok ⟨tableNames.users, b.accounts, b.sequences.account⟩ :=
  if_pos (sameName_self _)

@[simp] theorem itemsTable_tables : (b.tables applied).itemsTable =
    .ok ⟨tableNames.items, b.items, b.sequences.item⟩ :=
  if_pos (sameName_self _)

@[simp] theorem ledgerTable_tables : (b.tables applied).ledgerTable =
    .ok ⟨tableNames.ledger, b.ledger.map .ofEntry, b.sequences.entry⟩ :=
  if_pos (sameName_self _)

@[simp] theorem holdingsTable_tables : (b.tables applied).holdingsTable =
    .ok ⟨tableNames.holdings, b.holdings, b.sequences.holding⟩ :=
  if_pos (sameName_self _)

theorem hasAccount_tables (id : AccountId) :
    (b.tables applied).hasAccount id = (b.account? id).isSome :=
  List.isSome_find?.symm

theorem hasItem_tables (id : ItemId) : (b.tables applied).hasItem id = (b.item? id).isSome :=
  List.isSome_find?.symm

end Need

/-- Balances that are within bounds can be read. -/
theorem findAccount_tables (h : b.Storable) (p : Account → Bool) :
    (b.tables applied).findAccount p = .ok (b.accounts.find? p) := by
  simp only [Tables.findAccount, usersTable_tables, ok_bind]
  cases hf : b.accounts.find? p with
  | none => rfl
  | some a =>
    have hb := h.bounded a (List.mem_of_find?_eq_some hf)
    have hr : a.readable = .ok a := if_pos ⟨by unfold maxCoins; omega, hb.2⟩
    simp only [hr]
    rfl

/-- Sums that are small enough are kept as they are. -/
theorem storedSum_eq {x y : Int} (hx : 0 ≤ x ∧ x ≤ maxCoins) (hs : 0 ≤ x + y ∧ x + y ≤ maxCoins) :
    storedSum x y = x + y := by
  refine if_pos ?_
  simp only [Bool.and_eq_true, decide_eq_true_eq]
  unfold maxCoins at *
  omega

/-- An amount added to the balances that meet a condition, when none leaves its bounds. -/
theorem addCoins_tables (h : b.Storable) {p : Account → Bool} {x : Int}
    (hx : ∀ a ∈ b.accounts, p a = true → 0 ≤ a.coins + x ∧ a.coins + x ≤ maxCoins) :
    (b.tables applied).addCoins p x = .ok (b.accounts.any p, Books.tables { b with
      accounts := b.accounts.map fun a => if p a then { a with coins := a.coins + x } else a }
      applied) := by
  have hsum {a : Account} (ha : a ∈ b.accounts) (hp : p a = true) :
      storedSum a.coins x = a.coins + x :=
    storedSum_eq (h.bounded a ha) (hx a ha hp)
  have hpos : ¬ (b.accounts.any fun a => p a && storedSum a.coins x < 0) = true := by
    simp only [List.any_eq_true, Bool.and_eq_true, decide_eq_true_eq, not_exists, not_and]
    intro a ha hp
    rw [hsum ha hp]
    exact Int.not_lt.mpr (hx a ha hp).1
  have hrows : (b.accounts.map fun a =>
      if p a then { a with coins := storedSum a.coins x } else a) =
      b.accounts.map fun a => if p a then { a with coins := a.coins + x } else a := by
    refine List.map_congr_left fun a ha => ?_
    split
    · rw [hsum ha ‹_›]
    · rfl
  simp only [Tables.addCoins, usersTable_tables, ok_bind, if_neg hpos, Table.update, hrows]
  rfl

/-- When no account meets the condition, nothing changes. -/
theorem addCoins_tables_none (h : b.Storable) {p : Account → Bool} {x : Int}
    (hp : ∀ a ∈ b.accounts, p a = false) :
    (b.tables applied).addCoins p x = .ok (false, b.tables applied) := by
  have hmap : (b.accounts.map fun a => if p a then { a with coins := a.coins + x } else a) =
      b.accounts := by
    refine (List.map_congr_left fun a ha => ?_).trans (List.map_id _)
    rw [hp a ha]
    rfl
  have hany : b.accounts.any p = false := by simpa using hp
  have hbound : ∀ a ∈ b.accounts, p a = true → 0 ≤ a.coins + x ∧ a.coins + x ≤ maxCoins := by
    intro a ha hpa
    cases (hp a ha).symm.trans hpa
  rw [addCoins_tables h hbound, hmap, hany]

/-- When an account and no other meets the condition, its balance changes. -/
theorem addCoins_tables_some (h : b.Storable) {p : Account → Bool} {x : Int} {a : Account}
    (ha : a ∈ b.accounts) (hp : ∀ a' ∈ b.accounts, p a' = true ↔ a' = a)
    (hx : 0 ≤ a.coins + x ∧ a.coins + x ≤ maxCoins) :
    (b.tables applied).addCoins p x = .ok (true, (b.addCoins a.id x).tables applied) := by
  have hbooks : { b with
      accounts := b.accounts.map fun a => if p a then { a with coins := a.coins + x } else a } =
      b.addCoins a.id x := by
    unfold addCoins
    congr 1
    refine List.map_congr_left fun a' ha' => ?_
    by_cases he : a' = a
    · rw [if_pos ((hp a' ha').mpr he), if_pos (congrArg Account.id he)]
    · rw [if_neg (mt (hp a' ha').mp he), if_neg (mt (h.keyed.eq_of_mem ha' ha) he)]
  rw [addCoins_tables h fun a' ha' hpa => (hp a' ha').mp hpa ▸ hx, hbooks,
    List.any_eq_true.mpr ⟨a, ha, (hp a ha).mpr rfl⟩]

theorem debit_tables (h : b.Storable) {id : AccountId} {amount : Int}
    (hr : b.Respects (.debit id amount)) :
    (b.tables applied).addCoins (fun a => a.id == id && amount ≤ a.coins) (-amount) =
      .ok ((b.changed (b.debit id amount)).1,
        (b.changed (b.debit id amount)).2.tables applied) := by
  cases hd : b.debit id amount with
  | none =>
    refine addCoins_tables_none h fun a ha => ?_
    rw [Bool.eq_false_iff, ne_eq, Bool.and_eq_true, beq_iff_eq, decide_eq_true_eq]
    rintro ⟨rfl, hc⟩
    have hafford : a.canAfford amount = true := decide_eq_true hc
    simp only [debit, h.keyed.account?_eq ha, hafford, if_true, reduceCtorEq] at hd
  | some c =>
    obtain ⟨a, ha, hc, rfl⟩ := debit_eq_some h.keyed hd
    obtain ⟨hm, rfl⟩ := account?_mem ha
    have hbound := hr a hm rfl hc
    refine addCoins_tables_some h hm (fun a' ha' => ?_) (by omega)
    rw [Bool.and_eq_true, beq_iff_eq, decide_eq_true_eq]
    exact ⟨fun hp => h.keyed.eq_of_mem ha' hm hp.1, fun he => by rw [he]; exact ⟨rfl, hc⟩⟩

theorem credit_tables (h : b.Storable) {id : AccountId} {amount : Int}
    (hr : b.Respects (.credit id amount)) :
    ∃ x, b.credit id amount = .ok x ∧ (b.tables applied).addCoins (fun a => a.id == id) amount =
      .ok ((b.changed x).1, (b.changed x).2.tables applied) := by
  cases ha : b.account? id with
  | none =>
    exact ⟨none, by rw [credit, ha], addCoins_tables_none h (by simpa [account?] using ha)⟩
  | some a =>
    obtain ⟨hm, rfl⟩ := account?_mem ha
    have hbound := hr a hm rfl
    have hfits : -maxCoins - 1 ≤ a.coins + amount ∧ a.coins + amount ≤ maxCoins :=
      ⟨by unfold maxCoins; omega, hbound.2⟩
    refine ⟨some (b.addCoins a.id amount), ?_, addCoins_tables_some h hm (fun a' ha' => ?_) hbound⟩
    · simp only [credit, ha, if_pos hfits, setCoins_eq_addCoins h.keyed ha]
    · rw [beq_iff_eq]
      exact ⟨h.keyed.eq_of_mem ha' hm, fun he => by rw [he]⟩

theorem isHoldingOf_iff {account : AccountId} {item : ItemId} {x : Holding} :
    Tables.isHoldingOf account item x = true ↔ x.account = account ∧ x.item = item := by
  rw [Tables.isHoldingOf, Bool.and_eq_true, beq_iff_eq, beq_iff_eq]

theorem isSome_holding? (account : AccountId) (item : ItemId) :
    (b.holding? account item).isSome = b.holdings.any (Tables.isHoldingOf account item) :=
  List.isSome_find?

theorem incrementHolding_tables (account : AccountId) (item : ItemId) (now : Instant) :
    (b.tables applied).answer now (.incrementHolding account item) =
      .ok ((b.changed (b.incrementHolding account item)).1,
        (b.changed (b.incrementHolding account item)).2.tables applied) := by
  have hrows : (b.holdings.map fun h =>
      if Tables.isHoldingOf account item h then { h with quantity := h.quantity + 1 } else h) =
      b.holdings.map fun h =>
        if h.account = account ∧ h.item = item then { h with quantity := h.quantity + 1 } else h :=
    List.map_congr_left fun h _ => if_congr isHoldingOf_iff rfl rfl
  simp only [Tables.answer, holdingsTable_tables, Except.map, Table.update, ← isSome_holding?,
    hrows, incrementHolding]
  cases hx : b.holding? account item with
  | some => rfl
  | none =>
    have hnone : (b.holdings.map fun h =>
        if h.account = account ∧ h.item = item then { h with quantity := h.quantity + 1 } else h) =
        b.holdings := by
      refine (List.map_congr_left fun h hh => if_neg ?_).trans (List.map_id _)
      intro he
      have := List.find?_eq_none.mp hx h hh
      exact this (isHoldingOf_iff.mpr he)
    rw [hnone]
    rfl

theorem entriesFor_tables (applied : Option (Table String)) (h : b.Storable)
    (account : AccountId) :
    ∃ xs, (b.tables applied).entriesFor account = .ok xs ∧
      (Request.entriesFor account).SameAnswer (b.entriesFor account) xs := by
  let before (x y : Entry) : Bool := LedgerRow.isBefore (.ofEntry x) (.ofEntry y)
  let involved := b.ledger.filter (·.involves account)
  have mem {x : Entry} (hx : x ∈ involved) : x ∈ b.ledger := List.mem_of_mem_filter hx
  have h4 {x : Entry} (h : ∀ x ∈ b.entriesFor account, x.createdAt.FourDigits)
      (hx : x ∈ involved) : x.createdAt.FourDigits := h x (List.mem_mergeSort.mpr hx)
  refine ⟨involved.mergeSort before, ?_, ?_, fun hdigits => ?_⟩
  · have hrows : (b.ledger.map LedgerRow.ofEntry).filter (·.involves account) =
        involved.map .ofEntry := by
      rw [List.filter_map]
      rfl
    have hsort : (involved.map LedgerRow.ofEntry).mergeSort LedgerRow.isBefore =
        (involved.mergeSort before).map .ofEntry :=
      (List.map_mergeSort (f := LedgerRow.ofEntry) fun _ _ _ _ => rfl).symm
    unfold Tables.entriesFor
    rw [ledgerTable_tables]
    show LedgerRow.readAll (((b.ledger.map LedgerRow.ofEntry).filter _).mergeSort _) = _
    rw [hrows, hsort]
    exact LedgerRow.readAll_map fun x hx => h.dated x (mem (List.mem_mergeSort.mp hx))
  · exact (List.mergeSort_perm _ _).trans (List.mergeSort_perm _ _).symm
  · have hsame := List.map_mergeSort (r := before) (s := Entry.isBefore) (f := id)
      (l := involved) fun x hx y hy => LedgerRow.isBefore_ofEntry (h.dated x (mem hx))
        (h.dated y (mem hy)) (h4 hdigits hx) (h4 hdigits hy)
    rw [List.map_id, List.map_id] at hsame
    exact hsame.symm

/-- A request that respects the constraints is answered by tables as by books. -/
theorem answer_tables (applied : Option (Table String)) (h : b.Storable) {r : Request}
    (hr : b.Respects r) (now : Instant) :
    Alike applied (b.answer now r) ((b.tables applied).answer now r) := by
  cases r with
  | account id | lockAccount id | accountByName name =>
    simp only [Tables.answer, Tables.unchanged, findAccount_tables h]
    exact .answers rfl
  | item | itemByName | items | holding | holdings =>
    simp only [Tables.answer, Tables.unchanged, itemsTable_tables, holdingsTable_tables]
    exact .answers rfl
  | entriesFor account =>
    obtain ⟨xs, hxs, hs⟩ := entriesFor_tables applied h account
    simp only [Tables.answer, Tables.unchanged, hxs]
    exact .answers hs
  | insertAccount new =>
    have hcoins : ¬ new.coins < 0 := Int.not_lt.mpr hr.1
    simp only [Books.answer, accountByName?, List.isSome_find?, Tables.answer,
      Tables.insertAccount, usersTable_tables, ok_bind, if_neg hcoins]
    by_cases taken : (b.accounts.any fun a => a.username == new.username) = true
    · rw [if_pos taken, if_pos taken]
      exact .conflicts ..
    · rw [if_neg taken, if_neg taken]
      exact .answers rfl
  | insertItem new =>
    have hprice : ¬ new.price ≤ 0 := Int.not_le.mpr hr
    simp only [Books.answer, itemByName?, List.isSome_find?, Tables.answer, Tables.insertItem,
      itemsTable_tables, ok_bind, if_neg hprice]
    by_cases taken : (b.items.any fun i => i.name == new.name) = true
    · rw [if_pos taken, if_pos taken]
      exact .conflicts ..
    · rw [if_neg taken, if_neg taken]
      exact .answers rfl
  | debit id amount =>
    simp only [Books.answer, Tables.answer, debit_tables h hr]
    exact .answers rfl
  | credit id amount =>
    obtain ⟨x, hx, ht⟩ := credit_tables h hr
    have hbooks : b.answer now (.credit id amount) = .ok (b.changed x) :=
      congrArg (Except.map b.changed) hx
    rw [hbooks, show (b.tables applied).answer now (.credit id amount) = _ from ht]
    exact .answers rfl
  | incrementHolding account item =>
    rw [incrementHolding_tables]
    exact .answers rfl
  | insertHolding account item =>
    simp only [Books.answer, addHolding, Tables.answer, Tables.insertHolding,
      holdingsTable_tables, hasAccount_tables, hasItem_tables, ok_bind, hr.1, hr.2,
      Bool.and_self, Bool.not_true, Bool.false_eq_true, if_false]
    rw [← isSome_holding?]
    cases b.holding? account item with
    | none => exact .answers rfl
    | some => exact .answers rfl
  | append new =>
    obtain ⟨positive, source, destination, item⟩ := hr
    have hamount : ¬ new.amount ≤ 0 := Int.not_le.mpr positive
    have hitem : new.item.all (b.tables applied).hasItem = true := by
      cases hi : new.item with
      | none => rfl
      | some i => exact (hasItem_tables b applied i).trans (item i hi)
    simp only [Books.answer, Tables.answer, Tables.append, ledgerTable_tables, hasAccount_tables,
      ok_bind, if_neg hamount, source, destination, hitem, Bool.and_self, Bool.not_true,
      Bool.false_eq_true, if_false]
    have hrows : b.ledger.map LedgerRow.ofEntry ++
        [.ofEntry (new.toEntry (b.sequences.entry + 1) now)] =
        (b.append now new).2.ledger.map .ofEntry := by
      show _ = (b.ledger ++ [_]).map LedgerRow.ofEntry
      rw [List.map_append, List.map_singleton]
    simp only [Table.insert, hrows]
    exact .answers rfl

end Books

end Scrip
