import Scrip.Proofs.Framework.Paired
import Scrip.Proofs.Store.Backend

/-!
# Stores without password hashes

What is left of accounts, and of all that is stored, when the password hashes are taken away
(`veiled`). Stores of which the same is left answer every request alike, up to the hashes in the
answer, and are left so (`Backend.keeper_veiled`).
-/

namespace Scrip

/-- An account without its password hash. -/
def Account.veiled (a : Account) : Account :=
  { a with passwordHash := "" }

/-- Accounts that differ in the hash at most. -/
def Account.Veiled (a a' : Account) : Prop :=
  a.veiled = a'.veiled

/-- Accounts of which the same is left differ in the hash at most. -/
theorem Account.exists_hash {a a' : Account} (h : a.veiled = a'.veiled) :
    ∃ hash, a' = { a with passwordHash := hash } := by
  cases a
  cases a'
  cases h
  exact ⟨_, rfl⟩

/-- The same account was found up to its hash, or none was. -/
theorem Account.veiled_cases {x x' : Option Account}
    (h : x.map Account.veiled = x'.map Account.veiled) :
    x = none ∧ x' = none ∨ ∃ a hash, x = some a ∧ x' = some { a with passwordHash := hash } := by
  refine (map_eq_cases h).imp_right ?_
  rintro ⟨a, a', rfl, rfl, same⟩
  obtain ⟨hash, rfl⟩ := exists_hash same
  exact ⟨a, hash, rfl, rfl⟩

/-- An answer without password hashes. -/
def Request.veil : (r : Request) → r.Answer → r.Answer
  | .account _, a | .accountByName _, a | .lockAccount _, a => a.map Account.veiled
  | .insertAccount _, a => a.veiled
  | .debit _ _, a | .credit _ _, a | .item _, a | .itemByName _, a | .items, a | .insertItem _, a
  | .holding _ _, a | .holdings _, a | .incrementHolding _ _, a | .insertHolding _ _, a
  | .append _, a | .entriesFor _, a => a

/-- Answers to a request that differ in password hashes at most. -/
def Request.Veiled (r : Request) (a a' : r.Answer) : Prop :=
  r.veil a = r.veil a'

theorem find?_veiled {p : Account → Bool} (hp : ∀ a, p a.veiled = p a) (accounts : List Account) :
    (accounts.map Account.veiled).find? p = (accounts.find? p).map Account.veiled := by
  rw [List.find?_map]
  congr 2
  exact funext hp

theorem any_veiled {p : Account → Bool} (hp : ∀ a, p a.veiled = p a) (accounts : List Account) :
    (accounts.map Account.veiled).any p = accounts.any p := by
  rw [List.any_map]
  congr 1
  exact funext hp

/-! ## Books -/

namespace Books

variable (b : Books)

/-- The books without password hashes. -/
def veiled : Books :=
  { b with accounts := b.accounts.map Account.veiled }

theorem veiled_account? (id : AccountId) :
    b.veiled.account? id = (b.account? id).map Account.veiled :=
  find?_veiled (fun _ => rfl) _

theorem veiled_accountByName? (username : String) :
    b.veiled.accountByName? username = (b.accountByName? username).map Account.veiled :=
  find?_veiled (fun _ => rfl) _

theorem veiled_setCoins (id : AccountId) (coins : Int) :
    b.veiled.setCoins id coins = (b.setCoins id coins).veiled := by
  simp only [veiled, setCoins, List.map_map]
  congr 2
  funext a
  exact (apply_ite Account.veiled (a.id = id) { a with coins } a).symm

theorem veiled_debit (id : AccountId) (amount : Int) :
    b.veiled.debit id amount = (b.debit id amount).map veiled := by
  unfold debit
  rw [veiled_account?]
  cases b.account? id with
  | none => rfl
  | some a =>
    simp only [Option.map_some, veiled_setCoins]
    exact (apply_ite (Option.map veiled) (a.canAfford amount = true)
      (some (b.setCoins id (a.coins - amount))) none).symm

theorem veiled_credit (id : AccountId) (amount : Int) :
    b.veiled.credit id amount = (b.credit id amount).map (Option.map veiled) := by
  unfold credit
  rw [veiled_account?]
  cases b.account? id with
  | none => rfl
  | some a =>
    simp only [Option.map_some, veiled_setCoins]
    exact (apply_ite (Except.map (Option.map veiled))
      (-maxCoins - 1 ≤ a.coins + amount ∧ a.coins + amount ≤ maxCoins)
      (.ok (some (b.setCoins id (a.coins + amount)))) (.error (overflow id))).symm

theorem veiled_changed (x : Option Books) :
    b.veiled.changed (x.map veiled) = Prod.map id veiled (b.changed x) := by
  cases x <;> rfl

theorem veiled_holding? (account : AccountId) (item : ItemId) :
    b.veiled.holding? account item = b.holding? account item :=
  rfl

/-- Apart from an insertion with a hash of its own, what the books answer and become without
password hashes is what they do with them, without these. -/
theorem answer_veiled {r : Request} (hr : ∀ new, r ≠ .insertAccount new) (now : Instant) :
    b.veiled.answer now r = (b.answer now r).map (Prod.map r.veil veiled) := by
  cases r with
  | insertAccount new => exact absurd rfl (hr new)
  | account id | lockAccount id =>
    simp only [answer, veiled_account?]
    rfl
  | accountByName username =>
    simp only [answer, veiled_accountByName?]
    rfl
  | debit id amount =>
    simp only [answer, veiled_debit, veiled_changed]
    rfl
  | credit id amount =>
    simp only [answer, veiled_credit]
    cases b.credit id amount with
    | error e => rfl
    | ok x => exact congrArg Except.ok (b.veiled_changed x)
  | incrementHolding account item =>
    simp only [answer, incrementHolding, veiled_holding?]
    cases b.holding? account item <;> rfl
  | insertHolding account item =>
    simp only [answer, addHolding, veiled_holding?]
    cases b.holding? account item <;> rfl
  | insertItem new =>
    simp only [answer, show b.veiled.itemByName? new.name = b.itemByName? new.name from rfl]
    cases b.itemByName? new.name <;> rfl
  | item | itemByName | items | holding | holdings | entriesFor | append => rfl

/-- Books of which the same is left answer alike and become books of which the same is left. -/
theorem answer_matches {b b' : Books} (same : b.veiled = b'.veiled) (now : Instant) (r : Request) :
    Matches (fun y y' => r.Veiled y.1 y'.1 ∧ y.2.veiled = y'.2.veiled) (b.answer now r)
      (b'.answer now r) := by
  by_cases hr : ∀ new, r ≠ .insertAccount new
  · have h := (answer_veiled b hr now).symm.trans (same ▸ answer_veiled b' hr now)
    exact (Matches.of_map h).mono fun _ _ h => Prod.ext_iff.mp h
  · obtain ⟨new, rfl⟩ := not_forall_not.mp hr
    have taken : (b.accountByName? new.username).isSome =
        (b'.accountByName? new.username).isSome := by
      rw [← Option.isSome_map (f := Account.veiled), ← veiled_accountByName?, same,
        veiled_accountByName?, Option.isSome_map]
    simp only [answer, taken]
    split
    · exact .error _
    · obtain ⟨accounts, items, holdings, ledger, sequences⟩ := b
      obtain ⟨accounts', _, _, _, _⟩ := b'
      simp only [veiled, Books.mk.injEq] at same
      obtain ⟨hashes, rfl, rfl, rfl, rfl⟩ := same
      exact .ok ⟨rfl, by simp only [veiled, addAccount, List.map_append, hashes]⟩

end Books

/-! ## Tables -/

/-- A table of accounts without password hashes. -/
def Table.veiled (users : Table Account) : Table Account :=
  { users with rows := users.rows.map Account.veiled }

theorem Account.veiled_readable (a : Account) :
    a.veiled.readable = a.readable.map Account.veiled :=
  (apply_ite (Except.map Account.veiled) (-maxCoins - 1 ≤ a.coins ∧ a.coins ≤ maxCoins) (.ok a)
    (.error StoreError.database)).symm

namespace Tables

variable (t : Tables)

/-- The tables without password hashes. -/
def veiled : Tables :=
  { t with users := t.users.map Table.veiled }

theorem veiled_usersTable : t.veiled.usersTable = t.usersTable.map Table.veiled := by
  unfold usersTable need
  cases h : t.users with
  | none =>
    simp only [veiled, h]
    rfl
  | some users =>
    simp only [veiled, h, Option.map_some]
    exact (apply_ite (Except.map Table.veiled) (sameName users.name tableNames.users = true)
      (.ok users) (.error StoreError.database)).symm

theorem veiled_hasAccount (id : AccountId) : t.veiled.hasAccount id = t.hasAccount id := by
  simp only [hasAccount, veiled, Option.any_map]
  congr 1
  funext users
  exact any_veiled (fun _ => rfl) _

theorem veiled_findAccount {p : Account → Bool} (hp : ∀ a, p a.veiled = p a) :
    t.veiled.findAccount p = (t.findAccount p).map (Option.map Account.veiled) := by
  unfold findAccount
  rw [veiled_usersTable]
  cases t.usersTable with
  | error e => rfl
  | ok users =>
    simp only [Except.map, Books.ok_bind, Table.veiled, find?_veiled hp]
    cases users.rows.find? p with
    | none => rfl
    | some a =>
      simp only [Option.map_some, Account.veiled_readable]
      cases a.readable <;> rfl

theorem veiled_addCoins {p : Account → Bool} (hp : ∀ a, p a.veiled = p a) (amount : Int) :
    t.veiled.addCoins p amount = (t.addCoins p amount).map (Prod.map id veiled) := by
  unfold addCoins
  rw [veiled_usersTable]
  cases t.usersTable with
  | error e => rfl
  | ok users =>
    have negative : (users.veiled.rows.any fun a => p a && storedSum a.coins amount < 0) =
        users.rows.any fun a => p a && storedSum a.coins amount < 0 :=
      any_veiled (fun a => by rw [hp]; rfl) _
    have updated : users.veiled.update p (fun a => { a with coins := storedSum a.coins amount }) =
        Prod.map id Table.veiled
          (users.update p fun a => { a with coins := storedSum a.coins amount }) := by
      simp only [Table.update, Table.veiled, any_veiled hp, Prod.map, List.map_map, id]
      congr 3
      funext a
      simp only [Function.comp, hp]
      exact (apply_ite Account.veiled (p a = true) { a with coins := storedSum a.coins amount }
        a).symm
    simp only [Except.map, Books.ok_bind, negative, updated]
    split <;> rfl

/-- Apart from an insertion with a hash of its own, what the tables answer and become without
password hashes is what they do with them, without these. -/
theorem answer_veiled {r : Request} (hr : ∀ new, r ≠ .insertAccount new) (now : Instant) :
    t.veiled.answer now r = (t.answer now r).map (Prod.map r.veil veiled) := by
  have reads {α : Type} (x : Except StoreError α) :
      t.veiled.unchanged x = (t.unchanged x).map (Prod.map id veiled) := by
    cases x <;> rfl
  have finds {p : Account → Bool} (hp : ∀ a, p a.veiled = p a) :
      t.veiled.unchanged (t.veiled.findAccount p) =
        (t.unchanged (t.findAccount p)).map (Prod.map (Option.map Account.veiled) veiled) := by
    rw [veiled_findAccount t hp]
    cases t.findAccount p <;> rfl
  have items : t.veiled.itemsTable = t.itemsTable := rfl
  have holdings : t.veiled.holdingsTable = t.holdingsTable := rfl
  have ledger : t.veiled.ledgerTable = t.ledgerTable := rfl
  have hasItem : t.veiled.hasItem = t.hasItem := rfl
  cases r with
  | insertAccount new => exact absurd rfl (hr new)
  | account id | lockAccount id => exact finds fun _ => rfl
  | accountByName username => exact finds fun _ => rfl
  | debit id amount => exact veiled_addCoins _ (fun _ => rfl) _
  | credit id amount => exact veiled_addCoins _ (fun _ => rfl) _
  | item | itemByName | items | holding | holdings | entriesFor => exact reads _
  | incrementHolding account item =>
    simp only [answer, holdings]
    cases t.holdingsTable <;> rfl
  | insertHolding account item =>
    simp only [answer, insertHolding, holdings, veiled_hasAccount, hasItem]
    cases t.holdingsTable with
    | error e => rfl
    | ok table =>
      simp only [Books.ok_bind]
      split
      · rfl
      · split <;> rfl
  | insertItem new =>
    simp only [answer, insertItem, items]
    cases t.itemsTable with
    | error e => rfl
    | ok table =>
      simp only [Books.ok_bind]
      split
      · rfl
      · split <;> rfl
  | append new =>
    simp only [answer, append, ledger, veiled_hasAccount, hasItem]
    cases t.ledgerTable with
    | error e => rfl
    | ok table =>
      simp only [Books.ok_bind]
      split
      · rfl
      · split <;> rfl

/-- Tables of which the same is left answer alike and become tables of which the same is left. -/
theorem answer_matches {t t' : Tables} (same : t.veiled = t'.veiled) (now : Instant) (r : Request) :
    Matches (fun y y' => r.Veiled y.1 y'.1 ∧ y.2.veiled = y'.2.veiled) (t.answer now r)
      (t'.answer now r) := by
  by_cases hr : ∀ new, r ≠ .insertAccount new
  · have h := (answer_veiled t hr now).symm.trans (same ▸ answer_veiled t' hr now)
    exact (Matches.of_map h).mono fun _ _ h => Prod.ext_iff.mp h
  · obtain ⟨new, rfl⟩ := not_forall_not.mp hr
    have tables : t.usersTable.map Table.veiled = t'.usersTable.map Table.veiled := by
      rw [← veiled_usersTable, same, veiled_usersTable]
    simp only [answer, insertAccount]
    generalize t.usersTable = x, t'.usersTable = x' at tables
    cases Matches.of_map tables with
    | error e => exact .error e
    | @ok users users' alike =>
      obtain ⟨name, rows, sequence⟩ := users
      obtain ⟨name', rows', sequence'⟩ := users'
      simp only [Table.veiled, Table.mk.injEq] at alike
      obtain ⟨rfl, hashes, rfl⟩ := alike
      have taken : rows.any (·.username == new.username) =
          rows'.any (·.username == new.username) := by
        rw [← any_veiled (fun _ => rfl), hashes, any_veiled fun _ => rfl]
      simp only [Books.ok_bind, taken]
      split
      · exact .error _
      · split
        · exact .error _
        · simp only [veiled, Tables.mk.injEq] at same
          obtain ⟨-, items, ledger, holdings, applied⟩ := same
          refine .ok ⟨rfl, ?_⟩
          simp only [veiled, Table.veiled, Table.insert, Option.map_some, List.map_append, hashes,
            items, ledger, holdings, applied]

end Tables

/-! ## Both -/

namespace Backend

/-- What is stored, without password hashes. -/
def veiled : (k : Backend) → k.State → k.State
  | memory => Books.veiled
  | tables => Tables.veiled

variable {k : Backend}

/-- Stores of which the same is left answer alike and become stores of which the same is left. -/
theorem keeper_veiled {x x' : k.State} (same : k.veiled x = k.veiled x') (now : Instant)
    (r : Request) :
    Matches (fun y y' => r.Veiled y.1 y'.1 ∧ k.veiled y.2 = k.veiled y'.2) (k.keeper now x r)
      (k.keeper now x' r) := by
  cases k with
  | memory => exact Books.answer_matches same now.shown r
  | tables => exact Tables.answer_matches same now.shown r

/-- Storages of which the same is left, at the same reading of the clock. -/
structure Veiled (k : Backend) (t t' : Storage k.State × Nat) : Prop where
  committed : k.veiled t.1.committed = k.veiled t'.1.committed
  working : t.1.working.map k.veiled = t'.1.working.map k.veiled
  reading : t.2 = t'.2

namespace Veiled

variable {t t' : Storage k.State × Nat}

/-- A call is answered alike, and leaves storages of which the same is left. -/
theorem clocked (h : k.Veiled t t') (clock : Nat → Instant) (c : Call) :
    c.Like Request.Veiled (Storage.clocked k.keeper clock c t).1
        (Storage.clocked k.keeper clock c t').1 ∧
      k.Veiled (Storage.clocked k.keeper clock c t).2 (Storage.clocked k.keeper clock c t').2 := by
  obtain ⟨⟨committed, working, now⟩, n⟩ := t
  obtain ⟨⟨committed', working', now'⟩, n'⟩ := t'
  obtain rfl : n = n' := h.reading
  -- A unit is open in both or in neither.
  rcases map_eq_cases h.working with ⟨rfl, rfl⟩ | ⟨x, x', rfl, rfl, hx⟩
  · cases c with
    | begin limit => exact ⟨rfl, h.committed, congrArg some h.committed, rfl⟩
    | within r => exact ⟨.error _, h.committed, rfl, rfl⟩
    | commit => exact ⟨rfl, h.committed, rfl, rfl⟩
    | rollback => exact ⟨rfl, h.committed, rfl, rfl⟩
  · cases c with
    | begin limit => exact ⟨rfl, h.committed, h.working, rfl⟩
    | within r =>
      simp only [Storage.clocked, Storage.party, Storage.request]
      have answered := keeper_veiled hx (clock n) r
      generalize k.keeper (clock n) x r = y, k.keeper (clock n) x' r = y' at answered
      cases answered with
      | ok alike => exact ⟨.ok alike.1, h.committed, congrArg some alike.2, rfl⟩
      | error e => exact ⟨.error _, h.committed, h.working, rfl⟩
    | commit => exact ⟨rfl, hx, rfl, rfl⟩
    | rollback => exact ⟨rfl, h.committed, rfl, rfl⟩

end Veiled

/-! ## Two runs -/

section Abreast

variable {α β : Type} {clock : Nat → Instant} {t t' : Storage k.State × Nat}

/-- How a dialogue with one storage and another dialogue with another storage end: `Q` holds of
their outcomes and of the storages that they leave. -/
def Abreast (clock : Nat → Instant) (t t' : Storage k.State × Nat) (d d' : Exchange α)
    (Q : α → α → Storage k.State × Nat → Storage k.State × Nat → Prop) : Prop :=
  let y := d.run (Storage.clocked k.keeper clock) t
  let y' := d'.run (Storage.clocked k.keeper clock) t'
  Q y.1 y'.1 y.2 y'.2

theorem Abreast.mono {d d' : Exchange α}
    {P Q : α → α → Storage k.State × Nat → Storage k.State × Nat → Prop}
    (hd : Abreast clock t t' d d' P) (h : ∀ a a' s s', P a a' s s' → Q a a' s s') :
    Abreast clock t t' d d' Q :=
  h _ _ _ _ hd

theorem Abreast.bind {d d' : Exchange α} {f f' : α → Exchange β}
    {P : α → α → Storage k.State × Nat → Storage k.State × Nat → Prop}
    {Q : β → β → Storage k.State × Nat → Storage k.State × Nat → Prop}
    (hd : Abreast clock t t' d d' P)
    (hf : ∀ a a' s s', P a a' s s' → Abreast clock s s' (f a) (f' a') Q) :
    Abreast clock t t' (d >>= f) (d' >>= f') Q := by
  simp only [Abreast, Dialogue.run_bind]
  exact hf _ _ _ _ hd

/-- Dialogues that are paired end with related values, and leave storages of which the same is
left. -/
theorem Veiled.abreast {R : α → α → Prop} {d d' : Exchange α} (h : k.Veiled t t')
    (clock : Nat → Instant) (hd : Exchange.Paired Request.Veiled R d d') :
    Abreast clock t t' d d' fun a a' s s' => R a a' ∧ k.Veiled s s' :=
  Dialogue.Paired.run hd (fun c _ _ h => h.clocked clock c) h

end Abreast

end Backend

end Scrip
