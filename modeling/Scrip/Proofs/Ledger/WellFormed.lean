import Scrip.Proofs.Concurrency.Troubled
import Scrip.Proofs.Ledger.Statement

/-!
# Books that are well formed

Every entry and every holding is as it has to be (`Books.WellFormed`): amounts and quantities are
positive, the accounts and items they name are there, a transfer is between two accounts and of no
item, and a purchase is by one account and at the price of its item. Neither store is asked to see
to this: it holds because a command looks before it writes (`Effect.wellFormed`), whatever goes
wrong (`books_wellFormed`).
-/

namespace Scrip

namespace Books

variable {b b' b'' : Books}

/-- Books with the accounts and the items of others, and possibly more. -/
structure Retains (b b' : Books) : Prop where
  accounts : ∀ id, (b.account? id).isSome → (b'.account? id).isSome
  items : ∀ id i, b.item? id = some i → b'.item? id = some i

namespace Retains

theorem of_eq (ha : b'.accounts = b.accounts) (hi : b'.items = b.items) : b.Retains b' := by
  refine ⟨fun id h => ?_, fun id i h => ?_⟩
  · rwa [account?, ha]
  · rwa [item?, hi]

theorem trans (h : b.Retains b') (h' : b'.Retains b'') : b.Retains b'' :=
  ⟨fun id ha => h'.accounts id (h.accounts id ha), fun id i hi => h'.items id i (h.items id i hi)⟩

theorem addCoins (id : AccountId) (x : Int) : b.Retains (b.addCoins id x) :=
  ⟨fun _ h => by rwa [isSome_account?_addCoins], fun _ _ h => h⟩

theorem withAccount (a : Account) : b.Retains (b.withAccount a) :=
  ⟨fun _ h => isSome_account?_withAccount a h, fun _ _ h => h⟩

theorem withItem (i : Item) : b.Retains (b.withItem i) := by
  refine ⟨fun _ h => h, fun id found h => ?_⟩
  rw [item?] at h
  rw [item?, Books.withItem, List.find?_append, h]
  rfl

theorem withEntry (x : Entry) : b.Retains (b.withEntry x) :=
  of_eq rfl rfl

theorem gain (account : AccountId) (item : ItemId) (now : Instant) :
    b.Retains (b.gain account item now) :=
  of_eq (gain_accounts ..) (gain_items ..)

end Retains

/-- An entry is as it has to be, by the accounts and items that are there. -/
structure Warrants (b : Books) (x : Entry) : Prop where
  positive : 0 < x.amount
  source : (b.account? x.source).isSome
  destination : (b.account? x.destination).isSome
  transfer : x.kind = .transfer → x.source ≠ x.destination ∧ x.item = none
  purchase : x.kind = .purchase → x.source = x.destination ∧
    ∃ i, x.item = some i.id ∧ b.item? i.id = some i ∧ x.amount = i.price

/-- A holding is as it has to be, by the accounts and items that are there. -/
structure Backs (b : Books) (h : Holding) : Prop where
  account : (b.account? h.account).isSome
  item : (b.item? h.item).isSome
  positive : 1 ≤ h.quantity

/-- All entries and holdings are as they have to be. -/
structure WellFormed (b : Books) : Prop where
  entries : ∀ x ∈ b.ledger, b.Warrants x
  holdings : ∀ h ∈ b.holdings, b.Backs h

theorem Warrants.mono {x : Entry} (h : b.Warrants x) (hr : b.Retains b') : b'.Warrants x where
  positive := h.positive
  source := hr.accounts _ h.source
  destination := hr.accounts _ h.destination
  transfer := h.transfer
  purchase hk := by
    obtain ⟨same, i, hitem, found, price⟩ := h.purchase hk
    exact ⟨same, i, hitem, hr.items _ i found, price⟩

theorem Backs.mono {h : Holding} (hb : b.Backs h) (hr : b.Retains b') : b'.Backs h := by
  obtain ⟨i, hi⟩ := Option.isSome_iff_exists.mp hb.item
  exact ⟨hr.accounts _ hb.account, by rw [hr.items _ i hi]; rfl, hb.positive⟩

/-- A holding after a gain is one from before, raised or not, or it is new and of one. -/
theorem mem_gain {account : AccountId} {item : ItemId} {now : Instant} {x : Holding}
    (hx : x ∈ (b.gain account item now).holdings) :
    (∃ y ∈ b.holdings, x.account = y.account ∧ x.item = y.item ∧ y.quantity ≤ x.quantity) ∨
      x.account = account ∧ x.item = item ∧ x.quantity = 1 := by
  unfold gain at hx
  split at hx
  · obtain ⟨y, hy, rfl⟩ := List.mem_map.mp hx
    refine .inl ⟨y, hy, ?_⟩
    split
    · exact ⟨rfl, rfl, by show y.quantity ≤ y.quantity + 1; omega⟩
    · exact ⟨rfl, rfl, Int.le_refl _⟩
  · rcases List.mem_append.mp hx with hx | hx
    · exact .inl ⟨x, hx, rfl, rfl, Int.le_refl _⟩
    · rw [List.mem_singleton.mp hx]
      exact .inr ⟨rfl, rfl, rfl⟩

namespace WellFormed

/-- Books without entries and holdings. -/
theorem blank {items : List Item} {sequences : Sequences} : WellFormed { items, sequences } :=
  ⟨nofun, nofun⟩

/-- Books with the same entries and holdings. -/
theorem retained (h : b.WellFormed) (hr : b.Retains b') (hl : b'.ledger = b.ledger)
    (hh : b'.holdings = b.holdings) : b'.WellFormed := by
  refine ⟨fun x hx => ?_, fun x hx => ?_⟩
  · rw [hl] at hx
    exact (h.entries x hx).mono hr
  · rw [hh] at hx
    exact (h.holdings x hx).mono hr

theorem withEntry (h : b.WellFormed) {x : Entry} (hx : b.Warrants x) :
    (b.withEntry x).WellFormed := by
  have retains : b.Retains (b.withEntry x) := .withEntry x
  refine ⟨fun y hy => ?_, fun y hy => (h.holdings y hy).mono retains⟩
  rcases List.mem_append.mp hy with hy | hy
  · exact (h.entries y hy).mono retains
  · rw [List.mem_singleton.mp hy]
    exact hx.mono retains

theorem gain (h : b.WellFormed) {account : AccountId} {item : ItemId}
    (ha : (b.account? account).isSome) (hi : (b.item? item).isSome) (now : Instant) :
    (b.gain account item now).WellFormed := by
  have retains : b.Retains (b.gain account item now) := .gain account item now
  refine ⟨fun x hx => ?_, fun x hx => Backs.mono ?_ retains⟩
  · rw [gain_ledger] at hx
    exact (h.entries x hx).mono retains
  · rcases mem_gain hx with ⟨y, hy, haccount, hitem, hle⟩ | ⟨rfl, rfl, hone⟩
    · have backs := h.holdings y hy
      exact ⟨haccount ▸ backs.account, hitem ▸ backs.item, Int.le_trans backs.positive hle⟩
    · exact ⟨ha, hi, Int.le_of_eq hone.symm⟩

end WellFormed

end Books

/-- Every command keeps the books well formed. -/
theorem Effect.wellFormed {e : Engine} {b b' : Books} {c : Command} {o : Outcome}
    (he : Effect e b c o b') (hn : b.Numbered) (h : b.WellFormed) : b'.WellFormed := by
  cases he with
  | look | signIn => exact h
  | register | signUp => exact h.retained (.withAccount _) rfl rfl
  | addItem => exact h.retained (.withItem _) rfl rfl
  | @transfer _ _ amount _ sender recipient entry _ source destination apart positive _ _
      recorded =>
    have hs := Books.isSome_account?_of_mem (Books.account?_mem source).1
    have hr := Books.isSome_account?_of_mem (Books.accountByName?_mem destination).1
    have retains := (Books.Retains.addCoins (b := b) sender.id (-amount)).trans
      (.addCoins recipient.id amount)
    refine (h.retained retains rfl rfl).withEntry (.mono ?_ retains)
    subst recorded
    exact ⟨positive, hs, hr, fun _ => ⟨apart, rfl⟩, nofun⟩
  | @purchase _ _ _ buyer item entry _ acquired source goods positive _ recorded =>
    have hb := Books.isSome_account?_of_mem (Books.account?_mem source).1
    have hi : b.item? item.id = some item := hn.item?_eq (List.mem_of_find?_eq_some goods)
    have paid := Books.Retains.addCoins (b := b) buyer.id (-item.price)
    have listed : ((b.addCoins buyer.id (-item.price)).item? item.id).isSome := by
      rw [paid.items _ _ hi]
      rfl
    refine ((h.retained paid rfl rfl).gain (paid.accounts _ hb) listed acquired).withEntry
      (.mono ?_ (paid.trans (.gain buyer.id item.id acquired)))
    subst recorded
    exact ⟨positive, hb, hb, nofun, fun _ => ⟨rfl, item, rfl, hi, rfl⟩⟩

open Troubled in
/-- Whatever clients command from the moment at which nothing was done, in any order and whatever
goes wrong, in either store: every entry has a positive amount and is between accounts that are
there, a transfer between two of them and of no item, a purchase by one of them of an item that is
there and at its price; and every holding is of one at least, by an account that is there and of an
item that is there. -/
theorem books_wellFormed {ι : Type} [DecidableEq ι] {e : Engine}
    (hm : e.initialBalance ≤ maxCoins) {k : Backend} {now : Instant} {plan : ι → List Command}
    {history : List (Happening ι)} {S : Troubled ι k.State (List (Except Error Outcome))}
    (run : Run k.keeper (carryingOut e k now plan) history S) :
    ∃ b, S.committed = k.hold (some Migration.noted) b ∧ b.WellFormed := by
  have numbered : (k.stock now).Numbered := (k.reconciled_stock 0 now).solvent.numbered
  have blank : (k.stock now).WellFormed := by
    cases k <;> exact .blank
  obtain ⟨b, -, committed, -, wellFormed⟩ := run.invariant hm
    (I := fun b => b.Numbered ∧ b.WellFormed) ⟨numbered, blank⟩
    fun _ _ _ _ h he => ⟨he.numbered h.1, he.wellFormed h.1 h.2⟩
  exact ⟨b, committed, wellFormed⟩

open Troubled in
/-- Two clients and a cup, with the entry of its purchase. -/
theorem books_wellFormed_cup :
    ({} : Engine).initialBalance ≤ maxCoins ∧ ∃ history S,
      Run Backend.memory.keeper (carryingOut {} .memory default cupPlan) history S ∧
      (∃ x, (S.committed : Books).ledger = [x]) ∧
      ∃ b, S.committed = Backend.memory.hold (some Migration.noted) b ∧ b.WellFormed := by
  have hm : ({} : Engine).initialBalance ≤ maxCoins := by
    show defaultGrant ≤ maxCoins
    decide
  obtain ⟨_, _, _, S, x, run, run', -, noted⟩ := exists_cupRun
  have all := run.append run'
  exact ⟨hm, _, S, all, ⟨x, noted⟩, books_wellFormed hm all⟩

end Scrip
