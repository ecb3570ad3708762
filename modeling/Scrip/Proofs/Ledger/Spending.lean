import Mathlib.Algebra.Order.BigOperators.Group.List
import Scrip.Proofs.Ledger.Names
import Scrip.Proofs.Ledger.Permanent

/-!
# What an account spends

Commands by which an account spends an amount (`Command.Spends`): transfers to other accounts, or
purchases of what costs as much. `Books.Spent` counts them by what they leave, which is the balance
of the account and the entries of what it paid.

* `Spent.again`: each of them is counted once;
* `Spent.aside`: whatever neither takes from the balance nor adds to it is not counted.
-/

namespace Scrip

open Credential

variable {e : Engine} {b₀ b b' : Books} {id : AccountId} {a : Account} {c : Command} {o : Outcome}
  {amount : Int} {kind : EntryKind}

/-- The command has the account spend the amount: on another account, which is there, or on an item
of that price. -/
inductive Command.Spends (b : Books) (id : AccountId) (amount : Int) : EntryKind → Command → Prop
  | transfer {name : String} {deadline : Option Nat} {recipient : Account}
      (destination : b.accountByName? (canonicalUsername name) = some recipient)
      (apart : recipient.id ≠ id) : Spends b id amount .transfer (.transfer id name amount deadline)
  | purchase {name : String} {deadline : Option Nat} {item : Item}
      (goods : b.itemByName? name = some item) (price : item.price = amount) :
      Spends b id amount .purchase (.purchase id name deadline)

/-- Whoever receives coins by the command has room for them. -/
def Command.Fits (b : Books) : Command → Prop
  | .transfer _ name amount _ =>
    ∀ recipient, b.accountByName? (canonicalUsername name) = some recipient →
      recipient.coins + amount ≤ maxCoins
  | _ => True

/-- The command moves no coins from the account or to it. -/
def Command.Shuns (a : Account) : Command → Prop
  | .transfer sender recipient _ _ => sender ≠ a.id ∧ canonicalUsername recipient ≠ a.username
  | .purchase buyer _ _ => buyer ≠ a.id
  | _ => True

/-- A spending fits if every account has room for the amount. -/
theorem Command.Spends.fits (h : c.Spends b₀ id amount kind)
    (room : ∀ a ∈ b.accounts, a.coins + amount ≤ maxCoins) : c.Fits b := by
  cases h with
  | transfer => exact fun recipient there => room _ (Books.accountByName?_mem there).1
  | purchase => trivial

/-- Coins are only made for new accounts. -/
theorem Effect.balances_le (he : Effect e b c o b') (hk : b.Keyed) (hc : c.registers? = none) :
    b'.balances ≤ b.balances := by
  cases he with
  | look | addItem => exact le_rfl
  | signIn | register | signUp => cases hc
  | @transfer _ _ amount _ sender recipient _ _ source destination =>
    obtain ⟨hs, -⟩ := Books.account?_mem source
    obtain ⟨hr, -⟩ := Books.accountByName?_mem destination
    have there : recipient.id ∈ (b.addCoins sender.id (-amount)).accounts.map (·.id) :=
      (Books.ids_addCoins ..).symm ▸ List.mem_map_of_mem hr
    rw [Books.balances_withEntry, Books.balances_addCoins (hk.addCoins _) there,
      Books.balances_addCoins hk (List.mem_map_of_mem hs)]
    omega
  | @purchase _ _ _ buyer item _ _ acquired source _ positive =>
    obtain ⟨hb, -⟩ := Books.account?_mem source
    rw [Books.balances_withEntry, Books.balances_congr (Books.gain_accounts ..),
      Books.balances_addCoins hk (List.mem_map_of_mem hb)]
    omega

/-- No balance is above their sum. -/
theorem Books.Storable.coins_le_balances (h : b.Storable) (ha : a ∈ b.accounts) :
    a.coins ≤ b.balances := by
  refine List.single_le_sum (fun x hx => ?_) _ (List.mem_map_of_mem ha)
  obtain ⟨a', ha', rfl⟩ := List.mem_map.mp hx
  exact (h.bounded a' ha').1

/-- Accounts and items are there for good. -/
theorem Command.Spends.mono (h : c.Spends b id amount kind) (hb : b.Continues b') :
    c.Spends b' id amount kind := by
  cases h with
  | transfer destination apart =>
    obtain ⟨a', ha', remains⟩ := hb.accountByName? destination
    exact .transfer ha' (remains.id ▸ apart)
  | purchase goods price => exact .purchase (hb.itemByName? goods) price

namespace Books

/-- The entries of what an account paid. -/
def paidBy (b : Books) (id : AccountId) : List Entry :=
  b.ledger.filter (·.source == id)

theorem paidBy_withEntry_self {x : Entry} (hx : x.source = id) :
    (b.withEntry x).paidBy id = b.paidBy id ++ [x] := by
  rw [paidBy, withEntry, List.filter_append, List.filter_cons_of_pos (by simpa using hx),
    List.filter_nil]
  rfl

theorem paidBy_withEntry_of_ne {x : Entry} (hx : x.source ≠ id) :
    (b.withEntry x).paidBy id = b.paidBy id := by
  rw [paidBy, withEntry, List.filter_append, List.filter_cons_of_neg (by simpa using hx),
    List.filter_nil, List.append_nil]
  rfl

theorem account?_gain (account : AccountId) (item : ItemId) (now : Instant) :
    (b.gain account item now).account? id = b.account? id :=
  congrArg (List.find? _) (gain_accounts ..)

theorem paidBy_gain (account : AccountId) (item : ItemId) (now : Instant) :
    (b.gain account item now).paidBy id = b.paidBy id :=
  congrArg (List.filter _) (gain_ledger ..)

/-- An account paid the same amount so many times, and its balance did not change otherwise. -/
structure Spent (b₀ b : Books) (payer : Account) (kind : EntryKind) (amount : Int) (times : Nat) :
    Prop where
  account : b.account? payer.id = some { payer with coins := payer.coins - times * amount }
  entries : ∃ paid, b.paidBy payer.id = b₀.paidBy payer.id ++ paid ∧ paid.length = times ∧
    ∀ x ∈ paid, x.kind = kind ∧ x.amount = amount

theorem Spent.start (found : b.account? a.id = some a) : b.Spent b a kind amount 0 := by
  refine ⟨?_, [], (List.append_nil _).symm, rfl, nofun⟩
  rw [found, Nat.cast_zero, Int.zero_mul, Int.sub_zero]

end Books

/-- What a spending takes from the account, and the entry it makes. -/
theorem Effect.spends (he : Effect e b c o b') (spends : c.Spends b id amount kind)
    (found : b.account? id = some a) :
    ∃ x, o = .entry x ∧ b'.account? id = some { a with coins := a.coins - amount } ∧
      b'.paidBy id = b.paidBy id ++ [x] ∧ x.kind = kind ∧ x.amount = amount := by
  cases spends with
  | transfer there apart =>
    cases he with
    | look h => cases h
    | @transfer _ _ _ _ sender recipient entry now source destination _ _ _ _ recorded =>
      cases found.symm.trans source
      cases there.symm.trans destination
      obtain ⟨-, rfl⟩ := Books.account?_mem found
      have debited := Books.account?_addCoins_self (x := -amount) found
      have credited := Books.account?_addCoins_of_ne (x := amount) apart.symm debited
      exact ⟨entry, rfl, credited, Books.paidBy_withEntry_self (recorded ▸ rfl), recorded ▸ rfl,
        recorded ▸ rfl⟩
  | @purchase _ _ item there price =>
    cases he with
    | look h => cases h
    | @purchase _ _ _ buyer _ entry now acquired source goods _ _ recorded =>
      cases found.symm.trans source
      cases there.symm.trans goods
      cases price
      obtain ⟨-, rfl⟩ := Books.account?_mem found
      have debited := Books.account?_addCoins_self (x := -item.price) found
      refine ⟨entry, rfl, (Books.account?_gain ..).trans debited, ?_, recorded ▸ rfl,
        recorded ▸ rfl⟩
      rw [Books.paidBy_withEntry_self (recorded ▸ rfl), Books.paidBy_gain]
      rfl

/-- What takes nothing from a balance and adds nothing to it is no payment by the account. -/
theorem Effect.aside (he : Effect e b c o b') (found : b.account? id = some a) {a' : Account}
    (found' : b'.account? id = some a') (same : a'.coins = a.coins) :
    a' = a ∧ b'.paidBy id = b.paidBy id := by
  cases he with
  | look | signIn | addItem =>
    cases found.symm.trans found'
    exact ⟨rfl, rfl⟩
  | register | signUp =>
    cases (Books.account?_withAccount found _).symm.trans found'
    exact ⟨rfl, rfl⟩
  | @transfer _ _ amount _ sender recipient entry now source _ apart positive _ _ recorded =>
    by_cases hs : id = sender.id
    · subst hs
      have debited := Books.account?_addCoins_self (x := -amount) found
      have credited := Books.account?_addCoins_of_ne (x := amount) apart debited
      cases credited.symm.trans found'
      exact absurd same (by show a.coins + -amount ≠ a.coins; omega)
    have debited := Books.account?_addCoins_of_ne (x := -amount) hs found
    by_cases hr : id = recipient.id
    · subst hr
      have credited := Books.account?_addCoins_self (x := amount) debited
      cases credited.symm.trans found'
      exact absurd same (by show a.coins + amount ≠ a.coins; omega)
    have credited := Books.account?_addCoins_of_ne (x := amount) hr debited
    cases credited.symm.trans found'
    exact ⟨rfl, Books.paidBy_withEntry_of_ne (recorded ▸ Ne.symm hs)⟩
  | @purchase _ _ _ buyer item entry now acquired source _ positive _ recorded =>
    have found' := (Books.account?_gain buyer.id item.id acquired).symm.trans found'
    by_cases hs : id = buyer.id
    · subst hs
      cases (Books.account?_addCoins_self (x := -item.price) found).symm.trans found'
      exact absurd same (by show a.coins + -item.price ≠ a.coins; omega)
    cases (Books.account?_addCoins_of_ne (x := -item.price) hs found).symm.trans found'
    refine ⟨rfl, ?_⟩
    rw [Books.paidBy_withEntry_of_ne (recorded ▸ Ne.symm hs), Books.paidBy_gain]
    rfl

/-- An account that a command shuns is as it was. -/
theorem Effect.shuns (he : Effect e b c o b') (hk : b.Keyed) (hc : c.Shuns a) {a' : Account}
    (found : b.account? a.id = some a') (named : a'.username = a.username) :
    b'.account? a.id = some a' := by
  cases he with
  | look | signIn | addItem => exact found
  | register | signUp => exact Books.account?_withAccount found _
  | @transfer _ _ amount _ sender recipient _ _ source destination =>
    have hs : a.id ≠ sender.id := fun h => hc.1 ((Books.account?_mem source).2.symm.trans h.symm)
    have hr : a.id ≠ recipient.id := fun h => by
      obtain ⟨hmem, hname⟩ := Books.accountByName?_mem destination
      obtain ⟨hmem', hid⟩ := Books.account?_mem found
      have same := hk.eq_of_mem hmem hmem' (h.symm.trans hid.symm)
      exact hc.2 (hname.symm.trans (same ▸ named))
    exact Books.account?_addCoins_of_ne hr (Books.account?_addCoins_of_ne hs found)
  | @purchase _ _ _ buyer item _ _ acquired source =>
    have hs : a.id ≠ buyer.id := fun h => hc ((Books.account?_mem source).2.symm.trans h.symm)
    exact (Books.account?_gain ..).trans (Books.account?_addCoins_of_ne hs found)

namespace Books.Spent

variable {payer : Account} {times : Nat}

/-- One more payment. -/
theorem again (h : b₀.Spent b payer kind amount times) (he : Effect e b c o b')
    (spends : c.Spends b payer.id amount kind) : b₀.Spent b' payer kind amount (times + 1) := by
  obtain ⟨found, paid, hpaid, count, alike⟩ := h
  obtain ⟨x, -, found', hx, hkind, hamount⟩ := he.spends spends found
  refine ⟨found'.trans ?_, paid ++ [x], ?_, ?_, ?_⟩
  · rw [Nat.cast_succ, Int.add_mul, Int.one_mul, Int.sub_sub]
  · rw [hx, hpaid, List.append_assoc]
  · rw [List.length_append, count]
    rfl
  · exact List.forall_mem_append.mpr ⟨alike, List.forall_mem_singleton.mpr ⟨hkind, hamount⟩⟩

/-- A command that leaves the balance as it was. -/
theorem aside (h : b₀.Spent b payer kind amount times) (he : Effect e b c o b')
    (same : (b'.account? payer.id).map (·.coins) = (b.account? payer.id).map (·.coins)) :
    b₀.Spent b' payer kind amount times := by
  obtain ⟨found, entries⟩ := h
  rw [found] at same
  obtain ⟨a', found', same⟩ := Option.map_eq_some_iff.mp same
  obtain ⟨rfl, hpaid⟩ := he.aside found found' same
  exact ⟨found', hpaid ▸ entries⟩

end Books.Spent

end Scrip
