import Mathlib.Data.List.Nodup
import Scrip.Engine.Command
import Scrip.Proofs.Framework.Replies

/-!
# What a command does to the books

`Effect` lists all that a command can do when it ends with an outcome: which record
it adds, which balances it changes and by how much. Everything else in the books
is as it was.

* `Books.addCoins`, `Books.gain`, `Books.withEntry`, ...: the changes;
* `Books.debit_eq_some`, `Books.credit_eq_some`, ...: the writes as such changes.
-/

namespace Scrip

open Credential
open Crypt (Salt)

namespace Books

/-- The books with the balance of an account changed by an amount. -/
def addCoins (b : Books) (id : AccountId) (amount : Int) : Books :=
  { b with
    accounts := b.accounts.map fun a =>
      if a.id = id then { a with coins := a.coins + amount } else a }

/-- The books with one more account. -/
def withAccount (b : Books) (a : Account) : Books :=
  { b with accounts := b.accounts ++ [a], sequences.account := b.sequences.account + 1 }

/-- The books with one more item. -/
def withItem (b : Books) (i : Item) : Books :=
  { b with items := b.items ++ [i], sequences.item := b.sequences.item + 1 }

/-- The books with one more entry. -/
def withEntry (b : Books) (e : Entry) : Books :=
  { b with ledger := b.ledger ++ [e], sequences.entry := b.sequences.entry + 1 }

/-- The books after an account came by one more of an item: its holding is raised by one, or
made if there was none. -/
def gain (b : Books) (account : AccountId) (item : ItemId) (now : Instant) : Books :=
  if (b.holding? account item).isSome then
    { b with
      holdings := b.holdings.map fun h =>
        if h.account = account ∧ h.item = item then { h with quantity := h.quantity + 1 } else h }
  else
    { b with
      holdings := b.holdings ++ [⟨b.sequences.holding + 1, account, item, 1, now⟩]
      sequences.holding := b.sequences.holding + 1 }

/-- No two accounts have the same number. -/
def Keyed (b : Books) : Prop :=
  (b.accounts.map (·.id)).Nodup

instance (b : Books) : Decidable b.Keyed :=
  inferInstanceAs (Decidable (List.Nodup _))

end Books

/-- All that a command can do to the books when it ends with an outcome. -/
inductive Effect (e : Engine) (b : Books) : Command → Outcome → Books → Prop
  | look {c : Command} {o : Outcome} (h : c.isRead = true) : Effect e b c o b
  | register {username password : String} {salt : Salt} {new : NewAccount} (now : Instant)
      (accepted : e.newAccount? username password salt = .ok new)
      (fresh : b.accountByName? new.username = none) :
      Effect e b (.register username password salt)
        (.account (new.toAccount (b.sequences.account + 1) now))
        (b.withAccount (new.toAccount (b.sequences.account + 1) now))
  /-- Somebody who has an account is let in. -/
  | signIn {username password : String} {salt : Salt} {a : Account}
      (known : b.accountByName? (canonicalUsername username) = some a)
      (verified : verifyPassword password a.passwordHash = true) :
      Effect e b (.signIn username password salt) (.account a) b
  /-- Somebody who has none is registered. -/
  | signUp {username password : String} {salt : Salt} {new : NewAccount} (now : Instant)
      (accepted : e.newAccount? username password salt = .ok new)
      (fresh : b.accountByName? new.username = none) :
      Effect e b (.signIn username password salt)
        (.account (new.toAccount (b.sequences.account + 1) now))
        (b.withAccount (new.toAccount (b.sequences.account + 1) now))
  | addItem {name : String} {price : Int} {new : NewItem} (now : Instant)
      (accepted : NewItem.of? name price = .ok new)
      (fresh : b.itemByName? new.name = none) :
      Effect e b (.addItem name price) (.item (new.toItem (b.sequences.item + 1) now))
        (b.withItem (new.toItem (b.sequences.item + 1) now))
  | transfer {id : AccountId} {name : String} {amount : Int} {deadline : Option Nat}
      {sender recipient : Account} {entry : Entry} {now : Instant}
      (source : b.account? id = some sender)
      (destination : b.accountByName? (canonicalUsername name) = some recipient)
      (apart : sender.id ≠ recipient.id) (positive : 0 < amount)
      (covered : amount ≤ sender.coins) (fits : recipient.coins + amount ≤ maxCoins)
      (recorded : entry =
        ⟨b.sequences.entry + 1, sender.id, recipient.id, amount, .transfer, none, now⟩) :
      Effect e b (.transfer id name amount deadline) (.entry entry)
        (((b.addCoins sender.id (-amount)).addCoins recipient.id amount).withEntry entry)
  | purchase {id : AccountId} {name : String} {deadline : Option Nat} {buyer : Account}
      {item : Item} {entry : Entry} {now : Instant} (acquired : Instant)
      (source : b.account? id = some buyer) (goods : b.itemByName? name = some item)
      (positive : 0 < item.price) (covered : item.price ≤ buyer.coins)
      (recorded : entry =
        ⟨b.sequences.entry + 1, buyer.id, buyer.id, item.price, .purchase, some item.id, now⟩) :
      Effect e b (.purchase id name deadline) (.entry entry)
        (((b.addCoins buyer.id (-item.price)).gain buyer.id item.id acquired).withEntry entry)

/-! ## Lookups -/

namespace Books

variable {b : Books} {id : AccountId} {a : Account}

theorem account?_mem (h : b.account? id = some a) : a ∈ b.accounts ∧ a.id = id :=
  ⟨List.mem_of_find?_eq_some h, by simpa using List.find?_some h⟩

theorem accountByName?_mem {name : String} (h : b.accountByName? name = some a) :
    a ∈ b.accounts ∧ a.username = name :=
  ⟨List.mem_of_find?_eq_some h, by simpa using List.find?_some h⟩

/-- The account of a number is the only one that has it. -/
theorem Keyed.eq_of_mem (hk : b.Keyed) {a' : Account} (ha : a ∈ b.accounts)
    (ha' : a' ∈ b.accounts) (h : a.id = a'.id) : a = a' :=
  List.inj_on_of_nodup_map hk ha ha' h

theorem Keyed.account?_eq (hk : b.Keyed) (ha : a ∈ b.accounts) : b.account? a.id = some a := by
  cases h : b.account? a.id with
  | none => simpa using List.find?_eq_none.mp h a ha
  | some a' =>
    obtain ⟨hm, he⟩ := account?_mem h
    rw [hk.eq_of_mem hm ha he]

/-- Setting the balance of an account is adding the difference. -/
theorem setCoins_eq_addCoins (hk : b.Keyed) (ha : b.account? id = some a) (x : Int) :
    b.setCoins id (a.coins + x) = b.addCoins id x := by
  unfold setCoins addCoins
  congr 1
  refine List.map_congr_left fun a' ha' => ?_
  split
  · rename_i he
    obtain ⟨hm, hid⟩ := account?_mem ha
    rw [hk.eq_of_mem ha' hm (he.trans hid.symm)]
  · rfl

/-- A debit takes the amount from an account that has it. -/
theorem debit_eq_some {amount : Int} {b' : Books} (hk : b.Keyed) (h : b.debit id amount = some b') :
    ∃ a, b.account? id = some a ∧ amount ≤ a.coins ∧ b' = b.addCoins id (-amount) := by
  unfold debit at h
  split at h
  · rename_i a ha
    split at h
    · rename_i hc
      refine ⟨a, ha, by simpa [Account.canAfford] using hc, ?_⟩
      rw [← setCoins_eq_addCoins hk ha, ← Int.sub_eq_add_neg]
      exact (Option.some.inj h).symm
    · cases h
  · cases h

/-- A credit gives the amount to an account that can hold it. -/
theorem credit_eq_some {amount : Int} {b' : Books} (hk : b.Keyed)
    (h : b.credit id amount = .ok (some b')) :
    ∃ a, b.account? id = some a ∧ a.coins + amount ≤ maxCoins ∧ b' = b.addCoins id amount := by
  unfold credit at h
  split at h
  · rename_i a ha
    split at h
    · rename_i hc
      refine ⟨a, ha, hc.2, ?_⟩
      rw [← setCoins_eq_addCoins hk ha]
      exact (Option.some.inj (Except.ok.inj h)).symm
    · cases h
  · cases h

section Gain

variable (account : AccountId) (item : ItemId) (now : Instant)

@[simp] theorem gain_accounts : (b.gain account item now).accounts = b.accounts := by
  unfold gain
  split <;> rfl

@[simp] theorem gain_ledger : (b.gain account item now).ledger = b.ledger := by
  unfold gain
  split <;> rfl

@[simp] theorem gain_lastAccount :
    (b.gain account item now).sequences.account = b.sequences.account := by
  unfold gain
  split <;> rfl

@[simp] theorem gain_lastEntry :
    (b.gain account item now).sequences.entry = b.sequences.entry := by
  unfold gain
  split <;> rfl

end Gain

/-- A raised holding is a gain of one. -/
theorem incrementHolding_eq_gain {account : AccountId} {item : ItemId} {b' : Books} (now : Instant)
    (h : b.incrementHolding account item = some b') : b' = b.gain account item now := by
  unfold incrementHolding at h
  split at h
  · rename_i hs
    rw [gain, hs]
    exact (Option.some.inj h).symm
  · cases h

/-- A new holding is a gain of one too. -/
theorem addHolding_eq_gain {account : AccountId} {item : ItemId} {x : Holding} {b' : Books}
    {now : Instant} (h : b.addHolding now account item = some (x, b')) :
    b' = b.gain account item now := by
  unfold addHolding at h
  split at h
  · cases h
  · rename_i hs
    rw [gain, hs]
    cases h
    rfl

/-- Either a holding was made, or the books are as they were. -/
theorem insertHolding_cases {account : AccountId} {item : ItemId} {x : Option Holding} {b' : Books}
    (h : b.Replies (.insertHolding account item) (.ok x) b') :
    (x.isSome = true → ∃ now, b' = b.gain account item now) ∧ (x = none → b' = b) := by
  cases x with
  | none => exact ⟨nofun, fun _ => h.insertHolding_none⟩
  | some x =>
    refine ⟨fun _ => ?_, nofun⟩
    obtain ⟨now, ha⟩ := h.insertHolding
    exact ⟨now, addHolding_eq_gain ha⟩

@[simp] theorem ids_addCoins (amount : Int) :
    (b.addCoins id amount).accounts.map (·.id) = b.accounts.map (·.id) := by
  simp only [addCoins, List.map_map]
  refine List.map_congr_left fun a _ => ?_
  simp only [Function.comp_apply]
  split <;> rfl

theorem Keyed.addCoins (hk : b.Keyed) (amount : Int) : (b.addCoins id amount).Keyed := by
  simpa only [Keyed, ids_addCoins] using hk

end Books

end Scrip
