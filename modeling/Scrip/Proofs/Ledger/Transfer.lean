import Scrip.Proofs.Engine.Movement

/-!
# What becomes of a transfer

A transfer is refused for the first of six reasons that applies, or it is made
(`Books.TransferEnds`). The reasons are looked for in the order in which they are listed there,
and only a transfer that is made changes anything.

* `transfer_decides`: every transfer from any state that a store can be in, on either store.
-/

namespace Scrip

open Credential

/-- The books after an amount went from one account to another, as an entry tells. -/
def Books.transferred (b : Books) (source destination : AccountId) (amount : Int) (x : Entry) :
    Books :=
  { b with
    accounts := b.accounts.map fun a =>
      if a.id = source then { a with coins := a.coins - amount }
      else if a.id = destination then { a with coins := a.coins + amount }
      else a
    ledger := b.ledger ++ [x]
    sequences.entry := b.sequences.entry + 1 }

/-- How a transfer from an account to the one of a name ends, and the books afterwards: refused
for the first reason that applies, or made. -/
inductive Books.TransferEnds (b : Books) (id : AccountId) (name : String) (amount : Int) :
    Except Error Entry → Books → Prop
  | notPositive (h : amount ≤ 0) : TransferEnds b id name amount
      (.error (.invalidAmount ("amount must be > 0, got " ++ toString amount))) b
  | noSender (positive : 0 < amount) (h : b.account? id = none) :
      TransferEnds b id name amount (.error (.accountNotFound ("id " ++ toString id))) b
  | noRecipient {sender : Account} (positive : 0 < amount) (source : b.account? id = some sender)
      (h : b.accountByName? name = none) :
      TransferEnds b id name amount (.error (.accountNotFound name)) b
  | toOneself {account : Account} (positive : 0 < amount) (source : b.account? id = some account)
      (h : b.accountByName? name = some account) : TransferEnds b id name amount
      (.error (.invalidRecipient "cannot transfer coins to the same account")) b
  | uncovered {sender recipient : Account} (positive : 0 < amount)
      (source : b.account? id = some sender) (destination : b.accountByName? name = some recipient)
      (apart : sender.id ≠ recipient.id) (h : sender.coins < amount) :
      TransferEnds b id name amount (.error (.insufficientFunds (sender.username ++ " has " ++
        toString sender.coins ++ " coins, " ++ toString amount ++ " needed"))) b
  | full {sender recipient : Account} (positive : 0 < amount)
      (source : b.account? id = some sender) (destination : b.accountByName? name = some recipient)
      (apart : sender.id ≠ recipient.id) (covered : amount ≤ sender.coins)
      (h : maxCoins < recipient.coins + amount) :
      TransferEnds b id name amount (.error (.invalidAmount ("balance of " ++
        recipient.username ++ " cannot hold " ++ toString amount ++ " more coins"))) b
  | made {sender recipient : Account} {x : Entry} (now : Instant) (positive : 0 < amount)
      (source : b.account? id = some sender) (destination : b.accountByName? name = some recipient)
      (apart : sender.id ≠ recipient.id) (covered : amount ≤ sender.coins)
      (fits : recipient.coins + amount ≤ maxCoins)
      (noted : x = ⟨b.sequences.entry + 1, sender.id, recipient.id, amount, .transfer, none, now⟩) :
      TransferEnds b id name amount (.ok x) (b.transferred sender.id recipient.id amount x)

theorem NewEntry.transfer?_eq_error {source destination : AccountId} {amount : Int} {e : Error}
    (positive : 0 < amount) (h : NewEntry.transfer? source destination amount = .error e) :
    source = destination ∧
      e = .invalidRecipient "cannot transfer coins to the same account" := by
  rw [transfer?, if_neg (Int.not_le.mpr positive)] at h
  split at h <;> cases h
  exact ⟨‹_›, rfl⟩

namespace Books

variable {b b' : Books}

/-- The movement that the entry of a transfer tells of. -/
theorem move_between {amount : Int} {s r : Account} (apart : s.id ≠ r.id) (id : EntryId)
    (now acquired : Instant) :
    let x := (NewEntry.between amount (s, r)).toEntry id now
    b.move x acquired = b.transferred s.id r.id amount x := by
  intro x
  have accounts : (b.move x acquired).accounts =
      (b.transferred s.id r.id amount x).accounts := by
    rw [accounts_move]
    refine List.map_congr_left fun a _ => ?_
    rw [NewEntry.bare_toEntry, NewEntry.change_between]
    by_cases hs : a.id = s.id
    · rw [if_pos hs, if_pos hs.symm, if_neg fun hr => apart (hs.symm.trans hr.symm),
        Int.add_zero]
      rfl
    · rw [if_neg hs, if_neg (Ne.symm hs), Int.zero_add]
      by_cases hr : a.id = r.id
      · rw [if_pos hr, if_pos hr.symm]
        rfl
      · rw [if_neg hr, if_neg (Ne.symm hr), Account.plus_zero]
  exact congrArg (fun accounts => ({ b with
    accounts
    ledger := b.ledger ++ [x]
    sequences.entry := b.sequences.entry + 1 } : Books)) accounts

/-- A transfer of a positive amount is refused for the first reason that applies. -/
theorem transferEnds_of_transferable (hk : b.Keyed) {id : AccountId} {name : String}
    {amount : Int} {e : Error} (positive : 0 < amount)
    (h : b.transferable id name amount = .error e) :
    b.TransferEnds id name amount (.error e) b := by
  unfold transferable at h
  split at h
  · rename_i unknown
    cases h
    exact .noSender positive unknown
  · rename_i source unknown
    cases h
    exact .noRecipient positive source unknown
  · rename_i sender recipient source destination
    split at h
    · rename_i refused
      cases h
      obtain ⟨same, rfl⟩ := NewEntry.transfer?_eq_error positive refused
      obtain rfl := hk.eq_of_mem (account?_mem source).1 (accountByName?_mem destination).1 same
      exact .toOneself positive source destination
    · rename_i accepted
      have apart := (NewEntry.transfer?_eq_ok accepted).2.1
      split at h
      · cases h
        exact .uncovered positive source destination apart ‹_›
      · split at h <;> cases h
        exact .full positive source destination apart (Int.not_lt.mp ‹_›) ‹_›

/-- A transfer ends as its verdict says. -/
theorem Carries.transferEnds (hk : b.Keyed) {id : AccountId} {name : String} {amount : Int}
    {o : Except Error Entry} (h : b.Carries (b.verdict (.transfer id name amount)) o b') :
    b.TransferEnds id (canonicalUsername name) amount o b' := by
  cases h with
  | made now acquired ok =>
    cases permits_of_verdict ok with
    | transfer source destination positive apart covered fits =>
      rw [move_between apart]
      exact .made now positive source destination apart covered fits rfl
  | refused refusal =>
    by_cases positive : 0 < amount
    · rw [verdict_transfer_of_pos positive] at refusal
      cases h : b.transferable id (canonicalUsername name) amount with
      | ok => rw [h] at refusal; cases refusal
      | error e =>
        rw [h] at refusal
        cases refusal
        exact transferEnds_of_transferable hk positive h
    · cases (if_pos (Int.not_lt.mp positive)).symm.trans refusal
      exact .notPositive (Int.not_lt.mp positive)

end Books

/-- Whatever the state of a store, a transfer that the store is alone with ends as `TransferEnds`
says: it is refused for the first reason that applies and changes nothing, or the sender has the
amount less, the recipient has it more and one entry says so. An amount that is not positive is
refused without asking the store. -/
theorem transfer_decides (e : Engine) {k : Backend} (applied : Option (Table String)) {b : Books}
    (admits : k.Admits b) (now : Instant) (clock : Nat → Instant) (id : AccountId)
    (recipient : String) (amount : Int) (deadline : Option Nat) :
    let start : Storage k.State := { committed := k.hold applied b, now }
    let party := Storage.clocked k.keeper clock
    let transfer := e.transfer id recipient amount deadline
    let ended := transfer.run party (start, 0)
    (∃ b', ended.2.1.committed = k.hold applied b' ∧ ended.2.1.working = none ∧
      b.TransferEnds id (canonicalUsername recipient) amount ended.1 b') ∧
    (amount ≤ 0 → transfer.transcript party (start, 0) = []) := by
  intro start party transfer ended
  refine ⟨?_, fun notPositive => ?_⟩
  · have begun : Backend.Rests applied k start b := .start admits now
    obtain ⟨b', rests, carries⟩ := Backend.Rests.exchange e deadline
      (.transfer id recipient amount) clock (t := (start, 0)) begun
    exact ⟨b', rests.committed, rests.working, carries.transferEnds admits.keyed⟩
  · have refused : transfer = .done (.error (.amountNotPositive amount)) := if_pos notPositive
    rw [refused]
    rfl

/-- Two accounts in tables, of which one sends to the other all that it has. -/
theorem transfer_decides_ann :
    let b : Books :=
      { accounts := [⟨1, "ann", "", 40, default⟩, ⟨2, "bob", "", maxCoins - 40, default⟩]
        sequences := { account := 2 } }
    let start : Storage Backend.tables.State := { committed := b.tables none, now := default }
    let party := Storage.clocked Backend.tables.keeper fun _ => default
    let transfer := Engine.transfer {} 1 "bob" 40 none
    let ended := transfer.run party (start, 0)
    Backend.tables.Admits b ∧
      (∃ b', ended.2.1.committed = Backend.tables.hold none b' ∧ ended.2.1.working = none ∧
        b.TransferEnds 1 (canonicalUsername "bob") 40 ended.1 b') ∧
      ((40 : Int) ≤ 0 → transfer.transcript party (start, 0) = []) := by
  intro b start party transfer ended
  have bounded : ∀ a ∈ b.accounts, 0 ≤ a.coins ∧ a.coins ≤ maxCoins := by decide
  have storable : b.Storable := ⟨⟨by decide, by decide⟩, bounded, ⟨by decide, nofun⟩, nofun⟩
  exact ⟨storable, transfer_decides {} none (k := .tables) storable default (fun _ => default) 1
    "bob" 40 none⟩

end Scrip
