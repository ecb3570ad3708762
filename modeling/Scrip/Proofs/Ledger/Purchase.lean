import Scrip.Proofs.Engine.Movement

/-!
# What becomes of a purchase

A purchase is refused for the first of four reasons that applies, or it is made
(`Books.PurchaseEnds`). The item is looked for before its buyer, and its price is looked at before
the balance. A store in memory may offer items at prices that are not positive: these are never
sold.

* `Books.move_ofSale`: what the entry of a purchase tells of, record by record;
* `purchase_decides`: every purchase from any state that a store can be in, on either store.
-/

namespace Scrip

/-- The books after an account paid an amount, as an entry tells. -/
def Books.paid (b : Books) (buyer : AccountId) (amount : Int) (x : Entry) : Books :=
  { b with
    accounts := b.accounts.map fun a =>
      if a.id = buyer then { a with coins := a.coins - amount } else a
    ledger := b.ledger ++ [x]
    sequences.entry := b.sequences.entry + 1 }

/-- How the purchase of an item of a name ends, and the books afterwards: it is refused for the
first reason that applies, or it is made. -/
inductive Books.PurchaseEnds (b : Books) (id : AccountId) (name : String) :
    Except Error Entry → Books → Prop
  | noItem (h : b.itemByName? name = none) :
      PurchaseEnds b id name (.error (.itemNotFound name)) b
  | noBuyer {item : Item} (goods : b.itemByName? name = some item) (h : b.account? id = none) :
      PurchaseEnds b id name (.error (.accountNotFound ("id " ++ toString id))) b
  | notForSale {item : Item} {buyer : Account} (goods : b.itemByName? name = some item)
      (source : b.account? id = some buyer) (h : item.price ≤ 0) : PurchaseEnds b id name
      (.error (.invalidAmount ("amount must be > 0, got " ++ toString item.price))) b
  | uncovered {item : Item} {buyer : Account} (goods : b.itemByName? name = some item)
      (source : b.account? id = some buyer) (positive : 0 < item.price)
      (h : buyer.coins < item.price) : PurchaseEnds b id name
      (.error (.insufficientFunds (buyer.username ++ " has " ++ toString buyer.coins ++
        " coins, " ++ item.name ++ " costs " ++ toString item.price))) b
  /-- The first of an item that the buyer comes by. -/
  | first {item : Item} {buyer : Account} {x : Entry} (now acquired : Instant)
      (goods : b.itemByName? name = some item) (source : b.account? id = some buyer)
      (positive : 0 < item.price) (covered : item.price ≤ buyer.coins)
      (unheld : b.holding? buyer.id item.id = none)
      (noted : x = ⟨b.sequences.entry + 1, buyer.id, buyer.id, item.price, .purchase,
        some item.id, now⟩) :
      PurchaseEnds b id name (.ok x)
        { b.paid buyer.id item.price x with
          holdings := b.holdings ++ [⟨b.sequences.holding + 1, buyer.id, item.id, 1, acquired⟩]
          sequences := { b.sequences with
            holding := b.sequences.holding + 1
            entry := b.sequences.entry + 1 } }
  /-- One more of an item that the buyer holds already. -/
  | more {item : Item} {buyer : Account} {held : Holding} {x : Entry} (now : Instant)
      (goods : b.itemByName? name = some item) (source : b.account? id = some buyer)
      (positive : 0 < item.price) (covered : item.price ≤ buyer.coins)
      (holds : b.holding? buyer.id item.id = some held)
      (noted : x = ⟨b.sequences.entry + 1, buyer.id, buyer.id, item.price, .purchase,
        some item.id, now⟩) :
      PurchaseEnds b id name (.ok x)
        { b.paid buyer.id item.price x with
          holdings := b.holdings.map fun h =>
            if h.account = buyer.id ∧ h.item = item.id then { h with quantity := h.quantity + 1 }
            else h }

theorem NewEntry.purchase?_eq_error {account : AccountId} {amount : Int} {item : ItemId}
    {e : Error} (h : NewEntry.purchase? account amount item = .error e) :
    amount ≤ 0 ∧ e = .invalidAmount ("amount must be > 0, got " ++ toString amount) := by
  rw [purchase?] at h
  split at h <;> cases h
  exact ⟨‹_›, rfl⟩

namespace Books

variable {b b' : Books}

theorem addCoins_neg (id : AccountId) (amount : Int) (x : Entry) :
    (b.addCoins id (-amount)).withEntry x = b.paid id amount x := by
  have minus (a : Account) : a.coins + -amount = a.coins - amount := Int.sub_eq_add_neg.symm
  simp only [addCoins, withEntry, paid, minus]

/-- What the entry of a purchase tells of: the price is paid, and the buyer has one item more. -/
theorem move_ofSale {buyer : Account} {item : Item} (id : EntryId) (now acquired : Instant) :
    let x := (NewEntry.ofSale (buyer, item)).toEntry id now
    b.move x acquired = { b.paid buyer.id item.price x with
      holdings := (b.gain buyer.id item.id acquired).holdings
      sequences := { b.sequences with
        holding := (b.gain buyer.id item.id acquired).sequences.holding
        entry := b.sequences.entry + 1 } } := by
  intro x
  rw [← addCoins_neg]
  show ((b.addCoins buyer.id (-item.price)).gain buyer.id item.id acquired).withEntry x = _
  have same : (b.addCoins buyer.id (-item.price)).holding? buyer.id item.id =
      b.holding? buyer.id item.id := rfl
  unfold gain
  rw [same]
  split <;> rfl

/-- A purchase that is refused is refused for the first reason that applies. -/
theorem purchaseEnds_of_purchasable {id : AccountId} {name : String} {e : Error}
    (h : b.purchasable id name = .error e) : b.PurchaseEnds id name (.error e) b := by
  unfold purchasable at h
  split at h
  · rename_i unknown
    cases h
    exact .noItem unknown
  · rename_i goods unknown
    cases h
    exact .noBuyer goods unknown
  · rename_i item buyer goods source
    split at h
    · rename_i refused
      cases h
      obtain ⟨notPositive, rfl⟩ := NewEntry.purchase?_eq_error refused
      exact .notForSale goods source notPositive
    · rename_i accepted
      have positive := (NewEntry.purchase?_eq_ok accepted).1
      split at h <;> cases h
      exact .uncovered goods source positive ‹_›

/-- A purchase ends as its verdict says. -/
theorem Carries.purchaseEnds {id : AccountId} {name : String} {o : Except Error Entry}
    (h : b.Carries (b.verdict (.purchase id name)) o b') : b.PurchaseEnds id name o b' := by
  cases h with
  | made now acquired ok =>
    cases permits_of_verdict ok with
    | @purchase _ _ buyer item source goods positive covered =>
      rw [move_ofSale]
      unfold gain
      cases holding : b.holding? buyer.id item.id with
      | none => exact .first now acquired goods source positive covered holding rfl
      | some held => exact .more now goods source positive covered holding rfl
  | refused refusal =>
    rw [verdict] at refusal
    cases h : b.purchasable id name with
    | ok => rw [h] at refusal; cases refusal
    | error e =>
      rw [h] at refusal
      cases refusal
      exact purchaseEnds_of_purchasable h

end Books

/-- Whatever the state of a store, a purchase that the store is alone with ends as `PurchaseEnds`
says: it is refused for the first reason that applies and changes nothing, or the buyer has the
price less and one item more, one entry says so, and all else is as it was. -/
theorem purchase_decides (e : Engine) {k : Backend} (applied : Option (Table String)) {b : Books}
    (admits : k.Admits b) (now : Instant) (clock : Nat → Instant) (id : AccountId)
    (item : String) (deadline : Option Nat) :
    let start : Storage k.State := { committed := k.hold applied b, now }
    let ended := (e.purchase id item deadline).run (Storage.clocked k.keeper clock) (start, 0)
    ∃ b', ended.2.1.committed = k.hold applied b' ∧ ended.2.1.working = none ∧
      b.PurchaseEnds id item ended.1 b' := by
  intro start ended
  have begun : Backend.Rests applied k start b := .start admits now
  obtain ⟨b', rests, carries⟩ := Backend.Rests.exchange e deadline (.purchase id item) clock
    (t := (start, 0)) begun
  exact ⟨b', rests.committed, rests.working, carries.purchaseEnds⟩

/-- Somebody spends the last coins on one more cup, with a gift on offer that is not for sale. -/
theorem purchase_decides_cup :
    let b : Books :=
      { accounts := [⟨1, "ann", "", 20, default⟩]
        items := [⟨1, "cup", 20, default⟩, ⟨2, "gift", 0, default⟩]
        holdings := [⟨1, 1, 1, 3, default⟩]
        sequences := { account := 1, item := 2, holding := 1 } }
    let start : Storage Backend.memory.State := { committed := b, now := default }
    let ended := (Engine.purchase {} 1 "cup" none).run
      (Storage.clocked Backend.memory.keeper fun _ => default) (start, 0)
    Backend.memory.Admits b ∧ ∃ b', ended.2.1.committed = b' ∧ ended.2.1.working = none ∧
      b.PurchaseEnds 1 "cup" ended.1 b' := by
  intro b start ended
  have bounded : ∀ a ∈ b.accounts, -maxCoins - 1 ≤ a.coins ∧ a.coins ≤ maxCoins := by decide
  have representable : b.Representable := ⟨by show [(1 : AccountId)].Nodup; decide, bounded⟩
  exact ⟨representable, purchase_decides {} none (k := .memory) representable default
    (fun _ => default) 1 "cup" none⟩

end Scrip
