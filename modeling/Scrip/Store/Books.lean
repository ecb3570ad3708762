import Scrip.Store.Request

/-!
# Books

All that is stored, kept as lists in the order of creation, with the number given last of each
kind.

* `Books.answer`: what the books answer to a request, and what they are afterwards. A request that
  fails leaves them as they were.
-/

namespace Scrip

/-- The numbers given last: to accounts, items, holdings and entries. -/
structure Sequences where
  account : Nat := 0
  item : Nat := 0
  holding : Nat := 0
  entry : Nat := 0
  deriving DecidableEq, Repr

/-- All that is stored. -/
structure Books where
  accounts : List Account := []
  items : List Item := []
  holdings : List Holding := []
  ledger : List Entry := []
  sequences : Sequences := {}
  deriving DecidableEq, Repr

namespace Books

/-- The account of a number. -/
def account? (b : Books) (id : AccountId) : Option Account :=
  b.accounts.find? (·.id == id)

/-- The account of a name. -/
def accountByName? (b : Books) (username : String) : Option Account :=
  b.accounts.find? (·.username == username)

/-- The item of a number. -/
def item? (b : Books) (id : ItemId) : Option Item :=
  b.items.find? (·.id == id)

/-- The item of a name. -/
def itemByName? (b : Books) (name : String) : Option Item :=
  b.items.find? (·.name == name)

/-- The holding of an account and an item. -/
def holding? (b : Books) (account : AccountId) (item : ItemId) : Option Holding :=
  b.holdings.find? fun h => h.account == account && h.item == item

/-- The holdings of an account, by number. -/
def holdingsOf (b : Books) (account : AccountId) : List Holding :=
  b.holdings.filter (·.account == account)

/-- The entries that involve an account, newest first. -/
def entriesFor (b : Books) (account : AccountId) : List Entry :=
  (b.ledger.filter (·.involves account)).mergeSort Entry.isBefore

/-- The books with another balance of an account. -/
def setCoins (b : Books) (id : AccountId) (coins : Int) : Books :=
  { b with accounts := b.accounts.map fun a => if a.id = id then { a with coins } else a }

/-- Takes an amount from an account whose balance covers it. -/
def debit (b : Books) (id : AccountId) (amount : Int) : Option Books :=
  match b.account? id with
  | some a => if a.canAfford amount then some (b.setCoins id (a.coins - amount)) else none
  | none => none

/-- A balance that no number can hold. -/
def overflow (id : AccountId) : StoreError :=
  .corrupted ("balance overflow on account " ++ toString id)

/-- Adds an amount to an account, if there is one of the number. -/
def credit (b : Books) (id : AccountId) (amount : Int) : Except StoreError (Option Books) :=
  match b.account? id with
  | some a =>
    if -maxCoins - 1 ≤ a.coins + amount ∧ a.coins + amount ≤ maxCoins then
      .ok (some (b.setCoins id (a.coins + amount)))
    else .error (overflow id)
  | none => .ok none

/-- One more account. -/
def addAccount (b : Books) (now : Instant) (account : NewAccount) : Account × Books :=
  let account := account.toAccount (b.sequences.account + 1) now
  (account,
    { b with
      accounts := b.accounts ++ [account]
      sequences.account := b.sequences.account + 1 })

/-- One more item. -/
def addItem (b : Books) (now : Instant) (item : NewItem) : Item × Books :=
  let item := item.toItem (b.sequences.item + 1) now
  (item,
    { b with
      items := b.items ++ [item]
      sequences.item := b.sequences.item + 1 })

/-- One more of an item that an account holds already. -/
def incrementHolding (b : Books) (account : AccountId) (item : ItemId) : Option Books :=
  match b.holding? account item with
  | some _ =>
    some { b with
      holdings := b.holdings.map fun h =>
        if h.account = account ∧ h.item = item then { h with quantity := h.quantity + 1 } else h }
  | none => none

/-- The first of an item that an account comes by. -/
def addHolding (b : Books) (now : Instant) (account : AccountId) (item : ItemId) :
    Option (Holding × Books) :=
  match b.holding? account item with
  | some _ => none
  | none =>
    let holding : Holding := ⟨b.sequences.holding + 1, account, item, 1, now⟩
    some (holding,
      { b with
        holdings := b.holdings ++ [holding]
        sequences.holding := b.sequences.holding + 1 })

/-- One more entry. -/
def append (b : Books) (now : Instant) (entry : NewEntry) : Entry × Books :=
  let entry := entry.toEntry (b.sequences.entry + 1) now
  (entry,
    { b with
      ledger := b.ledger ++ [entry]
      sequences.entry := b.sequences.entry + 1 })

/-- Whether something was changed, and the books afterwards. -/
def changed (b : Books) : Option Books → Bool × Books
  | some b' => (true, b')
  | none => (false, b)

/-- What the books answer to a request at a time, and what they are afterwards. -/
def answer (now : Instant) (b : Books) : (r : Request) → Except StoreError (r.Answer × Books)
  | .account id | .lockAccount id => .ok (b.account? id, b)
  | .accountByName username => .ok (b.accountByName? username, b)
  | .insertAccount account =>
    if (b.accountByName? account.username).isSome then
      .error (.conflict ("users: " ++ account.username))
    else .ok (b.addAccount now account)
  | .debit id amount => .ok (b.changed (b.debit id amount))
  | .credit id amount => (b.credit id amount).map b.changed
  | .item id => .ok (b.item? id, b)
  | .itemByName name => .ok (b.itemByName? name, b)
  | .items => .ok (b.items, b)
  | .insertItem item =>
    if (b.itemByName? item.name).isSome then
      .error (.conflict ("merch_items: " ++ item.name))
    else .ok (b.addItem now item)
  | .holding account item => .ok (b.holding? account item, b)
  | .holdings account => .ok (b.holdingsOf account, b)
  | .incrementHolding account item => .ok (b.changed (b.incrementHolding account item))
  | .insertHolding account item =>
    match b.addHolding now account item with
    | some (holding, b') => .ok (some holding, b')
    | none => .ok (none, b)
  | .append entry => .ok (b.append now entry)
  | .entriesFor account => .ok (b.entriesFor account, b)

end Books

end Scrip
