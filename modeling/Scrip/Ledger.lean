import Scrip.Account
import Scrip.Error
import Scrip.Item

/-!
# Ledger entries

The records of coins that moved. A transfer moves them between two accounts. A purchase has the
buyer on both sides and names the item.

* `NewEntry.transfer?`, `NewEntry.purchase?`: the only ways to make an entry, which check that
  the amount is positive and, for a transfer, that the accounts differ.
* `Entry.isBefore`: the order of a history, newest first and equal times in the order of ids.
-/

namespace Scrip

/-- The number a store gives to a ledger entry. -/
abbrev EntryId := Int

/-- What kind of movement an entry records. -/
inductive EntryKind where
  | transfer
  | purchase
  deriving DecidableEq, Repr

namespace EntryKind

/-- The word for a kind, in tables and in JSON. -/
def name : EntryKind → String
  | transfer => "transfer"
  | purchase => "purchase"

/-- The kind that a word names exactly. -/
def ofName? (word : String) : Except Error EntryKind :=
  if word = "transfer" then .ok transfer
  else if word = "purchase" then .ok purchase
  else .error (.invalidInput ("invalid ledger entry kind: " ++ word))

theorem ofName?_name (k : EntryKind) : ofName? k.name = .ok k := by
  cases k <;> rfl

end EntryKind

/-- One movement of coins. Entries are appended and never changed. -/
structure Entry where
  id : EntryId
  source : AccountId
  destination : AccountId
  amount : Int
  kind : EntryKind
  item : Option ItemId
  createdAt : Instant
  deriving DecidableEq, Repr

namespace Entry

/-- Whether an account is on either side of the entry. -/
def involves (e : Entry) (account : AccountId) : Bool :=
  e.source == account || e.destination == account

/-- Newest first; entries of the same time by ascending id. -/
def isBefore (a b : Entry) : Bool :=
  if a.createdAt.isAfter b.createdAt then true
  else if b.createdAt.isAfter a.createdAt then false
  else a.id ≤ b.id

end Entry

/-- An entry that no store has numbered and dated yet. -/
structure NewEntry where
  source : AccountId
  destination : AccountId
  amount : Int
  kind : EntryKind
  item : Option ItemId
  deriving DecidableEq, Repr

/-- The refusal of an amount that is not positive. -/
def Error.amountNotPositive (amount : Int) : Error :=
  .invalidAmount ("amount must be > 0, got " ++ toString amount)

namespace NewEntry

/-- A transfer of a positive amount between two different accounts. -/
def transfer? (source destination : AccountId) (amount : Int) : Except Error NewEntry :=
  if amount ≤ 0 then .error (.amountNotPositive amount)
  else if source = destination then
    .error (.invalidRecipient "cannot transfer coins to the same account")
  else .ok ⟨source, destination, amount, .transfer, none⟩

/-- A purchase: the account pays a positive amount for the item. -/
def purchase? (account : AccountId) (amount : Int) (item : ItemId) : Except Error NewEntry :=
  if amount ≤ 0 then .error (.amountNotPositive amount)
  else .ok ⟨account, account, amount, .purchase, some item⟩

/-- The entry as a store keeps it. -/
def toEntry (e : NewEntry) (id : EntryId) (now : Instant) : Entry :=
  ⟨id, e.source, e.destination, e.amount, e.kind, e.item, now⟩

end NewEntry

end Scrip
