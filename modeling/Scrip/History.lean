import Scrip.Ledger

/-!
# Histories

The ledger as one account sees it: what it received and what it sent, newest first.

* `History.ofEntries`: every entry gives at most one line, on one side. A line needs the name of
  the other party; a purchase names the owner itself, and the item when that can be named.
-/

namespace Scrip

/-- One entry from the owner's side. The counterparty is the sender of received coins and the
recipient of sent ones; for a purchase it is the owner. -/
structure HistoryLine where
  id : EntryId
  counterparty : String
  amount : Int
  kind : EntryKind
  item : Option String
  createdAt : Instant
  deriving DecidableEq, Repr

/-- What an account received and what it sent. -/
structure History where
  received : List HistoryLine
  sent : List HistoryLine
  deriving DecidableEq, Repr

/-- Names found for numbers. -/
abbrev Names := List (Int × String)

/-- The side of a history that an entry belongs to, with the other party. -/
inductive Side where
  | received (sender : AccountId)
  | sent (recipient : AccountId)
  deriving DecidableEq, Repr

namespace Entry

/-- The side on which the owner sees the entry, if it concerns the owner at all. -/
def sideFor (owner : AccountId) (e : Entry) : Option Side :=
  match e.kind with
  | .purchase => if e.source = owner then some (.sent owner) else none
  | .transfer =>
    if e.source = owner then some (.sent e.destination)
    else if e.destination = owner then some (.received e.source)
    else none

/-- The line of an entry once the counterparty is known. -/
def lineFor (counterparty : String) (items : Names) (e : Entry) : HistoryLine :=
  ⟨e.id, counterparty, e.amount, e.kind, e.item.bind fun i => items.lookup i, e.createdAt⟩

end Entry

namespace History

/-- The name under which a party appears in the owner's history. -/
def partyName (owner : Account) (names : Names) (party : AccountId) : Option String :=
  if party = owner.id then some owner.username else names.lookup party

/-- The line an entry gives among the received coins. -/
def receivedLine? (owner : Account) (names items : Names) (e : Entry) : Option HistoryLine :=
  match e.sideFor owner.id with
  | some (.received sender) => (partyName owner names sender).map (e.lineFor · items)
  | _ => none

/-- The line an entry gives among the sent coins. -/
def sentLine? (owner : Account) (names items : Names) (e : Entry) : Option HistoryLine :=
  match e.sideFor owner.id with
  | some (.sent recipient) => (partyName owner names recipient).map (e.lineFor · items)
  | _ => none

/-- The history of an owner over some entries, with the names found for parties and items. -/
def ofEntries (owner : Account) (entries : List Entry) (names items : Names) : History :=
  let newestFirst := entries.mergeSort Entry.isBefore
  ⟨newestFirst.filterMap (receivedLine? owner names items),
   newestFirst.filterMap (sentLine? owner names items)⟩

end History

end Scrip
