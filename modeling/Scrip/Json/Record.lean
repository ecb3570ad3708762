import Scrip.Engine.Statement
import Scrip.History
import Scrip.Holding
import Scrip.Json.Text
import Scrip.Time.Rfc3339

/-!
# Records in JSON

Accounts, items, entries, holdings, histories and statements as JSON objects. The password hash of
an account is left out.
-/

namespace Scrip

open Json (Text)

/-- An instant in JSON. -/
def Instant.toJson (t : Instant) : Text :=
  Json.string t.toRfc3339

/-- An account in JSON, without its password hash. -/
def Account.toJson (a : Account) : Text :=
  Json.object [
    ("id", Json.integer a.id),
    ("username", Json.string a.username),
    ("coins", Json.integer a.coins),
    ("created_at", a.createdAt.toJson)]

/-- An item in JSON. -/
def Item.toJson (i : Item) : Text :=
  Json.object [
    ("id", Json.integer i.id),
    ("name", Json.string i.name),
    ("price", Json.integer i.price),
    ("created_at", i.createdAt.toJson)]

/-- The kind of an entry in JSON. -/
def EntryKind.toJson (k : EntryKind) : Text :=
  Json.string k.name

/-- A ledger entry in JSON. -/
def Entry.toJson (e : Entry) : Text :=
  Json.object [
    ("id", Json.integer e.id),
    ("from_account", Json.integer e.source),
    ("to_account", Json.integer e.destination),
    ("amount", Json.integer e.amount),
    ("kind", e.kind.toJson),
    ("item_id", e.item.elim Json.null Json.integer),
    ("created_at", e.createdAt.toJson)]

/-- A holding in JSON. -/
def Holding.toJson (h : Holding) : Text :=
  Json.object [
    ("id", Json.integer h.id),
    ("account_id", Json.integer h.account),
    ("item_id", Json.integer h.item),
    ("quantity", Json.integer h.quantity),
    ("acquired_at", h.acquiredAt.toJson)]

/-- An owned item in JSON. -/
def OwnedItem.toJson (o : OwnedItem) : Text :=
  Json.object [
    ("item", Json.string o.item),
    ("quantity", Json.integer o.quantity)]

/-- A line of a history in JSON. -/
def HistoryLine.toJson (l : HistoryLine) : Text :=
  Json.object [
    ("id", Json.integer l.id),
    ("counterparty", Json.string l.counterparty),
    ("amount", Json.integer l.amount),
    ("kind", l.kind.toJson),
    ("item", l.item.elim Json.null Json.string),
    ("created_at", l.createdAt.toJson)]

/-- A history in JSON. -/
def History.toJson (h : History) : Text :=
  Json.object [
    ("received", Json.array (h.received.map HistoryLine.toJson)),
    ("sent", Json.array (h.sent.map HistoryLine.toJson))]

/-- A statement in JSON. -/
def Statement.toJson (s : Statement) : Text :=
  Json.object [
    ("account", s.account.toJson),
    ("inventory", Json.array (s.inventory.map OwnedItem.toJson)),
    ("history", s.history.toJson)]

end Scrip
