import Scrip.Account
import Scrip.Item

/-!
# Holdings

How many of an item an account owns. There is at most one holding for an account and an item.
-/

namespace Scrip

/-- The number a store gives to a holding. -/
abbrev HoldingId := Int

/-- An account's stock of one item, and when it first came by one. -/
structure Holding where
  id : HoldingId
  account : AccountId
  item : ItemId
  quantity : Int
  acquiredAt : Instant
  deriving DecidableEq, Repr

/-- A holding with the name of the item in place of its number. -/
structure OwnedItem where
  item : String
  quantity : Int
  deriving DecidableEq, Repr

end Scrip
