import Scrip.Error
import Scrip.Text.Blank
import Scrip.Time.Instant

/-!
# Catalog items

The merchandise that coins buy.

* `NewItem.of?`: a name and a price become an item when the name is not blank and the price is
  positive; the name is looked at first.
-/

namespace Scrip

/-- The number a store gives to an item. -/
abbrev ItemId := Int

/-- Something that can be bought. An item never changes. -/
structure Item where
  id : ItemId
  name : String
  price : Int
  createdAt : Instant
  deriving DecidableEq, Repr

/-- An item that no store has numbered yet. -/
structure NewItem where
  name : String
  price : Int
  deriving DecidableEq, Repr

namespace NewItem

/-- An item of the trimmed name, when that is not empty and the price is positive. -/
def of? (name : String) (price : Int) : Except Error NewItem :=
  let name := Text.trim name
  if name.isEmpty then .error (.invalidInput "item name must not be empty")
  else if price ≤ 0 then
    .error (.invalidAmount ("price of \"" ++ name ++ "\" must be > 0"))
  else .ok ⟨name, price⟩

/-- The item as a store keeps it. -/
def toItem (i : NewItem) (id : ItemId) (now : Instant) : Item :=
  ⟨id, i.name, i.price, now⟩

end NewItem

end Scrip
