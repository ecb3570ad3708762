import Scrip.Engine.Basic

/-!
# The catalog

The items on offer.

* `Engine.catalog`: all of them, by number.
* `Engine.addItem`: one more, unless there is one of the name.
-/

namespace Scrip.Engine

open Work

/-- All items, by number. -/
def catalog (e : Engine) : Exchange (Except Error (List Item)) :=
  e.unit .catalog (call .items)

/-- Adds an item, unless its name is taken. -/
def insertNewItem (item : NewItem) : Work Item := do
  if (← call (.itemByName item.name)).isSome then
    refuse (.itemAlreadyExists item.name)
  match ← attempt (.insertItem item) with
  | .ok inserted => pure inserted
  | .error (.conflict _) => refuse (.itemAlreadyExists item.name)
  | .error e => throw (.store e)

/-- Offers an item of a name at a price. -/
def addItem (e : Engine) (name : String) (price : Int) : Exchange (Except Error Item) :=
  match NewItem.of? name price with
  | .error refusal => .done (.error refusal)
  | .ok item => e.unit .addItem (insertNewItem item)

end Scrip.Engine
