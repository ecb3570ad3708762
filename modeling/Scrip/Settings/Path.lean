import Scrip.Number.Rounding
import Scrip.Settings.Value

/-!
# Paths to settings

A setting is named by the way to it through tables and lists, as in `server.port` or
`list[0]`.

* `Path.ofKey`: the way that a key stands for. A key that stands for none is a single name.
* `Value.alter`: what lies at the end of a path changed. What is on the way is made to fit the path.
* `Value.laidOver`: a value put over an older one. Tables are laid over each other name by name.
-/

namespace Scrip.Settings

/-- One step into a value. -/
inductive Place where
  | field (name : String)
  /-- An element of a list, counted from its end when negative. -/
  | position (n : Int)
  deriving DecidableEq, Repr

/-- The steps on the way to a setting. -/
abbrev Path : Type := List Place

namespace Path

/-- Whether a character may stand in a name on a path. -/
def isNameChar (c : Char) : Bool :=
  c.isAlphanum || c == '_' || c == '-'

/-- A name in front of a text, and the text after it. -/
def takeName? (cs : List Char) : Option (Place × List Char) :=
  let name := cs.takeWhile isNameChar
  if name.isEmpty then none
  else some (.field (String.ofList name), cs.dropWhile isNameChar)

/-- A number of 64 bits with a closing bracket after it, and the text after that. Spaces may
surround the number. -/
def takePosition? (cs : List Char) : Option (Place × List Char) :=
  let isBlank (c : Char) : Bool := c == ' ' || c == '\t'
  let cs := cs.dropWhile isBlank
  let (negative, digits) := match cs with
    | '-' :: digits => (true, digits)
    | digits => (false, digits)
  match Numeral.digits? (digits.takeWhile Char.isDigit),
      (digits.dropWhile Char.isDigit).dropWhile isBlank with
  | some n, ']' :: rest =>
    let n : Int := if negative then -(n : Int) else n
    if -(twoPow 63 : Int) ≤ n ∧ n < twoPow 63 then some (.position n, rest) else none
  | _, _ => none

/-- At most `fuel` steps after the first one. -/
def readSteps? : (fuel : Nat) → List Char → Option Path
  | _, [] => some []
  | 0, _ => none
  | fuel + 1, c :: cs => do
    let (place, rest) ←
      if c = '.' then takeName? cs else if c = '[' then takePosition? cs else none
    let path ← readSteps? fuel rest
    some (place :: path)

/-- The steps that a key spells out. -/
def read? (key : String) : Option Path := do
  let (place, rest) ← takeName? key.toList
  let path ← readSteps? rest.length rest
  some (place :: path)

/-- The way that a key stands for. -/
def ofKey (key : String) : Path :=
  (read? key).getD [.field key]

end Path

namespace Value

/-- The field of a name changed, or made from nothing. -/
def alterField (name : String) (f : Value → Value) :
    List (String × Value) → List (String × Value)
  | [] => [(name, f nothing)]
  | (k, v) :: rest => if k = name then (k, f v) :: rest else (k, v) :: alterField name f rest

/-- The element at a position changed. Places with nothing in them are added to the list until it
has that position. -/
def alterElement (n : Int) (f : Value → Value) (vs : List Value) : List Value :=
  if 0 ≤ n then
    (vs ++ List.replicate (n.toNat + 1 - vs.length) nothing).modify n.toNat f
  else
    let missing := (-n).toNat - vs.length
    (List.replicate missing nothing ++ vs).modify ((vs.length + missing : Int) + n).toNat f

/-- What lies at the end of a path changed. What is on the way and not of the kind that the path
goes through becomes an empty one of that kind. -/
def alter (f : Value → Value) : Path → Value → Value
  | [], v => f v
  | .field name :: path, v => table (alterField name (alter f path) v.fields)
  | .position n :: path, v => list (alterElement n (alter f path) v.elements)

mutual

/-- A value put over an older one. A table leaves the names it does not have as they are; anything
else takes the place of what was there. -/
def laidOver : Value → Value → Value
  | table fields, old => table (fieldsLaidOver fields old.fields)
  | v, _ => v

/-- The fields of a table put over those of an older one. -/
def fieldsLaidOver : List (String × Value) → List (String × Value) → List (String × Value)
  | [], old => old
  | (name, v) :: rest, old => fieldsLaidOver rest (alterField name (laidOver v) old)

end

end Value

end Scrip.Settings
