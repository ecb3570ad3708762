import Scrip.Json.Skip

/-!
# Shapes

Reading lists and objects of a known shape. An object may have its members in any order and others
besides; the members may also stand in a list, in the order of the shape.

* `Field`: one member of a shape, and how it is read into a draft of the value.
* `readFields`: a value of a shape.
* `readList`: a list of values.
-/

namespace Scrip.Json

/-- One member of a shape whose draft is a `δ`. -/
structure Field (δ : Type) where
  name : String
  /-- Whether a list may end before this member. -/
  mayLack : Bool := false
  /-- Whether the draft has it already. -/
  isSet : δ → Bool
  /-- Reads it into the draft. -/
  read : δ → Reader δ

/-- A member that has to be there. -/
def Field.required {δ α : Type} (name : String) (get : δ → Option α) (set : δ → α → δ)
    (r : Reader α) : Field δ where
  name
  isSet d := (get d).isSome
  read d cs := (r cs).map fun (a, rest) => (set d a, rest)

/-- A shape: the members of a draft, and the value of a draft that has all it needs. -/
structure Shape (δ α : Type) where
  fields : List (Field δ)
  empty : δ
  finish : δ → Option α

variable {δ α : Type}

/-- The colon between a key and its value. -/
def colon (cs : List Char) : Except Flaw (List Char) :=
  match skipSpace cs with
  | [] => .error .cutOff
  | ':' :: cs => .ok cs
  | _ => .error .malformed

/-- The value of a member of some name: read into the draft if the shape has it, and passed over
if not. A second one of a name is refused. -/
def readMember (fields : List (Field δ)) (name : String) (d : δ) : Reader δ := fun cs =>
  match fields.find? (·.name == name) with
  | some field => if field.isSet d then .error .mismatch else colon cs >>= field.read d
  | none => do
    let rest ← colon cs >>= skipValue
    .ok (d, rest)

/-- The key that comes next in an object, if there is one. -/
def nextKey (first : Bool) (cs : List Char) : Except Flaw (Option String × List Char) :=
  match skipSpace cs with
  | [] => .error .cutOff
  | '}' :: rest => .ok (none, rest)
  | '"' :: rest =>
    if first then (stringBody rest).map fun (key, rest) => (some key, rest) else .error .malformed
  | ',' :: rest =>
    if first then .error .malformed
    else match skipSpace rest with
      | [] => .error .cutOff
      | '"' :: rest => (stringBody rest).map fun (key, rest) => (some key, rest)
      | _ => .error .malformed
  | _ => .error .malformed

/-- At most `fuel` members of an object, up to its closing brace. -/
def readMembers (fields : List (Field δ)) : (fuel : Nat) → (first : Bool) → δ → Reader δ
  | 0, _, _ => fun _ => .error .cutOff
  | fuel + 1, first, d => fun cs => do
    match ← nextKey first cs with
    | (none, rest) => .ok (d, rest)
    | (some key, rest) =>
      let (d, rest) ← readMember fields key d rest
      readMembers fields fuel false d rest

/-- Whether a list has one more element, and the text at it or at the closing bracket. -/
def nextElement (first : Bool) (cs : List Char) : Except Flaw (Bool × List Char) :=
  match skipSpace cs with
  | [] => .error .cutOff
  | ']' :: rest => .ok (false, ']' :: rest)
  | c :: rest =>
    if first then .ok (true, c :: rest)
    else if c = ',' then
      match skipSpace rest with
      | [] => .error .cutOff
      | ']' :: _ => .error .malformed
      | rest => .ok (true, rest)
    else .error .malformed

/-- The closing bracket of a list. -/
def endList (cs : List Char) : Except Flaw (List Char) :=
  match skipSpace cs with
  | [] => .error .cutOff
  | ']' :: rest => .ok rest
  | _ => .error .malformed

/-- Members in the order of the shape, as elements of a list. -/
def readElements : List (Field δ) → (first : Bool) → δ → Reader δ
  | [], _, d => fun cs => .ok (d, cs)
  | field :: fields, first, d => fun cs => do
    match ← nextElement first cs with
    | (true, rest) =>
      let (d, rest) ← field.read d rest
      readElements fields false d rest
    | (false, rest) => if field.mayLack then readElements fields first d rest else .error .mismatch

/-- The value of a finished draft. -/
def Shape.complete (shape : Shape δ α) (d : δ) : Except Flaw α :=
  match shape.finish d with
  | some a => .ok a
  | none => .error .mismatch

/-- A value of a shape. -/
def readFields (shape : Shape δ α) (cs : List Char) : Except Flaw (α × List Char) :=
  match skipSpace cs with
  | [] => .error .cutOff
  | '{' :: cs => do
    let (d, rest) ← readMembers shape.fields (cs.length + 1) true shape.empty cs
    let a ← shape.complete d
    .ok (a, rest)
  | '[' :: cs => do
    let (d, rest) ← readElements shape.fields true shape.empty cs
    let a ← shape.complete d
    let rest ← endList rest
    .ok (a, rest)
  | cs => .error (otherKind cs)

/-- At most `fuel` elements of a list, up to its closing bracket. -/
def readItems (r : Reader α) : (fuel : Nat) → (first : Bool) → Reader (List α)
  | 0, _ => fun _ => .error .cutOff
  | fuel + 1, first => fun cs => do
    match ← nextElement first cs with
    | (false, rest) => .ok ([], rest.drop 1)
    | (true, rest) =>
      let (a, rest) ← r rest
      let (as, rest) ← readItems r fuel false rest
      .ok (a :: as, rest)

/-- A list of values. -/
def readList (r : Reader α) (cs : List Char) : Except Flaw (List α × List Char) :=
  match skipSpace cs with
  | [] => .error .cutOff
  | '[' :: cs => readItems r (cs.length + 1) true cs
  | cs => .error (otherKind cs)

end Scrip.Json
