import Scrip.Toml.Scalar

/-!
# TOML documents

A document is a list of statements, which open tables and give keys their values. Nothing may be
given twice.

* `Statement.readAll?`: the statements of a text.
* `Node`: a document under construction. A table knows how it came about, since only tables that
  were not opened yet may be opened, and only those made by keys with dots may be added to by such
  keys.
* `ofText?`: the table that a text stands for.
-/

namespace Scrip.Toml

open Settings (Value)

/-! ## Statements -/

/-- The names between the dots of a key. -/
abbrev Key : Type := List String

/-- A value as it is written: tables in braces are lists of keys with values. -/
inductive Literal where
  | scalar (v : Value)
  | list (vs : List Literal)
  | table (fields : List (Key × Literal))

/-- One statement of a document. -/
inductive Statement where
  | openTable (key : Key)
  /-- One more table in a list of tables. -/
  | openElement (key : Key)
  | assign (key : Key) (v : Literal)

/-- The text without spaces in front. -/
def skipSpaces (cs : List Char) : List Char :=
  cs.dropWhile isSpace

/-- The rest of a line may hold a comment and nothing else. Gives the text after the line break. -/
def endLine? (cs : List Char) : Option (List Char) :=
  let cs := match skipSpaces cs with
    | '#' :: cs => cs.dropWhile fun c => !isControl c
    | cs => cs
  match cs with
  | [] => some []
  | cs => lineBreak? cs

/-- Passes spaces, line breaks and comments. -/
def skipBlank : (fuel : Nat) → List Char → List Char
  | 0, cs => cs
  | fuel + 1, cs =>
    match skipSpaces cs with
    | [] => []
    | rest =>
      match endLine? rest with
      | some rest => skipBlank fuel rest
      | none => rest

/-- Whether a character may stand in a name without quotes. -/
def isNameChar (c : Char) : Bool :=
  c.isAlphanum || c == '_' || c == '-'

/-- A name, with or without quotes. -/
def readName? (cs : List Char) : Option (String × List Char) :=
  match readLineString? cs with
  | some found => some found
  | none =>
    let name := cs.takeWhile isNameChar
    if name.isEmpty then none else some (String.ofList name, cs.dropWhile isNameChar)

/-- At most `fuel` names with dots between them. Spaces may surround each. -/
def readKey? : (fuel : Nat) → Reader Key
  | 0, _ => none
  | fuel + 1, cs => do
    let (name, rest) ← readName? (skipSpaces cs)
    match skipSpaces rest with
    | '.' :: rest => do
      let (key, rest) ← readKey? fuel rest
      some (name :: key, rest)
    | rest => some ([name], rest)

mutual

/-- A value. -/
def readValue? (fuel : Nat) (cs : List Char) : Option (Literal × List Char) :=
  match fuel with
  | 0 => none
  | fuel + 1 =>
    match cs with
    | '[' :: cs => (readElements? fuel cs).map fun (vs, rest) => (.list vs, rest)
    | '{' :: cs => (readFields? fuel cs).map fun (fields, rest) => (.table fields, rest)
    | cs =>
      match readString? cs with
      | some (s, rest) => some (.scalar (.text s), rest)
      | none =>
        let (word, rest) := takeWord cs
        (ofWord? word).map fun v => (.scalar v, rest)

/-- The values up to a closing bracket. A comma may stand after the last one. -/
def readElements? (fuel : Nat) (cs : List Char) : Option (List Literal × List Char) :=
  match fuel with
  | 0 => none
  | fuel + 1 =>
    match skipBlank cs.length cs with
    | ']' :: rest => some ([], rest)
    | cs => do
      let (v, rest) ← readValue? fuel cs
      match skipBlank rest.length rest with
      | ']' :: rest => some ([v], rest)
      | ',' :: rest => do
        let (vs, rest) ← readElements? fuel rest
        some (v :: vs, rest)
      | _ => none

/-- The keys with values up to a closing brace. A comma may stand after the last one. -/
def readFields? (fuel : Nat) (cs : List Char) : Option (List (Key × Literal) × List Char) :=
  match fuel with
  | 0 => none
  | fuel + 1 =>
    match skipBlank cs.length cs with
    | '}' :: rest => some ([], rest)
    | cs => do
      let (key, rest) ← readKey? cs.length cs
      let '=' :: rest := rest | none
      let (v, rest) ← readValue? fuel (skipSpaces rest)
      match skipBlank rest.length rest with
      | '}' :: rest => some ([(key, v)], rest)
      | ',' :: rest => do
        let (fields, rest) ← readFields? fuel rest
        some ((key, v) :: fields, rest)
      | _ => none

end

/-- One statement, up to the end of its line. -/
def readStatement? (cs : List Char) : Option (Statement × List Char) :=
  match cs with
  | '[' :: '[' :: cs => do
    let (key, rest) ← readKey? (cs.length + 1) cs
    let ']' :: ']' :: rest := rest | none
    let rest ← endLine? rest
    some (.openElement key, rest)
  | '[' :: cs => do
    let (key, rest) ← readKey? (cs.length + 1) cs
    let ']' :: rest := rest | none
    let rest ← endLine? rest
    some (.openTable key, rest)
  | cs => do
    let (key, rest) ← readKey? (cs.length + 1) cs
    let '=' :: rest := rest | none
    let (v, rest) ← readValue? (rest.length + 1) (skipSpaces rest)
    let rest ← endLine? rest
    some (.assign key v, rest)

/-- At most `fuel` statements, up to the end of the text. -/
def readStatements? : (fuel : Nat) → List Char → Option (List Statement)
  | 0, _ => none
  | fuel + 1, cs =>
    match skipBlank (cs.length + 1) cs with
    | [] => some []
    | cs => do
      let (s, rest) ← readStatement? cs
      let ss ← readStatements? fuel rest
      some (s :: ss)

/-- The statements of a text. A byte order mark in front does not count. -/
def Statement.readAll? (text : String) : Option (List Statement) :=
  let cs := match text.toList with
    | '\uFEFF' :: cs => cs
    | cs => cs
  readStatements? (cs.length + 1) cs

/-! ## Documents under construction -/

/-- How a table came about. -/
inductive Origin where
  /-- It was opened itself. -/
  | opened
  /-- A table inside it was opened. -/
  | passed
  /-- A key with dots went through it. -/
  | dotted
  deriving DecidableEq, Repr

/-- What a name stands for while a document is read. -/
inductive Node where
  /-- A value that is complete. -/
  | closed (v : Value)
  | table (origin : Origin) (fields : List (String × Node))
  /-- A list of tables, of which the last one is added to. -/
  | tables (before : List (List (String × Node))) (last : List (String × Node))

/-- The names of a table with what they stand for. -/
abbrev Fields : Type := List (String × Node)

/-- What a name stands for changed, or given if it stands for nothing yet. -/
def alter (name : String) (f : Option Node → Option Node) : Fields → Option Fields
  | [] => (f none).map fun node => [(name, node)]
  | (k, node) :: rest =>
    if k = name then (f (some node)).map fun node => (k, node) :: rest
    else (alter name f rest).map ((k, node) :: ·)

/-- The table at the end of a path changed. The path may pass through any table and through the
last one of a list; tables that are missing are made. -/
def openAt (f : Fields → Option Fields) : Key → Fields → Option Fields
  | [], fields => f fields
  | name :: path, fields =>
    alter name (fun
      | none => (openAt f path []).map (.table .passed)
      | some (.table origin inner) => (openAt f path inner).map (.table origin)
      | some (.tables before last) => (openAt f path last).map (.tables before)
      | some (.closed _) => none) fields

/-- The table at the end of a key with dots changed. The key must not pass through a table that was
opened. -/
def dotAt (f : Fields → Option Fields) : Key → Fields → Option Fields
  | [], fields => f fields
  | name :: path, fields =>
    alter name (fun
      | none => (dotAt f path []).map (.table .dotted)
      | some (.table .opened _) => none
      | some (.table origin inner) => (dotAt f path inner).map (.table origin)
      | _ => none) fields

/-- A name that stands for nothing yet given what it stands for. -/
def give (node : Node) : Option Node → Option Node
  | none => some node
  | some _ => none

/-- Opens a table. One that a table inside was opened of may still be opened, once. -/
def openTable (key : Key) (root : Fields) : Option Fields :=
  match key.getLast? with
  | none => none
  | some name =>
    openAt (alter name fun
      | none => some (.table .opened [])
      | some (.table .passed inner) => some (.table .opened inner)
      | _ => none) key.dropLast root

/-- Opens one more table in a list of tables. -/
def openElement (key : Key) (root : Fields) : Option Fields :=
  match key.getLast? with
  | none => none
  | some name =>
    openAt (alter name fun
      | none => some (.tables [] [])
      | some (.tables before last) => some (.tables (before ++ [last]) [])
      | _ => none) key.dropLast root

/-- Gives the key of a table what it stands for. -/
def assign (key : Key) (node : Node) (fields : Fields) : Option Fields :=
  match key.getLast? with
  | none => none
  | some name => dotAt (alter name (give node)) key.dropLast fields

mutual

/-- What a node stands for. -/
def Node.toValue : Node → Value
  | .closed v => v
  | .table _ fields => .table (fieldValues fields)
  | .tables before last => .list (tableValues before ++ [.table (fieldValues last)])

/-- What the names of a table stand for. -/
def fieldValues : List (String × Node) → List (String × Value)
  | [] => []
  | (name, node) :: rest => (name, node.toValue) :: fieldValues rest

/-- What the tables of a list stand for. -/
def tableValues : List (List (String × Node)) → List Value
  | [] => []
  | fields :: rest => .table (fieldValues fields) :: tableValues rest

end

mutual

/-- The value of what is written, unless a table in braces gives something twice. -/
def Literal.toValue? : Literal → Option Value
  | .scalar v => some v
  | .list vs => (literalValues? vs).map .list
  | .table fields => (literalFields? fields []).map fun fields => .table (fieldValues fields)

/-- The values of a list. -/
def literalValues? : List Literal → Option (List Value)
  | [] => some []
  | v :: vs => do
    let v ← v.toValue?
    let vs ← literalValues? vs
    some (v :: vs)

/-- The keys of a table in braces added to those before them. -/
def literalFields? : List (Key × Literal) → Fields → Option Fields
  | [], fields => some fields
  | (key, v) :: rest, fields => do
    let v ← v.toValue?
    let fields ← assign key (.closed v) fields
    literalFields? rest fields

end

/-- The statements carried out on a document, of which a table is open. -/
def carryOut : List Statement → Key → Fields → Option Fields
  | [], _, root => some root
  | .openTable key :: rest, _, root => do
    let root ← openTable key root
    carryOut rest key root
  | .openElement key :: rest, _, root => do
    let root ← openElement key root
    carryOut rest key root
  | .assign key v :: rest, current, root => do
    let v ← v.toValue?
    let root ← openAt (assign key (.closed v)) current root
    carryOut rest current root

/-- The table that a text stands for. -/
def ofText? (text : String) : Option (List (String × Value)) := do
  let statements ← Statement.readAll? text
  let root ← carryOut statements [] []
  some (fieldValues root)

end Scrip.Toml
