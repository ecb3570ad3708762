import Scrip.Number.Rounding
import Scrip.Settings.Path
import Scrip.Toml.Document

/-!
# Settings

How the server is set up: by a file, which variables of the environment override.

* `Settings.merge?`: the values given by the file and by the environment, in one table.
* `Settings.ofValue`: the settings that a table of values stands for. A section may also be given as
  the list of its values in order.
* `Settings.read`: both together.
-/

namespace Scrip

namespace Settings

/-- Where the books are kept. -/
inductive Database where
  | memory
  | file (path : String)
  deriving DecidableEq, Repr

/-- What the server listens on and serves. -/
structure Listener where
  bind : Option String
  port : Nat
  database : Database
  deriving DecidableEq, Repr

/-- The port when none is given. -/
def defaultPort : Nat := 8080

/-- How much is logged when nothing is said about it. -/
def defaultLevel : String := "info"

/-- Why settings cannot be used. -/
inductive Flaw where
  | invalid
  /-- A database that needs a path is named without one. -/
  | pathMissing
  deriving DecidableEq, Repr

end Settings

/-- How the server is set up. -/
structure Settings where
  level : String := Settings.defaultLevel
  server : Option Settings.Listener := none
  initialBalance : Option Int := none
  operationTimeout : Option Nat := none
  deriving DecidableEq, Repr

namespace Settings

/-! ## Values from the environment -/

/-- What the name of a variable has to begin with, in any case. -/
def variableStart : String := "merchcoin__"

/-- Text in which two underscores stand for a point. -/
def pointed : List Char → List Char
  | '_' :: '_' :: cs => '.' :: pointed cs
  | c :: cs => c :: pointed cs
  | [] => []

/-- The key of a setting that a variable gives, if it gives one. -/
def variableKey? (name : String) : Option String :=
  let chars := name.toList.map Char.toLower
  let start := variableStart.toList
  if start.isPrefixOf chars then some (String.ofList (pointed (chars.drop start.length))) else none

/-- What the text of a variable stands for: a truth value, a number, or itself. -/
def variableValue (text : String) : Value :=
  let word := String.ofList (text.toList.map Char.toLower)
  if word = "true" then .boolean true
  else if word = "false" then .boolean false
  else
    match Numeral.integer? 64 text.toList, readFloating? text with
    | some n, _ => .integer n
    | none, some x => .floating x
    | none, none => .text text

/-- A value put at the place that its key stands for. -/
def put (key : String) (v old : Value) : Value :=
  old.alter v.laidOver (Path.ofKey key)

/-- The values of a file, if there is one, with those of the environment over them. -/
def merge? (file : Option String) (environment : List (String × String)) : Option Value := do
  let given ← match file with
    | none => some []
    | some text => Toml.ofText? text
  let base := given.foldl (fun all (key, v) => put key v all) (.table [])
  return environment.foldl (fun all (name, text) =>
    match variableKey? name with
    | some key => put key (variableValue text) all
    | none => all) base

/-! ## Sections -/

/-- The values of a section, by name or in order. -/
inductive Section where
  | named (fields : List (String × Value))
  | ordered (values : List Value)

namespace Section

/-- The section that a value stands for. -/
def ofValue : Value → Except Flaw Section
  | .table fields => .ok (named fields)
  | .list values => .ok (ordered values)
  | _ => .error .invalid

/-- The value of a setting, if the section gives one. -/
def find? (name : String) (index : Nat) : Section → Option Value
  | named fields => fields.lookup name
  | ordered values => values[index]?

/-- A setting that must be given. -/
def required {α : Type} (read : Value → Except Flaw α) (name : String) (index : Nat)
    (s : Section) : Except Flaw α :=
  match s.find? name index with
  | some v => read v
  | none => .error .invalid

/-- A setting that has a value when it is not given. -/
def defaulting {α : Type} (default : α) (read : Value → Except Flaw α) (name : String)
    (index : Nat) (s : Section) : Except Flaw α :=
  match s.find? name index with
  | some v => read v
  | none => .ok default

/-- A setting that may be without a value, and may be left out where settings have names. -/
def optional {α : Type} (read : Value → Except Flaw α) (name : String) (index : Nat)
    (s : Section) : Except Flaw (Option α) :=
  match s.find? name index, s with
  | some .nothing, _ | none, named _ => .ok none
  | some v, _ => (read v).map some
  | none, ordered _ => .error .invalid

end Section

/-- A value that was taken for something, or could not be. -/
def valid {α : Type} : Option α → Except Flaw α
  | some a => .ok a
  | none => .error .invalid

/-- A port is a number of 16 bits. -/
def readPort (v : Value) : Except Flaw Nat :=
  valid (v.toNatural?.filter (· < twoPow 16))

/-- A database is named by its kind, or by a table of its kind with what the kind needs. -/
def readDatabase : Value → Except Flaw Database
  | .text "memory" | .table [("memory", _)] => .ok .memory
  | .text "sqlite" => .error .pathMissing
  | .table [("sqlite", v)] => (valid v.toText?).map .file
  | _ => .error .invalid

/-- The section on logging. -/
def readApp (v : Value) : Except Flaw String := do
  (← Section.ofValue v).required (valid ∘ Value.toText?) "level" 0

/-- The section on the server. -/
def readListener (v : Value) : Except Flaw Listener := do
  let s ← Section.ofValue v
  let bind ← s.optional (valid ∘ Value.toText?) "bind" 0
  let port ← s.defaulting defaultPort readPort "port" 1
  let database ← s.required readDatabase "database" 2
  return { bind, port, database }

/-- The section on the engine: the initial balance and the time an operation may take, in
milliseconds. -/
def readEngine (v : Value) : Except Flaw (Option Int × Option Nat) := do
  let s ← Section.ofValue v
  let balance ← s.optional (valid ∘ Value.toInteger?) "initial_balance" 0
  let timeout ← s.optional (valid ∘ Value.toNatural?) "operation_timeout_ms" 1
  return (balance, timeout)

/-- The settings that a value stands for. -/
def ofValue (v : Value) : Except Flaw Settings := do
  let s ← Section.ofValue v
  let level ← s.defaulting defaultLevel readApp "app" 0
  let server ← s.optional readListener "server" 1
  let (initialBalance, operationTimeout) ← s.defaulting (none, none) readEngine "engine" 2
  return { level, server, initialBalance, operationTimeout }

/-- The settings given by a file, if there is one, and by variables of the environment. -/
def read (file : Option String) (environment : List (String × String)) : Except Flaw Settings :=
  match merge? file environment with
  | some v => ofValue v
  | none => .error .invalid

end Settings

end Scrip
