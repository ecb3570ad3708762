import Scrip.Admin.Help
import Scrip.Number.Numeral

/-!
# Arguments

The words of a command line.

* `Options.read`: the options in front of the name of a subcommand.
* `Invocation.ofArguments`: the command that a line gives and where the books are kept, or why it
  gives none.
-/

namespace Scrip.Admin

/-- What an operator can have done. -/
inductive Command where
  | createUser (username : String) (coins : Option Int)
  | showUser (username : String)
  | addMerch (name : String) (price : Int)
  | listMerch
  deriving DecidableEq, Repr

/-- Why a command line gives no command. -/
inductive Stop where
  | misused
  | helpWanted (topic : Topic)
  deriving DecidableEq, Repr

/-- A call for help on the command that words name inside another one. -/
def Stop.ofHelp (t : Topic) (words : List String) : Stop :=
  match t.within? words with
  | some topic => helpWanted topic
  | none => misused

/-- What an option takes. -/
inductive OptionKind where
  | text
  | integer
  deriving DecidableEq, Repr

/-- Whether an option can take a value. -/
def OptionKind.accepts (value : String) : OptionKind → Bool
  | text => true
  | integer => (Numeral.integer? 64 value.toList).isSome

/-! ## Options -/

/-- The options read so far. -/
structure Options where
  /-- The options that there are, by name. -/
  known : List (String × OptionKind)
  given : List (String × String) := []
  /-- The last option, whose value comes in a word of its own, with that value once it came. -/
  pending : Option (String × Option String) := none

namespace Options

/-- An option with its value. No option can be given twice. -/
def give (name value : String) (o : Options) : Except Stop Options :=
  if (o.given.lookup name).isSome || !(o.known.lookup name).any (·.accepts value) then
    .error .misused
  else .ok { o with given := o.given ++ [(name, value)] }

/-- No option is pending any longer. A pending one must have its value. -/
def settle (o : Options) : Except Stop Options :=
  match o.pending with
  | none => .ok o
  | some (name, some value) => { o with pending := none }.give name value
  | some (_, none) => .error .misused

/-- Whether the last option still needs a value. -/
def isOpen (o : Options) : Bool :=
  o.pending.any (·.2.isNone)

/-- A word with two dashes in front: an option, maybe with its value after an equals sign, or a call
for help. -/
def readLong (topic : Topic) (o : Options) (word : List Char) : Except Stop Options :=
  let name := String.ofList (word.takeWhile (· != '='))
  match word.dropWhile (· != '=') with
  | [] =>
    if (o.known.lookup name).isSome then do
      return { ← o.settle with pending := some (name, none) }
    else if name = "help" then do
      let _ ← o.settle
      throw (.helpWanted topic)
    else .error .misused
  | _ :: value => do (← o.settle).give name (String.ofList value)

/-- A word that may be the value of the last option. -/
def readValue (o : Options) (word : String) : Except Stop Options :=
  match o.pending with
  | some (name, none) => .ok { o with pending := some (name, some word) }
  | _ => .error .misused

/-- The options in front of the first of the subcommands, with that and the words after it. Two
dashes alone end the options; no word may come after them. -/
def read (topic : Topic) (subcommands : List String) :
    Options → List String → Except Stop (Options × Option (String × List String))
  | o, [] => .ok (o, none)
  | o, word :: words =>
    if !o.isOpen && subcommands.contains word then .ok (o, some (word, words))
    else
      match word.toList with
      | ['-', '-'] => if words.isEmpty then .ok (o, none) else .error .misused
      | '-' :: '-' :: chars => do read topic subcommands (← o.readLong topic chars) words
      | '-' :: 'h' :: _ => do
        let _ ← o.settle
        throw (.helpWanted topic)
      | '-' :: _ :: _ => .error .misused
      | _ => do read topic subcommands (← o.readValue word) words

/-- The options of a command without subcommands. -/
def readAll (topic : Topic) (known : List (String × OptionKind)) (words : List String) :
    Except Stop Options := do
  let (o, _) ← read topic [] { known } words
  o.settle

/-- The value of an option that has to be given. -/
def required (o : Options) (name : String) : Except Stop String :=
  match o.given.lookup name with
  | some value => .ok value
  | none => .error .misused

/-- The number given by an option, if there is one. -/
def integer? (o : Options) (name : String) : Option Int :=
  (o.given.lookup name).bind fun value => Numeral.integer? 64 value.toList

end Options

/-! ## Commands -/

/-- The command on accounts that a line gives. -/
def readUser (words : List String) : Except Stop Command := do
  match ← Options.read .user Topic.user.subcommands { known := [] } words with
  | (_, some ("create", words)) =>
    let o ← Options.readAll .userCreate [("username", .text), ("coins", .integer)] words
    return .createUser (← o.required "username") (o.integer? "coins")
  | (_, some ("show", words)) =>
    let o ← Options.readAll .userShow [("username", .text)] words
    return .showUser (← o.required "username")
  | (_, some ("help", words)) => throw (.ofHelp .user words)
  | _ => throw .misused

/-- The command on the catalog that a line gives. -/
def readMerch (words : List String) : Except Stop Command := do
  match ← Options.read .merch Topic.merch.subcommands { known := [] } words with
  | (_, some ("add", words)) =>
    let o ← Options.readAll .merchAdd [("name", .text), ("price", .integer)] words
    let name ← o.required "name"
    match o.integer? "price" with
    | some price => return .addMerch name price
    | none => throw .misused
  | (_, some ("list", words)) =>
    let _ ← Options.readAll .merchList [] words
    return .listMerch
  | (_, some ("help", words)) => throw (.ofHelp .merch words)
  | _ => throw .misused

/-- A command, and where the books are kept. -/
structure Invocation where
  database : String
  command : Command
  deriving DecidableEq, Repr

/-- The command that a line gives, or why it gives none. The books are kept at the given place when
the line names none. -/
def Invocation.ofArguments (database : String) (words : List String) :
    Except Stop Invocation := do
  match ← Options.read .program Topic.program.subcommands
      { known := [("database-url", .text)] } words with
  | (o, some ("user", words)) => finish o (← readUser words)
  | (o, some ("merch", words)) => finish o (← readMerch words)
  | (_, some ("help", words)) => throw (.ofHelp .program words)
  | _ => throw .misused
where
  /-- The command, once the options in front of it are complete. -/
  finish (o : Options) (command : Command) : Except Stop Invocation := do
    return ⟨((← o.settle).given.lookup "database-url").getD database, command⟩

end Scrip.Admin
