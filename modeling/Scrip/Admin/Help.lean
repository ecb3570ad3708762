/-!
# Help

What is told about the command line.

* `Topic.within?`: the topic that words name inside another one.
* `Topic.text`: what is told about a topic.
-/

namespace Scrip.Admin

/-- What help can be about: the program or one of its commands. -/
inductive Topic where
  | program
  | programHelp
  | user
  | userCreate
  | userShow
  | userHelp
  | merch
  | merchAdd
  | merchList
  | merchHelp
  deriving DecidableEq, Repr

namespace Topic

/-- The commands inside a command, by name. -/
def inner : Topic → List (String × Topic)
  | program => [("user", user), ("merch", merch), ("help", programHelp)]
  | user => [("create", userCreate), ("show", userShow), ("help", userHelp)]
  | merch => [("add", merchAdd), ("list", merchList), ("help", merchHelp)]
  | _ => []

/-- The names of the commands inside a command. -/
def subcommands (t : Topic) : List String :=
  t.inner.map (·.1)

/-- The command that words name, starting inside another one. -/
def within? (t : Topic) : List String → Option Topic
  | [] => some t
  | word :: words => (t.inner.lookup word).bind fun t => t.within? words

/-- The words that name a command. -/
def words : Topic → String
  | program => "merchcoin_admin"
  | programHelp => "merchcoin_admin help"
  | user => "merchcoin_admin user"
  | userCreate => "merchcoin_admin user create"
  | userShow => "merchcoin_admin user show"
  | userHelp => "merchcoin_admin user help"
  | merch => "merchcoin_admin merch"
  | merchAdd => "merchcoin_admin merch add"
  | merchList => "merchcoin_admin merch list"
  | merchHelp => "merchcoin_admin merch help"

/-- What a command does, where that is told. -/
def about : Topic → String
  | program => "Admin utilities for merchcoin (accounts and merch catalog)"
  | programHelp | userHelp | merchHelp =>
    "Print this message or the help of the given subcommand(s)"
  | userCreate => "Register an account; the password is prompted for"
  | userShow => "Print balance, inventory and coin history"
  | user | merch | merchAdd | merchList => ""

/-- What follows the words that name a command. -/
def usage : Topic → String
  | program => " [OPTIONS] <COMMAND>"
  | user | merch => " <COMMAND>"
  | programHelp | userHelp | merchHelp => " [COMMAND]..."
  | userCreate => " [OPTIONS] --username <USERNAME>"
  | userShow => " --username <USERNAME>"
  | merchAdd => " --name <NAME> --price <PRICE>"
  | merchList => ""

/-- The options of a command, with what is told about each. -/
def options : Topic → List (String × String)
  | program => [
    ("      --database-url <DATABASE_URL>",
      "Database connection string (also read from \x60DATABASE_URL\x60) [env: DATABASE_URL=] " ++
        "[default: sqlite:./merchcoin.db?mode=rwc]"),
    ("  -h, --help", "Print help")]
  | userCreate => [
    ("      --username <USERNAME>", ""),
    ("      --coins <COINS>", "Starting balance instead of the default grant"),
    ("  -h, --help", "Print help")]
  | userShow => [("      --username <USERNAME>", ""), ("  -h, --help", "Print help")]
  | merchAdd => [
    ("      --name <NAME>", ""), ("      --price <PRICE>", ""), ("  -h, --help", "Print help")]
  | user | merch | merchList => [("  -h, --help", "Print help")]
  | programHelp | userHelp | merchHelp => []

/-- Lines of two columns, of which the second ones begin under each other. -/
def columns (rows : List (String × String)) : List String :=
  let width := rows.foldl (fun width row => max width row.1.length) 0
  rows.map fun row =>
    row.1 ++ String.ofList (List.replicate (width - row.1.length + 2) ' ') ++ row.2

/-- The lines of a section, when there are any. -/
def titled (title : String) (lines : List String) : List (List String) :=
  if lines.isEmpty then [] else [title :: lines]

/-- What is told about a topic. The options of the program itself are too long for two columns. -/
def text (t : Topic) : String :=
  let options := match t with
    | program => t.options.flatMap fun row => [row.1, "          " ++ row.2]
    | _ => columns t.options
  let arguments := match t with
    | programHelp | userHelp | merchHelp => ["  [COMMAND]...  Print help for the subcommand(s)"]
    | _ => []
  let sections :=
    (if t.about.isEmpty then [] else [[t.about]]) ++
    [["Usage: " ++ t.words ++ t.usage]] ++
    titled "Commands:" (columns (t.inner.map fun (name, t) => ("  " ++ name, t.about))) ++
    titled "Arguments:" arguments ++
    titled "Options:" options
  "\n".intercalate (sections.map fun lines => String.join (lines.map (· ++ "\n")))

end Topic

end Scrip.Admin
