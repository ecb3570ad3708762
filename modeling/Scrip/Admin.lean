import Scrip.Admin.Arguments
import Scrip.Admin.Report
import Scrip.Session

/-!
# The operator's program

Accounts and items kept from a command line.

* `Admin.perform`: what carrying out a command shows.
* `Admin.run`: the program for a command line, over the store that it works on.
* `Admin.asksPassword`: whether the program needs somebody to type.
-/

namespace Scrip.Admin

open Crypt (Salt)
open Terminal (Event newPassword)

/-- What a run of the program leaves behind: its exit code and what it wrote to either channel. -/
structure Run where
  code : Nat
  out : String := ""
  err : String := ""
  deriving DecidableEq, Repr

namespace Run

/-- A run that went well. -/
def success (out : String) : Run :=
  { code := 0, out }

/-- A run that did not. -/
def failure (err : String) : Run :=
  { code := 1, err }

/-- A run that an error ended. -/
def ofError (e : Error) : Run :=
  failure (failureReport (inspect e))

/-- A run for a command line that gives no command. -/
def misused : Run :=
  { code := 2, err := "For more information, try --help.\n" }

/-- A run with something shown before it. -/
def after (shown : String) (r : Run) : Run :=
  { r with err := shown ++ r.err }

end Run

/-- Makes an account, whose password is asked for. What the account is granted is looked at
first. -/
def createUser (username : String) (coins : Option Int) (events : Option (List Event))
    (salt : Salt) : Exchange Run :=
  match Engine.of? (coins.getD defaultGrant) none with
  | .error e => pure (.ofError e)
  | .ok engine =>
    let asked := newPassword events
    match asked.answer with
    | .error fault => pure ((Run.failure (failureReport (inspectPrompt fault))).after asked.shown)
    | .ok password => do
      let run : Run := match ← engine.register username password salt with
        | .ok account => .success (createdReport account)
        | .error (.accountAlreadyExists username) =>
          .failure (lines ["user already exists: " ++ username])
        | .error e => .ofError e
      return run.after asked.shown

/-- Shows an account with all that belongs to it. -/
def showUser (username : String) : Exchange Run := do
  let engine : Engine := {}
  match ← engine.accountByName username with
  | .error (.accountNotFound _) => return .failure (lines ["user not found: " ++ username])
  | .error e => return .ofError e
  | .ok account =>
    match ← engine.statement account.id with
    | .error e => return .ofError e
    | .ok s => return .success (statementReport account.username account.id s)

/-- Offers an item. -/
def addMerch (name : String) (price : Int) : Exchange Run := do
  let engine : Engine := {}
  match ← engine.addItem name price with
  | .ok item => return .success (addedReport item)
  | .error (.itemAlreadyExists name) => return .failure (lines ["merch already exists: " ++ name])
  | .error e => return .ofError e

/-- Shows the items on offer. -/
def listMerch : Exchange Run := do
  let engine : Engine := {}
  match ← engine.catalog with
  | .ok items => return .success (catalogReport items)
  | .error e => return .ofError e

/-- Carries a command out. Events come from a terminal, if there is one. -/
def perform (events : Option (List Event)) (salt : Salt) : Command → Exchange Run
  | .createUser username coins => createUser username coins events salt
  | .showUser username => showUser username
  | .addMerch name price => addMerch name price
  | .listMerch => listMerch

/-- A command carried out over a store, once all migrations are applied to it. -/
def runOn (events : Option (List Event)) (salt : Salt) (c : Command) (s : Store) : Run × Store :=
  match s.migrate (.up none) with
  | (false, s) => (.failure (failureReport "Database"), s)
  | (true, s) => (perform events salt c).run Store.party s

/-- The program for the words of a command line, over the store at a place. Another place is an
empty store that is forgotten afterwards. -/
def run (place : String) (words : List String) (events : Option (List Event)) (salt : Salt)
    (s : Store) : Run × Store :=
  match Invocation.ofArguments place words with
  | .error .misused => (.misused, s)
  | .error (.helpWanted topic) => (.success topic.text, s)
  | .ok invocation =>
    if invocation.database = place then runOn events salt invocation.command s
    else ((runOn events salt invocation.command .emptyTables).1, s)

/-- Whether the program for a command line asks for a password. -/
def asksPassword (place : String) (words : List String) : Bool :=
  match Invocation.ofArguments place words with
  | .ok ⟨_, .createUser _ _⟩ => true
  | _ => false

/-- Where the books are kept when nothing is said about it. -/
def defaultPlace : String := "sqlite:./merchcoin.db?mode=rwc"

end Scrip.Admin
