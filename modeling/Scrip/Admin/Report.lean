import Scrip.Engine.Statement
import Scrip.Terminal.Prompt
import Scrip.Text.Quoted
import Scrip.Time.Rfc3339

/-!
# Reports

What an operator is shown about accounts, items and failures.

* `statementReport`, `catalogReport`: accounts and items, a line for each thing.
* `failureReport`: a failure by its kind, with what it is about in quotes.
-/

namespace Scrip.Admin

open Terminal (PromptFault)

/-- Text filled up with spaces behind it. -/
def leftAligned (width : Nat) (s : String) : String :=
  s ++ String.ofList (List.replicate (width - s.length) ' ')

/-- Text filled up with spaces in front of it. -/
def rightAligned (width : Nat) (s : String) : String :=
  String.ofList (List.replicate (width - s.length) ' ') ++ s

/-- Lines, each with its end. -/
def lines (ls : List String) : String :=
  String.join (ls.map (· ++ "\n"))

/-- What is shown of a new account. -/
def createdReport (a : Account) : String :=
  lines ["created user: " ++ a.username ++ " (id " ++ toString a.id ++ ", " ++ toString a.coins ++
    " coins)"]

/-- What is shown of a new item. -/
def addedReport (i : Item) : String :=
  lines ["added merch: " ++ i.name ++ " for " ++ toString i.price ++ " coins"]

/-- The items on offer, with their prices under each other. -/
def catalogReport (items : List Item) : String :=
  lines (items.map fun i => leftAligned 12 i.name ++ " " ++ rightAligned 5 (toString i.price))

/-- A movement of coins: when, how many, and with whom or for what. -/
def movement (l : HistoryLine) (withWhom : String) : String :=
  "  " ++ l.createdAt.toDisplay ++ " " ++ rightAligned 6 (toString l.amount) ++ " " ++ withWhom

/-- Coins that were received. -/
def receivedLine (l : HistoryLine) : String :=
  movement l ("from " ++ l.counterparty)

/-- Coins that were sent, or spent on an item. -/
def sentLine (l : HistoryLine) : String :=
  movement l (match l.item with
    | some item => "for " ++ item
    | none => "to " ++ l.counterparty)

/-- All that is shown of an account. -/
def statementReport (username : String) (id : AccountId) (s : Statement) : String :=
  lines (
    [username ++ " (id " ++ toString id ++ "): " ++ toString s.account.coins ++ " coins"] ++
    ["inventory:"] ++ s.inventory.map (fun o => "  " ++ o.item ++ " x" ++ toString o.quantity) ++
    ["received:"] ++ s.history.received.map receivedLine ++
    ["sent:"] ++ s.history.sent.map sentLine)

/-- A failure by its kind, with what it is about in quotes. -/
def inspect (e : Error) : String :=
  match e.detail? with
  | some detail => e.kind ++ "(" ++ Text.quote detail ++ ")"
  | none => e.kind

/-- A failure of the system by its number, with what it means. -/
def systemFailure (code : Nat) (message : String) : String :=
  "Os \x7b code: " ++ toString code ++ ", kind: Uncategorized, message: " ++ Text.quote message ++
    " \x7d"

/-- Why no password was chosen. -/
def inspectPrompt : PromptFault → String
  | .interrupted => Text.quote "interrupted"
  | .tooManyAttempts => Text.quote "too many attempts"
  | .noTerminal => systemFailure 6 "No such device or address"
  | .closed => systemFailure 5 "Input/output error"

/-- What is shown of a failure that ends the program. -/
def failureReport (inspected : String) : String :=
  lines ["Error: " ++ inspected]

end Scrip.Admin
