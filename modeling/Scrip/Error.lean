/-!
# Errors

What can go wrong with an operation on the books, and the text shown for it.

* `Error.kind`, `Error.detail?`: the name of what went wrong, and what it went wrong with.
* `Error.isBusiness`: whether a rule of the house refused the operation, as opposed to the
  storage or the clock.
* `Operation.label`: the name of an operation inside such a text.
-/

namespace Scrip

/-- The operations that a failing store or an expired deadline can stop. -/
inductive Operation where
  | register
  | authenticate
  | account
  | inventory
  | accountInfo
  | history
  | catalog
  | addItem
  | transfer
  | purchase
  deriving DecidableEq, Repr

/-- How an operation is called in an error. -/
def Operation.label : Operation → String
  | .register => "register"
  | .authenticate => "authenticate"
  | .account => "account"
  | .inventory => "inventory"
  | .accountInfo => "account info"
  | .history => "history"
  | .catalog => "catalog"
  | .addItem => "add catalog item"
  | .transfer => "transfer"
  | .purchase => "purchase"

/-- Why an operation did not happen. The text says what was refused or what failed. -/
inductive Error where
  | invalidAmount (detail : String)
  | invalidInput (detail : String)
  | invalidRecipient (detail : String)
  | accountNotFound (detail : String)
  | itemNotFound (detail : String)
  | insufficientFunds (detail : String)
  | accountAlreadyExists (username : String)
  | itemAlreadyExists (name : String)
  | invalidCredentials
  | timeout (operation : String)
  | operationFailed (operation : String)
  deriving DecidableEq, Repr

namespace Error

/-- The text shown for an error. -/
def message : Error → String
  | invalidAmount detail => "Invalid amount: " ++ detail
  | invalidInput detail => "Invalid input: " ++ detail
  | invalidRecipient detail => "Invalid recipient: " ++ detail
  | accountNotFound detail => "Account not found: " ++ detail
  | itemNotFound detail => "Item not found: " ++ detail
  | insufficientFunds detail => "Insufficient funds: " ++ detail
  | accountAlreadyExists username => "\"" ++ username ++ "\" already exists!"
  | itemAlreadyExists name => "Item \"" ++ name ++ "\" already exists!"
  | invalidCredentials => "Invalid username or password"
  | timeout operation => operation ++ " timed out"
  | operationFailed operation => operation ++ " failed"

/-- The name of what went wrong. -/
def kind : Error → String
  | invalidAmount _ => "InvalidAmount"
  | invalidInput _ => "InvalidInput"
  | invalidRecipient _ => "InvalidRecipient"
  | accountNotFound _ => "AccountNotFound"
  | itemNotFound _ => "ItemNotFound"
  | insufficientFunds _ => "InsufficientFunds"
  | accountAlreadyExists _ => "AccountAlreadyExists"
  | itemAlreadyExists _ => "ItemAlreadyExists"
  | invalidCredentials => "InvalidCredentials"
  | timeout _ => "Timeout"
  | operationFailed _ => "OperationFailed"

/-- What it went wrong with, if that is told. -/
def detail? : Error → Option String
  | invalidAmount detail | invalidInput detail | invalidRecipient detail | accountNotFound detail
  | itemNotFound detail | insufficientFunds detail => some detail
  | accountAlreadyExists name | itemAlreadyExists name => some name
  | timeout operation | operationFailed operation => some operation
  | invalidCredentials => none

/-- Whether a rule of the house refused the operation, and not the storage or the clock. -/
def isBusiness : Error → Bool
  | timeout _ | operationFailed _ => false
  | _ => true

/-- No account has this id. -/
def noAccount (id : Int) : Error :=
  accountNotFound ("id " ++ toString id)

end Error

end Scrip
