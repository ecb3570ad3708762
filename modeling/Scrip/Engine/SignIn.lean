import Scrip.Credential.Password
import Scrip.Credential.Username
import Scrip.Engine.Basic

/-!
# Signing in

Accounts are made, found and authenticated.

* `Engine.register`: a new account with the initial balance.
* `Engine.authenticate`: unknown names and wrong passwords are not told apart.
* `Engine.signIn`: authenticates an account, or registers it when there is none of the name.
-/

namespace Scrip.Engine

open Credential Work
open Crypt (Salt)

/-- An account that is about to be registered, when name and password are acceptable. -/
def newAccount? (e : Engine) (username password : String) (salt : Salt) :
    Except Error NewAccount := do
  let username ← normalizeUsername username
  validatePassword password
  return ⟨username, hashPassword salt password, e.initialBalance⟩

/-- Adds an account, unless its name is taken. -/
def insertNew (account : NewAccount) : Work Account := do
  if (← call (.accountByName account.username)).isSome then
    refuse (.accountAlreadyExists account.username)
  match ← attempt (.insertAccount account) with
  | .ok inserted => pure inserted
  | .error (.conflict _) => refuse (.accountAlreadyExists account.username)
  | .error e => throw (.store e)

/-- Makes an account that holds the initial balance. -/
def register (e : Engine) (username password : String) (salt : Salt) :
    Exchange (Except Error Account) :=
  match e.newAccount? username password salt with
  | .error refusal => .done (.error refusal)
  | .ok account => e.unit .register (insertNew account)

/-- The account, if it was found and the password is its own. -/
def letIn (password : String) : Option Account → Except Error Account
  | some account =>
    if verifyPassword password account.passwordHash then .ok account
    else .error .invalidCredentials
  | none => .error .invalidCredentials

/-- The account of a name and password. -/
def authenticate (e : Engine) (username password : String) : Exchange (Except Error Account) := do
  match ← e.unit .authenticate (call (.accountByName (canonicalUsername username))) with
  | .ok found => pure (letIn password found)
  | .error failure => pure (.error failure)

/-- The account of a number. -/
def account (e : Engine) (id : AccountId) : Exchange (Except Error Account) :=
  e.unit .account do
    found (.noAccount id) (← call (.account id))

/-- The account of a name. -/
def accountByName (e : Engine) (username : String) : Exchange (Except Error Account) :=
  let username := canonicalUsername username
  e.unit .account do
    found (.accountNotFound username) (← call (.accountByName username))

/-- Registers an account, and authenticates it when somebody registered the name meanwhile. -/
def registerOrAuthenticate (e : Engine) (username password : String) (salt : Salt) :
    Exchange (Except Error Account) := do
  match ← e.register username password salt with
  | .error (.accountAlreadyExists _) => e.authenticate username password
  | outcome => pure outcome

/-- Authenticates an account, or registers one when there is none of the name. -/
def signIn (e : Engine) (username password : String) (salt : Salt) :
    Exchange (Except Error Account) := do
  match ← e.authenticate username password with
  | .error .invalidCredentials =>
    match ← e.accountByName (canonicalUsername username) with
    | .ok _ => pure (.error .invalidCredentials)
    | .error (.accountNotFound _) => e.registerOrAuthenticate username password salt
    | .error failure => pure (.error failure)
  | outcome => pure outcome

end Scrip.Engine
