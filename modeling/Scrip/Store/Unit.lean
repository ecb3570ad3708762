import Scrip.Dialogue
import Scrip.Error
import Scrip.Store.Request

/-!
# Units of work

An operation reads and writes inside a unit, which is committed as a whole or not at all.

* `Work`: a dialogue of requests inside a unit. It ends with a value or with the reason why the
  unit must not be committed.
* `inUnit`: work between the beginning of a unit and its end. A value is followed by a commit and
  a failure by a rollback. When the deadline expires the unit is dropped: nothing more is asked.
-/

namespace Scrip

/-- Why a request under a deadline has no answer. -/
inductive Lapse where
  | failed (e : StoreError)
  /-- The deadline passed first. -/
  | expired
  deriving DecidableEq, Repr

/-- What comes back for a request. -/
abbrev Request.Reply (r : Request) : Type :=
  Except Lapse r.Answer

/-- Why a unit must not be committed. -/
inductive Failure where
  /-- A rule of the house refuses the operation. -/
  | rule (e : Error)
  | store (e : StoreError)
  | expired
  deriving DecidableEq, Repr

/-- What is done inside a unit. -/
abbrev Work (α : Type) : Type :=
  ExceptT Failure (Dialogue Request Request.Reply) α

namespace Work

/-- How work goes on with a reply, where the failure of the store is a value like any other. -/
def ofReply {α : Type} : Except Lapse α → Except Failure (Except StoreError α)
  | .ok a => .ok (.ok a)
  | .error (.failed e) => .ok (.error e)
  | .error .expired => .error .expired

/-- A request whose failure the work looks at. -/
def attempt (r : Request) : Work (Except StoreError r.Answer) :=
  ExceptT.mk (.ask r fun reply => .done (ofReply reply))

/-- A request whose failure ends the work. -/
def call (r : Request) : Work r.Answer := do
  match ← attempt r with
  | .ok a => pure a
  | .error e => throw (.store e)

/-- Ends the work because a rule refuses the operation. -/
def refuse {α : Type} (e : Error) : Work α :=
  throw (.rule e)

/-- The value that was found, or a refusal. -/
def found {α : Type} (e : Error) : Option α → Work α
  | some a => pure a
  | none => refuse e

/-- The value a rule gave, or its refusal. -/
def checked {α : Type} : Except Error α → Work α
  | .ok a => pure a
  | .error e => refuse e

end Work

/-- What is asked of a storage: requests, and where a unit begins and how it ends. -/
inductive Call where
  /-- Waits until no other unit is open and opens one, within a limit of milliseconds. -/
  | begin (limit : Option Nat)
  | within (r : Request)
  | commit
  | rollback
  deriving DecidableEq, Repr

/-- What comes back for a call. A commit is awaited however long it takes. -/
@[reducible] def Call.Reply : Call → Type
  | begin _ => Except Lapse Unit
  | within r => r.Reply
  | commit => Except StoreError Unit
  | rollback => Except Lapse Unit

/-- A dialogue with a storage. -/
abbrev Exchange (α : Type) : Type :=
  Dialogue Call Call.Reply α

/-- Work as seen from the storage. -/
def Work.exchange {α : Type} (w : Work α) : Exchange (Except Failure α) :=
  w.run.embed Call.within fun _ reply => reply

/-- The error that callers see when a unit was not committed. -/
def Failure.toError (op : Operation) : Failure → Error
  | rule e => e
  | store _ => .operationFailed op.label
  | expired => .timeout op.label

/-- The end of a unit: a commit after a value, a rollback after a failure. How the rollback
fails does not matter, but the deadline may expire during it. -/
def settle {α : Type} (op : Operation) : Except Failure α → Exchange (Except Error α)
  | .ok a => .ask .commit fun
    | .ok () => .done (.ok a)
    | .error e => .done (.error (Failure.toError op (.store e)))
  | .error .expired => .done (.error (Failure.toError op .expired))
  | .error failure => .ask .rollback fun
    | .error .expired => .done (.error (Failure.toError op .expired))
    | _ => .done (.error (failure.toError op))

/-- Work inside a unit of its own. -/
def inUnit {α : Type} (op : Operation) (limit : Option Nat) (work : Work α) :
    Exchange (Except Error α) :=
  .ask (.begin limit) fun
    | .ok () => work.exchange >>= settle op
    | .error (.failed e) => .done (.error (Failure.toError op (.store e)))
    | .error .expired => .done (.error (Failure.toError op .expired))

end Scrip
