import Scrip.Store.Unit

/-!
# Engines

What is set for all operations: the coins that a new account is granted and the time an operation
may take.

* `Engine.of?`: the settings that are accepted.
* `Engine.unit`: work inside a unit, under the deadline of the operation or else of the engine.
-/

namespace Scrip

/-- The settings shared by all operations. -/
structure Engine where
  /-- The coins granted to a new account. -/
  initialBalance : Int := defaultGrant
  /-- How many milliseconds a unit may take until its commit, when limited. -/
  timeout : Option Nat := none
  initialBalance_nonneg : 0 ≤ initialBalance := by decide
  timeout_ne_zero : timeout ≠ some 0 := by decide

namespace Engine

/-- An engine of these settings, when a grant is not negative and a timeout not zero. -/
def of? (initialBalance : Int) (timeout : Option Nat) : Except Error Engine :=
  if hb : initialBalance < 0 then
    .error (.invalidAmount ("initial balance must be >= 0, got " ++ toString initialBalance))
  else if ht : timeout = some 0 then .error (.invalidInput "operation timeout must be > 0")
  else .ok ⟨initialBalance, timeout, Int.not_lt.1 hb, ht⟩

/-- Work inside a unit, under a deadline of its own or else the engine's. -/
def unit {α : Type} (e : Engine) (op : Operation) (work : Work α) (deadline : Option Nat := none) :
    Exchange (Except Error α) :=
  inUnit op (deadline.or e.timeout) work

end Engine

end Scrip
