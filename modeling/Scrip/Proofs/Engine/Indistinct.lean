import Scrip.Proofs.Engine.Work
import Scrip.Proofs.Store.Veiled

/-!
# What movements look at

Of an account that it only searches a movement looks at the number, and of one that it locks at all
but the password hash. On answers that are the same to that extent (`Request.Indistinct`) it asks
the same and ends with the same value (`moveCoins_indistinct`, `buy_indistinct`).
-/

namespace Scrip

open Work

/-- Answers that a movement does not tell apart. -/
def Request.Indistinct : (r : Request) → r.Answer → r.Answer → Prop
  | .account _, x, x' | .accountByName _, x, x' => x.map Account.id = x'.map Account.id
  | r, x, x' => r.Veiled x x'

namespace Engine

variable {α β : Type}

/-- Work on answers that a movement does not tell apart. -/
abbrev Unaware (R : α → α → Prop) (w w' : Work α) : Prop :=
  Work.Paired Request.Indistinct R w w'

/-- An account was searched. Its number is known. -/
theorem Unaware.searched {x x' : Option Account} (h : x.map Account.id = x'.map Account.id)
    {e : Error} : Unaware (fun a a' => a.id = a'.id) (found e x) (found e x') := by
  rcases map_eq_cases h with ⟨rfl, rfl⟩ | ⟨a, a', rfl, rfl, same⟩
  · exact .throw _
  · exact .pure same

theorem lock_indistinct (id : AccountId) : Unaware Account.Veiled (lock id) (lock id) := by
  refine (Paired.call _).bind fun x x' h => ?_
  rcases map_eq_cases h with ⟨rfl, rfl⟩ | ⟨a, a', rfl, rfl, same⟩
  · exact .throw _
  · exact .pure same

theorem lockPair_indistinct (i j : AccountId) :
    Unaware (fun x x' => x.1.Veiled x'.1 ∧ x.2.Veiled x'.2) (lockPair i j) (lockPair i j) := by
  refine (lock_indistinct _).bind fun low _ hl => (lock_indistinct _).bind fun high _ hh => ?_
  obtain ⟨_, rfl⟩ := Account.exists_hash hl
  refine .pure ?_
  show Account.Veiled _ _ ∧ Account.Veiled _ _
  split
  · exact ⟨hl, hh⟩
  · exact ⟨hh, hl⟩

theorem moveCoins_indistinct (id : AccountId) (name : String) (amount : Int) :
    Unaware Eq (moveCoins id name amount) (moveCoins id name amount) := by
  refine (Paired.call _).bind fun _ _ h => (Unaware.searched h).bind fun s s' hs => ?_
  refine (Paired.call _).bind fun _ _ h => (Unaware.searched h).bind fun r r' hr => ?_
  rw [hs, hr]
  refine Paired.andThen (.checked _) fun entry => ?_
  refine (lockPair_indistinct _ _).bind fun ⟨sender, recipient⟩ ⟨_, _⟩ ⟨hs, hr⟩ => ?_
  obtain ⟨_, rfl⟩ := Account.exists_hash hs
  obtain ⟨_, rfl⟩ := Account.exists_hash hr
  refine Paired.guard (Paired.guard ?_)
  refine Paired.andThen .same fun _ => Paired.guard ?_
  exact Paired.andThen .same fun _ => Paired.guard (Paired.same (r := .append entry))

theorem raise_indistinct (account : AccountId) (item : ItemId) :
    Unaware Eq (raise account item) (raise account item) := by
  refine Paired.andThen .same fun x => ?_
  split
  · exact .throw _
  · exact .pure rfl

theorem takeOne_indistinct (account : AccountId) (item : ItemId) :
    Unaware Eq (takeOne account item) (takeOne account item) := by
  refine Paired.andThen .same fun x => ?_
  split
  · refine Paired.andThen .same fun y => ?_
    split
    · exact .pure rfl
    · exact raise_indistinct account item
  · exact raise_indistinct account item

theorem buy_indistinct (id : AccountId) (name : String) :
    Unaware Eq (buy id name) (buy id name) := by
  refine Paired.andThen .same fun x => Paired.andThen (.found x) fun item => ?_
  refine (lock_indistinct id).bind fun buyer _ h => ?_
  obtain ⟨_, rfl⟩ := Account.exists_hash h
  refine Paired.andThen (.checked _) fun entry => Paired.guard ?_
  refine Paired.andThen .same fun _ => Paired.guard ?_
  exact Paired.andThen (takeOne_indistinct _ _) fun _ => Paired.same (r := .append entry)

end Engine

theorem Request.Indistinct.refl (r : Request) (x : r.Answer) : r.Indistinct x x := by
  cases r <;> rfl

/-- Answers that differ in password hashes at most. -/
theorem Request.Indistinct.of_veiled (r : Request) (x x' : r.Answer) (h : r.Veiled x x') :
    r.Indistinct x x' := by
  cases r with
  | account | accountByName =>
    rcases Account.veiled_cases h with ⟨rfl, rfl⟩ | ⟨a, hash, rfl, rfl⟩ <;> rfl
  | _ => exact h

end Scrip
