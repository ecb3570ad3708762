import Scrip.Engine.SignIn
import Scrip.Proofs.Credential.Username
import Scrip.Proofs.Engine.Effect
import Scrip.Proofs.Framework.Answers

/-!
# The units of signing in

What the work of each unit yields when every request reaches the books, and how an account
is found once it was made.
-/

namespace Scrip

open Credential Work
open Crypt (Salt)

/-- An account that was made is found by its name. -/
theorem Books.accountByName?_withAccount {b : Books} {a : Account}
    (h : b.accountByName? a.username = none) :
    (b.withAccount a).accountByName? a.username = some a := by
  simp only [accountByName?, withAccount] at h ⊢
  rw [List.find?_append, h, Option.none_or, List.find?_singleton, if_pos (by simp)]

namespace Engine

variable {b : Books}

theorem lookup_yields (name : String) :
    (call (.accountByName name)).Yields b fun outcome b' =>
      outcome = .ok (b.accountByName? name) ∧ b' = b :=
  Yields.read (fun _ => rfl) ⟨rfl, rfl⟩

/-- A search by name finds the account of the name or refuses. -/
theorem find_yields (name : String) (e : Error) :
    Yields (do found e (← call (.accountByName name)) : Work Account) b fun outcome b' =>
      b' = b ∧ ((∃ a, b.accountByName? name = some a ∧ outcome = .ok a) ∨
        (b.accountByName? name = none ∧ outcome = .error (.rule e))) := by
  refine Yields.bind ((lookup_yields name).mono fun outcome b' ⟨ho, hb⟩ => ?_)
  subst ho hb
  exact Yields.found (fun a ha => ⟨rfl, .inl ⟨a, ha, rfl⟩⟩) fun hn => ⟨rfl, .inr ⟨hn, rfl⟩⟩

/-- An account is added under a new name, and refused under one that is taken. -/
theorem insertNew_yields (new : NewAccount) :
    (insertNew new).Yields b fun outcome b' =>
      (b.accountByName? new.username = none ∧
        ∃ now, outcome = .ok (new.toAccount (b.sequences.account + 1) now) ∧
          b' = b.withAccount (new.toAccount (b.sequences.account + 1) now)) ∨
      ((b.accountByName? new.username).isSome ∧
        outcome = .error (.rule (.accountAlreadyExists new.username)) ∧ b' = b) := by
  refine Yields.bind ((lookup_yields new.username).mono fun outcome b' ⟨ho, hb⟩ => ?_)
  subst ho hb
  refine Yields.guard (fun taken => .inr ⟨taken, rfl, rfl⟩) fun free => ?_
  have none : b'.accountByName? new.username = none := by simpa using free
  have inserts (now : Instant) :
      b'.answer now (.insertAccount new) = .ok (b'.addAccount now new) := if_neg free
  refine Yields.bind (Yields.attempt (fun now a b₁ h => ?_) fun now e h => ?_)
  · cases (inserts now).symm.trans h
    exact Yields.pure (.inl ⟨none, now, rfl, rfl⟩)
  · cases (inserts now).symm.trans h

/-- A name and a password that are acceptable make an account of the canonical name with the
grant. -/
theorem newAccount?_of_accepted (e : Engine) {username password name : String} (salt : Salt)
    (hn : normalizeUsername username = .ok name) (hp : validatePassword password = .ok ()) :
    e.newAccount? username password salt =
      .ok ⟨canonicalUsername username, hashPassword salt password, e.initialBalance⟩ := by
  rw [newAccount?, hn, hp, normalizeUsername_eq_ok hn]
  rfl

theorem register_of_accepted {e : Engine} {username password : String} {salt : Salt}
    {new : NewAccount} (hn : e.newAccount? username password salt = .ok new) :
    e.register username password salt = e.unit .register (insertNew new) := by
  unfold register
  simp only [hn]

end Engine

end Scrip
