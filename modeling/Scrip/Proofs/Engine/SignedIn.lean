import Scrip.Proofs.Credential.Password
import Scrip.Proofs.Engine.Creation

/-!
# Signing in alone

To sign in is to authenticate where there is an account of the name, and to register where there is
none (`signIn_decides`): with nobody in between, the one is not taken for the other, although an
unknown name and a wrong password are refused alike. Who was let in once is let in again, and
nothing changes.

* `signIn_known`, `signIn_unknown`: the two ways of signing in, to the reading of the clock;
* `Owns`: an account of a name and a password, which everybody has who signed in.
-/

namespace Scrip

open Backend (keeper_ok)
open Credential Work
open Crypt (Salt)
open Keeper (Does Ends)

variable {k : Backend} {applied : Option (Table String)} {b : Books} {clock : Nat → Instant}
  {n : Nat}

/-- The account of a name is looked for and found as it is in the books. -/
theorem Backend.finds_account (storable : b.Storable) (name : String) :
    Does k.keeper clock (call (.accountByName name)) (k.hold applied b) n
      (.ok (b.accountByName? name)) (k.hold applied b) n :=
  .call (keeper_ok (r := .accountByName name) storable trivial id rfl k applied)

namespace Engine

variable {e : Engine} {username password : String} {salt : Salt} {a : Account}

theorem authenticate_ends (storable : b.Storable) :
    Ends k.keeper clock (e.authenticate username password) (k.hold applied b) n
      (letIn password (b.accountByName? (canonicalUsername username))) (k.hold applied b) n :=
  .bind (.unit_ok (Backend.finds_account storable _)) (.done _)

theorem accountByName_ends (storable : b.Storable) :
    Ends k.keeper clock (e.accountByName username) (k.hold applied b) n
      (b.lookUpName (canonicalUsername username)) (k.hold applied b) n := by
  have looks : Does k.keeper clock (call (.accountByName (canonicalUsername username)))
      (k.hold applied b) n (.ok (b.accountByName? (canonicalUsername username))) (k.hold applied b)
      n := Backend.finds_account storable _
  unfold Books.lookUpName
  cases known : b.accountByName? (canonicalUsername username) with
  | some a =>
    rw [known] at looks
    exact .unit_ok (looks.bind (.pure a))
  | none =>
    rw [known] at looks
    exact .unit_refused (looks.bind (.throw _))

/-- Under a name that is known. -/
theorem signIn_known (storable : b.Storable)
    (known : b.accountByName? (canonicalUsername username) = some a) :
    Ends k.keeper clock (e.signIn username password salt) (k.hold applied b) n
      (letIn password (some a)) (k.hold applied b) n := by
  refine .bind (authenticate_ends storable) ?_
  rw [known]
  by_cases verified : verifyPassword password a.passwordHash = true
  · rw [letIn, if_pos verified]
    exact .done _
  · rw [letIn, if_neg verified]
    refine .bind (accountByName_ends storable) ?_
    rw [canonicalUsername_idem, Books.lookUpName, known]
    exact .done _

/-- A name that nobody has is not refused as taken. -/
theorem registered_free (e : Engine) (password : String) (salt : Salt)
    (free : b.accountByName? (canonicalUsername username) = none) (now : Instant) (name : String) :
    (b.registered e username password salt now).1 ≠ .error (.accountAlreadyExists name) := by
  unfold Books.registered
  cases accepted : e.newAccount? username password salt with
  | error refusal =>
    obtain ⟨detail, rfl⟩ := newAccount?_eq_error accepted
    nofun
  | ok new =>
    have same := normalizeUsername_eq_ok (newAccount?_eq_ok accepted).1
    simp only [same, free]
    nofun

/-- Under a name that nobody has. -/
theorem signIn_unknown (hm : e.initialBalance ≤ maxCoins) (storable : b.Storable)
    (free : b.accountByName? (canonicalUsername username) = none) :
    ∃ n', Ends k.keeper clock (e.signIn username password salt) (k.hold applied b) n
      (b.registered e username password salt (clock n).shown).1
      (k.hold applied (b.registered e username password salt (clock n).shown).2) n' := by
  obtain ⟨n', registers⟩ := register_ends applied hm storable (.inl rfl) username password salt
    clock n
  have never := registered_free e password salt free (clock n).shown
  refine ⟨n', .bind (authenticate_ends storable) ?_⟩
  rw [free, letIn]
  refine .bind (accountByName_ends storable) ?_
  rw [canonicalUsername_idem, Books.lookUpName, free]
  refine .bind registers ?_
  generalize b.registered e username password salt (clock n).shown = ended at never ⊢
  split
  · rename_i told
    exact absurd told (never _)
  · exact .done _

/-! ## Signing in again -/

/-- There is an account of the name and the password. -/
structure Owns (b : Books) (username password : String) (a : Account) : Prop where
  known : b.accountByName? (canonicalUsername username) = some a
  verified : verifyPassword password a.passwordHash = true

/-- Who is registered owns an account. -/
theorem registered_owns (hm : e.initialBalance ≤ maxCoins) (storable : b.Storable) {now : Instant}
    (ok : (b.registered e username password salt now.shown).1 = .ok a) :
    (b.registered e username password salt now.shown).2.Storable ∧
      Owns (b.registered e username password salt now.shown).2 username password a := by
  unfold Books.registered at ok ⊢
  cases accepted : e.newAccount? username password salt with
  | error refusal =>
    rw [accepted] at ok
    cases ok
  | ok new =>
    obtain ⟨name, -, hash, coins⟩ := newAccount?_eq_ok accepted
    simp only [accepted] at ok ⊢
    split at ok
    · cases ok
    · rename_i free
      cases ok
      rw [if_neg free]
      have respects : b.Respects (.insertAccount new) :=
        ⟨coins ▸ e.initialBalance_nonneg, coins ▸ hm⟩
      have made : b.answer now.shown (.insertAccount new) = .ok (b.addAccount now.shown new) :=
        if_neg free
      refine ⟨storable.answer now.ordinary_shown respects made, ?_, ?_⟩
      · rw [← normalizeUsername_eq_ok name]
        exact Books.accountByName?_withAccount (Option.not_isSome_iff_eq_none.mp free)
      · show verifyPassword password new.passwordHash = true
        rw [hash]
        exact verifyPassword_hashPassword salt password

/-- Who signed in owns an account. -/
theorem signIn_owns (hm : e.initialBalance ≤ maxCoins) (storable : b.Storable) {x : k.State}
    (ok : k.keeper.alone clock (k.hold applied b) (e.signIn username password salt) =
      (.ok a, x)) :
    ∃ b', b'.Storable ∧ x = k.hold applied b' ∧ Owns b' username password a := by
  cases known : b.accountByName? (canonicalUsername username) with
  | some a' =>
    rw [(signIn_known storable known).alone] at ok
    obtain ⟨admitted, rfl⟩ := Prod.mk.inj ok
    obtain ⟨same, verified⟩ := letIn_eq_ok admitted
    exact ⟨b, storable, rfl, known.trans same, verified⟩
  | none =>
    obtain ⟨n', ends⟩ : ∃ n', Ends k.keeper clock (e.signIn username password salt)
      (k.hold applied b) 0 _ _ n' := signIn_unknown hm storable known
    rw [ends.alone] at ok
    obtain ⟨told, rfl⟩ := Prod.mk.inj ok
    obtain ⟨storable', owns⟩ := registered_owns hm storable told
    exact ⟨_, storable', rfl, owns⟩

/-- Who owns an account is let in as often as it is tried, and nothing changes. -/
theorem signIns_again (storable : b.Storable) (owns : Owns b username password a)
    {again : List (String × Salt)}
    (same : ∀ y ∈ again, canonicalUsername y.1 = canonicalUsername username) :
    Ends k.keeper clock (again.mapM fun y => e.signIn y.1 password y.2) (k.hold applied b) n
      (again.map fun _ => .ok a) (k.hold applied b) n := by
  induction again with
  | nil => exact .done _
  | cons y again ih =>
    rw [List.forall_mem_cons] at same
    have known : b.accountByName? (canonicalUsername y.1) = some a := by
      rw [same.1]
      exact owns.known
    have admitted : letIn password (some a) = .ok a := if_pos owns.verified
    rw [List.mapM_cons]
    refine .bind (signIn_known storable known) (.bind (ih same.2) ?_)
    rw [admitted]
    exact .done _

end Engine

open Troubled in
/-- Whatever clients command from the moment at which nothing was done, in any order and whatever
goes wrong, in either store: to sign in with any name and password, with nobody in between, ends
just as to authenticate does where there is an account of the canonical name, and nothing changes.
Where there is none, it ends just as to register does and changes the same; so an unacceptable name
or password is refused as such, and the name is never said to be taken or the password to be wrong.
Who signed in is let in to the same account by the same password from then on, however the name is
spelled, as often as it is tried, and nothing changes. -/
theorem signIn_decides {ι : Type} [DecidableEq ι] {e : Engine} (hm : e.initialBalance ≤ maxCoins)
    {k : Backend} {now : Instant} {plan : ι → List Command} {history : List (Happening ι)}
    {S : Troubled ι k.State (List (Except Error Outcome))}
    (run : Run k.keeper (carryingOut e k now plan) history S) :
    ∃ b : Books, S.committed = k.hold (some Migration.noted) b ∧
      ∀ (clock : Nat → Instant) (username password : String) (salt : Salt),
        let signedIn := k.keeper.alone clock S.committed (e.signIn username password salt)
        ((∃ a ∈ b.accounts, a.username = canonicalUsername username) →
          signedIn = k.keeper.alone clock S.committed (e.authenticate username password) ∧
          signedIn.2 = S.committed) ∧
        ((∀ a ∈ b.accounts, a.username ≠ canonicalUsername username) →
          signedIn = k.keeper.alone clock S.committed (e.register username password salt) ∧
          (∀ name, signedIn.1 ≠ .error (.accountAlreadyExists name)) ∧
          signedIn.1 ≠ .error .invalidCredentials ∧
          ∃ b', b.RegisterEnds e username password salt (clock 0).shown signedIn.1 b' ∧
            signedIn.2 = k.hold (some Migration.noted) b') ∧
        ∀ a, signedIn.1 = .ok a → ∀ (clock' : Nat → Instant) (again : List (String × Salt)),
          (∀ y ∈ again, canonicalUsername y.1 = canonicalUsername username) →
          k.keeper.alone clock' signedIn.2 (again.mapM fun y => e.signIn y.1 password y.2) =
            (again.map fun _ => .ok a, signedIn.2) := by
  obtain ⟨b, storable, committed, -⟩ := run.invariant hm (I := fun _ => True) trivial
    fun _ _ _ _ _ _ => trivial
  rw [committed]
  refine ⟨b, rfl, fun clock username password salt => ?_⟩
  dsimp only
  refine ⟨fun there => ?_, fun free => ?_, fun a ok clock' again same => ?_⟩
  · obtain ⟨a, known⟩ := Option.isSome_iff_exists.mp (Books.isSome_accountByName?.mpr there)
    have authenticates : Ends k.keeper clock (e.authenticate username password)
      (k.hold (some Migration.noted) b) 0 _ _ 0 := Engine.authenticate_ends storable
    rw [(Engine.signIn_known storable known).alone, authenticates.alone, known]
    exact ⟨rfl, rfl⟩
  · have unknown : b.accountByName? (canonicalUsername username) = none :=
      Option.not_isSome_iff_eq_none.mp (by simpa [Books.isSome_accountByName?] using free)
    obtain ⟨_, signs⟩ : ∃ n', Ends k.keeper clock (e.signIn username password salt)
      (k.hold (some Migration.noted) b) 0 _ _ n' := Engine.signIn_unknown hm storable unknown
    obtain ⟨_, registers⟩ := Engine.register_ends (some Migration.noted) hm storable (.inl rfl)
      username password salt clock 0
    have ends : b.RegisterEnds e username password salt (clock 0).shown _ _ :=
      Books.registerEnds_registered username password salt
    have never := Engine.registered_free e password salt unknown (clock 0).shown
    rw [signs.alone, registers.alone]
    generalize b.registered e username password salt (clock 0).shown = ended at ends never
    obtain ⟨o, b'⟩ := ended
    refine ⟨rfl, never, ?_, b', ends, rfl⟩
    rintro rfl
    cases ends
  · generalize ended : k.keeper.alone clock (k.hold (some Migration.noted) b)
      (e.signIn username password salt) = signedIn at ok ⊢
    obtain ⟨o, x⟩ := signedIn
    obtain rfl : o = .ok a := ok
    obtain ⟨b', storable', rfl, owns⟩ := Engine.signIn_owns hm storable ended
    exact (Engine.signIns_again storable' owns same).alone

open Troubled in
/-- Two clients and a cup, with the entry of its purchase. -/
theorem signIn_decides_cup :
    let e : Engine := {}
    let k := Backend.memory
    e.initialBalance ≤ maxCoins ∧ ∃ history S,
      Run k.keeper (carryingOut e k default cupPlan) history S ∧
      (∃ x, (S.committed : Books).ledger = [x]) ∧
      ∃ b : Books, S.committed = k.hold (some Migration.noted) b ∧
        ∀ (clock : Nat → Instant) (username password : String) (salt : Salt),
          let signedIn := k.keeper.alone clock S.committed (e.signIn username password salt)
          ((∃ a ∈ b.accounts, a.username = canonicalUsername username) →
            signedIn = k.keeper.alone clock S.committed (e.authenticate username password) ∧
            signedIn.2 = S.committed) ∧
          ((∀ a ∈ b.accounts, a.username ≠ canonicalUsername username) →
            signedIn = k.keeper.alone clock S.committed (e.register username password salt) ∧
            (∀ name, signedIn.1 ≠ .error (.accountAlreadyExists name)) ∧
            signedIn.1 ≠ .error .invalidCredentials ∧
            ∃ b', b.RegisterEnds e username password salt (clock 0).shown signedIn.1 b' ∧
              signedIn.2 = k.hold (some Migration.noted) b') ∧
          ∀ a, signedIn.1 = .ok a → ∀ (clock' : Nat → Instant) (again : List (String × Salt)),
            (∀ y ∈ again, canonicalUsername y.1 = canonicalUsername username) →
            k.keeper.alone clock' signedIn.2 (again.mapM fun y => e.signIn y.1 password y.2) =
              (again.map fun _ => .ok a, signedIn.2) := by
  intro e k
  have hm : e.initialBalance ≤ maxCoins := by
    show defaultGrant ≤ maxCoins
    decide
  obtain ⟨_, _, _, S, x, run, run', -, noted⟩ := exists_cupRun
  have all := run.append run'
  exact ⟨hm, _, S, all, ⟨x, noted⟩, signIn_decides hm all⟩

end Scrip
