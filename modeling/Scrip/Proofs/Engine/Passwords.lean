import Scrip.Proofs.Credential.Key
import Scrip.Proofs.Engine.SignedIn

/-!
# Which passwords are accepted

Every account keeps the hash of a password that it was to be registered with (`Books.Enrolled`), and
no command changes that (`Effect.enrolled`). So who is let in is decided by the bytes of the
password that take part in its digest (`passwords_verified`). That is not all of a long password:
another one that starts alike is accepted as well (`longPassword_mistaken`).
-/

namespace Scrip

open Credential
open Crypt (Salt)
open Crypt.Bcrypt

/-- The name, the password and the salt that a command may register. -/
def Command.enrols? : Command → Option (String × String × Salt)
  | register username password salt | signIn username password salt =>
    some (username, password, salt)
  | _ => none

/-- An account as it is registered with a name and a password. -/
structure Account.EnrolledAs (a : Account) (raw password : String) (salt : Salt) : Prop where
  named : normalizeUsername raw = .ok a.username
  accepted : validatePassword password = .ok ()
  hashed : a.passwordHash = hashPassword salt password

/-- Every account is as it is registered with a name, a password and a salt that were given. -/
def Books.Enrolled (given : String × String × Salt → Prop) (b : Books) : Prop :=
  ∀ a ∈ b.accounts, ∃ raw password salt, given (raw, password, salt) ∧
    a.EnrolledAs raw password salt

namespace Books.Enrolled

variable {given : String × String × Salt → Prop} {b b' : Books}

theorem withAccount (h : b.Enrolled given) {raw password : String} {salt : Salt}
    (hg : given (raw, password, salt)) {a : Account} (ha : a.EnrolledAs raw password salt) :
    (b.withAccount a).Enrolled given := by
  intro a' ha'
  rcases List.mem_append.mp ha' with ha' | ha'
  · exact h a' ha'
  · cases List.mem_singleton.mp ha'
    exact ⟨raw, password, salt, hg, ha⟩

theorem addCoins (h : b.Enrolled given) (id : AccountId) (amount : Int) :
    (b.addCoins id amount).Enrolled given := by
  intro a ha
  obtain ⟨a', ha', rfl⟩ := List.mem_map.mp ha
  obtain ⟨raw, password, salt, hg, named, accepted, hashed⟩ := h a' ha'
  refine ⟨raw, password, salt, hg, ?_⟩
  split <;> exact ⟨named, accepted, hashed⟩

theorem of_accounts (h : b.Enrolled given) (same : b'.accounts = b.accounts) :
    b'.Enrolled given :=
  fun a ha => h a (same ▸ ha)

end Books.Enrolled

/-- Every command keeps accounts as they were registered. -/
theorem Effect.enrolled {e : Engine} {given : String × String × Salt → Prop} {b b' : Books}
    {c : Command} {o : Outcome} (he : Effect e b c o b')
    (hg : ∀ x, c.enrols? = some x → given x) (h : b.Enrolled given) : b'.Enrolled given := by
  cases he with
  | look | signIn => exact h
  | register _ accepted | signUp _ accepted =>
    obtain ⟨named, valid, hashed, -⟩ := Engine.newAccount?_eq_ok accepted
    exact h.withAccount (hg _ rfl) ⟨named, valid, hashed⟩
  | addItem => exact h.of_accounts rfl
  | transfer => exact ((h.addCoins _ _).addCoins _ _).of_accounts rfl
  | purchase => exact (h.addCoins _ _).of_accounts (Books.gain_accounts ..)

/-- There are no accounts to begin with. -/
theorem Backend.enrolled_stock (given : String × String × Salt → Prop) (now : Instant)
    (k : Backend) : (k.stock now).Enrolled given := by
  cases k <;> exact List.forall_mem_nil _

/-- Who is let in to an account is decided by the bytes of the password that take part. -/
theorem Account.EnrolledAs.letIn {a : Account} {raw p q : String} {salt : Salt}
    (h : a.EnrolledAs raw p salt) (apart : Apart hashCost salt q p) :
    Engine.letIn q (some a) =
      if schedule q = schedule p then .ok a else .error .invalidCredentials := by
  have verified := verifyPassword_iff_schedule apart
  rw [Engine.letIn, h.hashed]
  exact if_congr verified rfl rfl

open Troubled in
/-- A password is verified by the bytes of it that take part, where no two passwords of which other
bytes take part collide; for passwords without a zero character that is that they are equal, or
long and start alike. Whatever clients command from the moment at which nothing was done, in any
order and whatever goes wrong, in either store: every account was to be registered with some
password that is accepted, and is authenticated, under every spelling of its name, by exactly the
passwords of which the same bytes take part. -/
theorem passwords_verified {ι : Type} [DecidableEq ι] {e : Engine}
    (hm : e.initialBalance ≤ maxCoins) {k : Backend} {now : Instant} {plan : ι → List Command}
    {history : List (Happening ι)}
    {S : Troubled ι k.State (List (Except Error Outcome))}
    (run : Run k.keeper (carryingOut e k now plan) history S) :
    (∀ (salt : Salt) (p q : String), Apart hashCost salt q p →
      (verifyPassword q (hashPassword salt p) = true ↔ schedule q = schedule p) ∧
      ('\x00' ∉ p.toList → '\x00' ∉ q.toList →
        (verifyPassword q (hashPassword salt p) = true ↔ q = p ∨ SharesStart q p))) ∧
    ∃ b : Books, S.committed = k.hold (some Migration.noted) b ∧ ∀ a ∈ b.accounts,
      ∃ raw password salt, (∃ i, ∃ c ∈ plan i, c.enrols? = some (raw, password, salt)) ∧
        a.EnrolledAs raw password salt ∧
        ∀ y q, canonicalUsername y = a.username → Apart hashCost salt q password →
          ∀ clock : Nat → Instant, k.keeper.alone clock S.committed (e.authenticate y q) =
            (if schedule q = schedule password then .ok a else .error .invalidCredentials,
              S.committed) := by
  refine ⟨fun salt p q apart => ?_, ?_⟩
  · have verified := verifyPassword_iff_schedule apart
    exact ⟨verified, fun hp hq => verified.trans (schedule_eq_iff hq hp)⟩
  · obtain ⟨b, storable, committed, named, enrolled⟩ := run.invariant_of_plan hm
      (I := fun b => b.Named (fun _ => True) ∧
        b.Enrolled fun x => ∃ i, ∃ c ∈ plan i, c.enrols? = some x)
      ⟨k.named_stock _ now, k.enrolled_stock _ now⟩ fun i c hc _ _ _ h he =>
        ⟨he.named (fun _ _ => trivial) h.1, he.enrolled (fun x hx => ⟨i, c, hc, hx⟩) h.2⟩
    refine ⟨b, committed, fun a ha => ?_⟩
    obtain ⟨raw, password, salt, given, as⟩ := enrolled a ha
    refine ⟨raw, password, salt, given, as, fun y q spelled apart clock => ?_⟩
    have known := (named.accountByName?_eq_some_iff ha).mpr spelled
    have authenticates : Keeper.Ends k.keeper clock (e.authenticate y q)
      (k.hold (some Migration.noted) b) 0 _ _ 0 := Engine.authenticate_ends storable
    rw [committed, authenticates.alone, known, as.letIn apart]

/-- Six dozen letters, all that takes part of a password, and one that does not. -/
def longPassword (last : Char) : String :=
  String.ofList (List.replicate 72 'a' ++ [last])

theorem schedule_longPassword : schedule (longPassword 'y') = schedule (longPassword 'x') := by
  decide +kernel

/-- Two accepted passwords that differ in their last letter are taken for one another. -/
theorem longPassword_mistaken :
    validatePassword (longPassword 'x') = .ok () ∧ validatePassword (longPassword 'y') = .ok () ∧
      longPassword 'y' ≠ longPassword 'x' ∧
      verifyPassword (longPassword 'y') (hashPassword (.replicate 7) (longPassword 'x')) =
        true := by
  refine ⟨if_neg (by decide +kernel), if_neg (by decide +kernel), by decide +kernel, ?_⟩
  exact (verifyPassword_iff_digest ..).mpr (digest_eq_of_schedule_eq schedule_longPassword ..)

open Troubled in
/-- Two clients and a cup, and two passwords that start alike. -/
theorem passwords_verified_cup :
    let e : Engine := {}
    let k := Backend.memory
    e.initialBalance ≤ maxCoins ∧
      Apart hashCost (.replicate 7) (longPassword 'y') (longPassword 'x') ∧
      ∃ history S, Run k.keeper (carryingOut e k default cupPlan) history S ∧
      (∃ x, (S.committed : Books).ledger = [x]) ∧
      (∀ (salt : Salt) (p q : String), Apart hashCost salt q p →
        (verifyPassword q (hashPassword salt p) = true ↔ schedule q = schedule p) ∧
        ('\x00' ∉ p.toList → '\x00' ∉ q.toList →
          (verifyPassword q (hashPassword salt p) = true ↔ q = p ∨ SharesStart q p))) ∧
      ∃ b : Books, S.committed = k.hold (some Migration.noted) b ∧ ∀ a ∈ b.accounts,
        ∃ raw password salt, (∃ i, ∃ c ∈ cupPlan i, c.enrols? = some (raw, password, salt)) ∧
          a.EnrolledAs raw password salt ∧
          ∀ y q, canonicalUsername y = a.username → Apart hashCost salt q password →
            ∀ clock : Nat → Instant, k.keeper.alone clock S.committed (e.authenticate y q) =
              (if schedule q = schedule password then .ok a else .error .invalidCredentials,
                S.committed) := by
  intro e k
  have hm : e.initialBalance ≤ maxCoins := by
    show defaultGrant ≤ maxCoins
    decide
  obtain ⟨_, _, _, S, x, run, run', -, noted⟩ := exists_cupRun
  have all := run.append run'
  exact ⟨hm, fun _ => cycleWords_key_eq_iff.mpr schedule_longPassword, _, S, all, ⟨x, noted⟩,
    passwords_verified hm all⟩

end Scrip
