import Scrip.Engine.Command
import Scrip.Proofs.Engine.Indistinct
import Scrip.Proofs.Framework.Ruled

/-!
# Work without password hashes

Apart from authentication no work looks at a password hash: side by side, on answers of which the
same is left without hashes, it goes on in the same way and ends with the same value, or with
accounts of which the same is left (`insertNew_paired`, `moveCoins_paired`, ...).
-/

namespace Scrip

open Credential Work
open Crypt (Salt)

/-- A statement without the password hash of its account. -/
def Statement.veiled (s : Statement) : Statement :=
  { s with account := s.account.veiled }

/-- Statements that differ in the password hash at most. -/
def Statement.Veiled (s s' : Statement) : Prop :=
  s.veiled = s'.veiled

namespace Engine

variable {α β : Type}

/-- Work on answers that differ in password hashes at most. -/
abbrev Blind (R : α → α → Prop) (w w' : Work α) : Prop :=
  Work.Paired Request.Veiled R w w'

/-- An account was searched. -/
theorem Blind.account {x x' : Option Account}
    (h : x.map Account.veiled = x'.map Account.veiled) {e : Error} :
    Blind Account.Veiled (found e x) (found e x') := by
  rcases Account.veiled_cases h with ⟨rfl, rfl⟩ | ⟨a, hash, rfl, rfl⟩
  · exact .throw _
  · exact .pure rfl

/-- An account was searched, and something is done with it. -/
theorem Blind.found {R : α → α → Prop} {x x' : Option Account}
    (h : x.map Account.veiled = x'.map Account.veiled) {e : Error} {f f' : Account → Work α}
    (hf : ∀ a hash, Blind R (f a) (f' { a with passwordHash := hash })) :
    Blind R (Work.found e x >>= f) (Work.found e x' >>= f') := by
  refine Paired.bind (account h) fun a a' h => ?_
  obtain ⟨hash, rfl⟩ := Account.exists_hash h
  exact hf a hash

theorem insertNew_paired (new : NewAccount) :
    Blind Account.Veiled (insertNew new) (insertNew new) := by
  refine (Paired.call _).bind fun x x' h => ?_
  have taken : x.isSome = x'.isSome := by
    have h := congrArg Option.isSome h
    simpa only [Request.veil, Option.isSome_map] using h
  rw [taken]
  refine Paired.guard ((Paired.attempt _).bind fun y y' h => ?_)
  cases h with
  | ok h => exact .pure h
  | error e => cases e <;> exact .throw _

theorem moveCoins_paired (id : AccountId) (name : String) (amount : Int) :
    Blind Eq (moveCoins id name amount) (moveCoins id name amount) :=
  (moveCoins_indistinct id name amount).of_alike Request.Indistinct.of_veiled

theorem buy_paired (id : AccountId) (name : String) : Blind Eq (buy id name) (buy id name) :=
  (buy_indistinct id name).of_alike Request.Indistinct.of_veiled

theorem loadInventory_paired (id : AccountId) :
    Blind Eq (loadInventory id) (loadInventory id) := by
  have owned (hs : List Holding) : Blind Eq (ownedItems hs) (ownedItems hs) := by
    induction hs with
    | nil => exact .pure rfl
    | cons h hs ih =>
      refine Paired.andThen .same fun item => Paired.andThen ih fun owned => ?_
      cases item <;> exact .pure rfl
  exact Paired.andThen .same owned

theorem Resolved.account_paired (r : Resolved) (id : AccountId) :
    Blind Eq (r.account id) (r.account id) := by
  unfold Resolved.account
  split
  · exact .pure rfl
  · refine (Paired.call _).bind fun x x' h => ?_
    rcases Account.veiled_cases h with ⟨rfl, rfl⟩ | ⟨a, hash, rfl, rfl⟩ <;> exact .pure rfl

theorem Resolved.item_paired (r : Resolved) (id : ItemId) : Blind Eq (r.item id) (r.item id) := by
  unfold Resolved.item
  split
  · exact .pure rfl
  · refine Paired.andThen .same fun item => ?_
    cases item <;> exact .pure rfl

theorem Resolved.entry_paired (r : Resolved) (x : Entry) : Blind Eq (r.entry x) (r.entry x) := by
  refine Paired.andThen (account_paired _ _) fun r => ?_
  refine Paired.andThen (account_paired _ _) fun r => ?_
  split
  · exact item_paired _ _
  · exact .pure rfl

theorem loadHistory_paired (owner : Account) (hash : String) :
    Blind Eq (loadHistory owner) (loadHistory { owner with passwordHash := hash }) := by
  refine Paired.andThen .same fun entries => ?_
  exact Paired.andThen (Paired.foldlM Resolved.entry_paired _ _) fun resolved => .pure rfl

/-! ## Operations -/

variable {e : Engine}

/-- Operations that give related values on answers that differ in password hashes at most. -/
abbrev Sightless (R : α → α → Prop) (d d' : Exchange (Except Error α)) : Prop :=
  Exchange.Paired Request.Veiled (Matches R) d d'

theorem statement_paired (id : AccountId) :
    Sightless Statement.Veiled (e.statement id) (e.statement id) := by
  refine Exchange.Paired.unit _ _ ((Paired.call _).bind fun _ _ h => Blind.found h fun a hash => ?_)
  refine Paired.andThen (loadInventory_paired _) fun inventory => ?_
  exact Paired.andThen (loadHistory_paired a hash) fun history => .pure rfl

theorem catalog_paired : Sightless Eq e.catalog e.catalog :=
  .unit _ _ (Paired.same (r := .items))

theorem transfer_paired (id : AccountId) (name : String) (amount : Int) (deadline : Option Nat) :
    Sightless Eq (e.transfer id name amount deadline) (e.transfer id name amount deadline) := by
  unfold transfer
  split
  · exact .done (.error _)
  · exact .unit _ _ (moveCoins_paired ..)

theorem purchase_paired (id : AccountId) (item : String) (deadline : Option Nat) :
    Sightless Eq (e.purchase id item deadline) (e.purchase id item deadline) :=
  .unit _ _ (buy_paired ..)

end Engine

/-! ## Authentication -/

namespace Backend

/-- What comes of comparing a password with that of the account of a name, if one is found. -/
def verdict (k : Backend) (x : k.State) (username password : String) : Option Bool :=
  match k.keeper default x (.accountByName (canonicalUsername username)) with
  | .ok (some a, _) => some (verifyPassword password a.passwordHash)
  | _ => none

variable {k : Backend} {clock : Nat → Instant} {t t' : Storage k.State × Nat}

/-- A search for a name does not depend on the clock and changes nothing. -/
theorem keeper_accountByName (now : Instant) (x : k.State) (name : String) :
    k.keeper now x (.accountByName name) =
      (k.keeper default x (.accountByName name)).map fun y => (y.1, x) := by
  cases k with
  | memory => rfl
  | tables =>
    show Tables.unchanged x _ = (Tables.unchanged x _).map _
    generalize x.findAccount _ = found
    cases found <;> rfl

/-- A unit that searches a name finds what is committed, and changes nothing. -/
theorem run_lookUp (op : Operation) (limit : Option Nat) (name : String) (clock : Nat → Instant)
    (t : Storage k.State × Nat) :
    let y := (inUnit op limit (call (.accountByName name))).run (Storage.clocked k.keeper clock) t
    y.2.1.committed = t.1.committed ∧
      ∀ x, y.1 = .ok x →
        ∃ z, k.keeper default t.1.committed (.accountByName name) = .ok (x, z) := by
  obtain ⟨⟨committed, working, now⟩, n⟩ := t
  cases working with
  | some copy => exact ⟨rfl, by rintro _ ⟨⟩⟩
  | none =>
    obtain ⟨next, asked, answered, failed⟩ : ∃ next : Except Lapse (Option Account) → _,
        (call (.accountByName name)).exchange >>= settle op =
          .ask (.within (.accountByName name)) next ∧
        (∀ x, next (.ok x) = settle op (.ok x)) ∧
        ∀ e, next (.error (.failed e)) = settle op (.error (.store e)) :=
      ⟨_, rfl, fun _ => rfl, fun _ => rfl⟩
    simp only [inUnit, Dialogue.run_ask, Storage.clocked, Storage.party, asked, Storage.request,
      Storage.tick]
    cases h : k.keeper default committed (.accountByName name) with
    | error e =>
      have found (now : Instant) : k.keeper now committed (.accountByName name) = .error e := by
        rw [keeper_accountByName, h]
        rfl
      simp only [found, failed]
      exact ⟨rfl, by rintro _ ⟨⟩⟩
    | ok x =>
      have found (now : Instant) :
          k.keeper now committed (.accountByName name) = .ok (x.1, committed) := by
        rw [keeper_accountByName, h]
        rfl
      simp only [found, answered]
      refine ⟨rfl, fun y hy => ⟨x.2, ?_⟩⟩
      cases hy
      rfl

/-- Storages of which the same is left, where a password that is compared with that of the account
of a name meets the same verdict. -/
structure Agreed (k : Backend) (username password : String) (t t' : Storage k.State × Nat) : Prop
    extends k.Veiled t t' where
  verdict : k.verdict t.1.committed username password = k.verdict t'.1.committed username password

variable {e : Engine} {username password : String}

/-- What is found is compared with the same verdict. -/
theorem letIn_matches {x x' : Option Account}
    (h : x.map Account.veiled = x'.map Account.veiled)
    (verdict : x.map (verifyPassword password ·.passwordHash) =
      x'.map (verifyPassword password ·.passwordHash)) :
    Matches Account.Veiled (Engine.letIn password x) (Engine.letIn password x') := by
  rcases Account.veiled_cases h with ⟨rfl, rfl⟩ | ⟨a, hash, rfl, rfl⟩
  · exact .error _
  · have verdict : verifyPassword password a.passwordHash = verifyPassword password hash :=
      Option.some.inj verdict
    simp only [Engine.letIn, verdict]
    split
    · exact .ok rfl
    · exact .error _

theorem verdict_of_found {x : k.State} {found : Option Account} {z : k.State}
    (h : k.keeper default x (.accountByName (canonicalUsername username)) = .ok (found, z)) :
    k.verdict x username password = found.map (verifyPassword password ·.passwordHash) := by
  unfold verdict
  rw [h]
  cases found <;> rfl

/-- What a unit finds under the name is compared with the same verdict. -/
theorem Agreed.lookUp (h : k.Agreed username password t t') (op : Operation)
    (limit : Option Nat) :
    let search := inUnit op limit (call (.accountByName (canonicalUsername username)))
    Abreast clock t t' search search fun outcome outcome' s s' =>
      Matches (fun x x' => Matches Account.Veiled (Engine.letIn password x)
        (Engine.letIn password x')) outcome outcome' ∧ k.Agreed username password s s' := by
  intro search
  obtain ⟨alike, veiled⟩ := h.toVeiled.abreast clock
    (Exchange.Paired.unit op limit (Paired.call (.accountByName (canonicalUsername username))))
  obtain ⟨kept, found⟩ := run_lookUp op limit (canonicalUsername username) clock t
  obtain ⟨kept', found'⟩ := run_lookUp op limit (canonicalUsername username) clock t'
  refine ⟨?_, { veiled with verdict := by rw [kept, kept']; exact h.verdict }⟩
  show Matches _ (search.run _ t).1 (search.run _ t').1
  generalize (search.run _ t).1 = outcome, (search.run _ t').1 = outcome' at *
  cases alike with
  | error e => exact .error e
  | @ok x x' same =>
    obtain ⟨z, hz⟩ := found x rfl
    obtain ⟨z', hz'⟩ := found' x' rfl
    have verdict := h.verdict
    rw [verdict_of_found hz, verdict_of_found hz'] at verdict
    exact .ok (letIn_matches same verdict)

/-- Somebody is authenticated as the same account or not at all. -/
theorem Agreed.authenticate (h : k.Agreed username password t t') :
    Abreast clock t t' (e.authenticate username password) (e.authenticate username password)
      fun outcome outcome' s s' =>
        Matches Account.Veiled outcome outcome' ∧ k.Agreed username password s s' := by
  refine Abreast.bind (h.lookUp _ _) fun outcome outcome' s s' ⟨alike, agreed⟩ => ?_
  cases alike with
  | ok same => exact ⟨same, agreed⟩
  | error failure => exact ⟨.error _, agreed⟩

/-- A unit that fails leaves a password at the same verdict. -/
theorem Agreed.unit {α : Type} {R : α → α → Prop} (h : k.Agreed username password t t')
    (op : Operation) (limit : Option Nat) {w : Work α} (hw : Engine.Blind R w w) :
    Abreast clock t t' (inUnit op limit w) (inUnit op limit w) fun outcome outcome' s s' =>
      Matches R outcome outcome' ∧ k.Veiled s s' ∧
        ∀ e, outcome = .error e → k.Agreed username password s s' := by
  obtain ⟨alike, veiled⟩ := h.toVeiled.abreast clock (Exchange.Paired.unit op limit hw)
  refine ⟨alike, veiled, fun e he => { veiled with verdict := ?_ }⟩
  rw [unit_failed k.keeper clock t op limit he,
    unit_failed k.keeper clock t' op limit (alike.eq_error he)]
  exact h.verdict

/-- Somebody registers as the same account, with a new hash, or not at all. -/
theorem Agreed.register (h : k.Agreed username password t t') (salt : Salt) :
    Abreast clock t t' (e.register username password salt) (e.register username password salt)
      fun outcome outcome' s s' => Matches Account.Veiled outcome outcome' ∧ k.Veiled s s' ∧
        ∀ e, outcome = .error e → k.Agreed username password s s' := by
  unfold Engine.register
  split
  · exact ⟨.error _, h.toVeiled, fun _ _ => h⟩
  · exact h.unit _ _ (Engine.insertNew_paired _)

/-- An account of another name is found up to its hash. -/
theorem Agreed.accountByName (h : k.Agreed username password t t') (name : String) :
    Abreast clock t t' (e.accountByName name) (e.accountByName name)
      fun outcome outcome' s s' => Matches Account.Veiled outcome outcome' ∧ k.Veiled s s' ∧
        ∀ e, outcome = .error e → k.Agreed username password s s' := by
  refine h.unit _ _ ?_
  exact (Paired.call _).bind fun _ _ h => Engine.Blind.account h

theorem Agreed.registerOrAuthenticate (h : k.Agreed username password t t') (salt : Salt) :
    Abreast clock t t' (e.registerOrAuthenticate username password salt)
      (e.registerOrAuthenticate username password salt) fun outcome outcome' s s' =>
        Matches Account.Veiled outcome outcome' ∧ k.Veiled s s' := by
  refine (h.register salt).bind fun outcome outcome' s s' ⟨alike, veiled, failed⟩ => ?_
  cases alike with
  | ok same => exact ⟨.ok same, veiled⟩
  | error refusal =>
    split
    · refine (failed _ rfl).authenticate.mono fun _ _ _ _ ⟨alike, agreed⟩ => ?_
      exact ⟨alike, agreed.toVeiled⟩
    · exact ⟨.error _, veiled⟩

/-- Somebody signs in as the same account or not at all. -/
theorem Agreed.signIn (h : k.Agreed username password t t') (salt : Salt) :
    Abreast clock t t' (e.signIn username password salt) (e.signIn username password salt)
      fun outcome outcome' s s' =>
        Matches Account.Veiled outcome outcome' ∧ k.Veiled s s' := by
  refine h.authenticate.bind fun outcome outcome' s s' ⟨alike, agreed⟩ => ?_
  cases alike with
  | ok same => exact ⟨.ok same, agreed.toVeiled⟩
  | error refusal =>
    split
    · refine (agreed.accountByName _).bind fun outcome outcome' s s' ⟨alike, veiled, failed⟩ => ?_
      cases alike with
      | ok => exact ⟨.error _, veiled⟩
      | error refusal =>
        split
        · cases ‹Except.error refusal = .ok _›
        · exact (failed _ rfl).registerOrAuthenticate salt
        · exact ⟨.error _, veiled⟩
    · exact ⟨.error _, agreed.toVeiled⟩

end Backend

end Scrip
