import Scrip.Proofs.Concurrency.Troubled
import Scrip.Proofs.Ledger.Growth
import Scrip.Proofs.Ledger.Names
import Scrip.Proofs.Ledger.Reconciled

/-!
# What is found under a name

A name leads to the account of its canonical spelling, wherever it is given: when an account is
looked for, authenticated or signed in to, and when it is to receive coins (`one_identity`).
-/

namespace Scrip

open Backend (Stands)
open Credential Work
open Crypt (Salt)
open Dialogue (transcript)
open Exchange (Looks)

variable {b : Books} {a : Account} {y : String}

/-- A name, in whatever spelling, leads to an account if that is the account's name, and not to it
if it is not. -/
def Resolves (y : String) (a : Account) (outcome : Except Error Account) : Prop :=
  (canonicalUsername y = a.username → outcome = .ok a) ∧
    ∀ a', outcome = .ok a' → a'.id = a.id → canonicalUsername y = a.username

/-- What is found under the canonical spelling of a name, if anything. -/
theorem resolves_of_found {given : String → Prop} (named : b.Named given) (keyed : b.Keyed)
    (ha : a ∈ b.accounts) {outcome : Except Error Account}
    (here : b.accountByName? (canonicalUsername y) = some a → outcome = .ok a)
    (there : ∀ a', outcome = .ok a' → b.accountByName? (canonicalUsername y) = some a') :
    Resolves y a outcome := by
  have found : b.accountByName? (canonicalUsername y) = some a ↔ canonicalUsername y = a.username :=
    named.accountByName?_eq_some_iff ha
  refine ⟨fun h => here (found.mpr h), fun a' ho same => ?_⟩
  have known := there a' ho
  rw [keyed.eq_of_mem (Books.accountByName?_mem known).1 ha same] at known
  exact found.mp known

/-- There are no accounts to begin with. -/
theorem Backend.named_stock (given : String → Prop) (now : Instant) (k : Backend) :
    (k.stock now).Named given := by
  cases k with
  | memory => exact .empty
  | tables => exact .congr .empty rfl

/-- A lookup in the open unit. -/
theorem Backend.Stands.looksUp {k : Backend} {applied : Option (Table String)}
    {t : Storage k.State × Nat} {b₀ : Books} (h : Stands applied k t.1 ⟨b₀, some b⟩)
    (clock : Nat → Instant) {r : Request} {x : r.Answer} (hl : ¬ r.Lists) (hr : b.Accepts True r)
    (hx : ∀ now, b.answer now r = .ok (x, b)) :
    (Storage.clocked k.keeper clock (.within r) t).1 = .ok x ∧
      Stands applied k (Storage.clocked k.keeper clock (.within r) t).2.1 ⟨b₀, some b⟩ := by
  obtain ⟨y, b', hy, storable, answers⟩ := keeper_answers (h.copy b rfl) hr applied (clock t.2)
  obtain ⟨z, hz, same⟩ := answers k
  cases (hx _).symm.trans hy
  rw [← same.eq hl] at hz
  exact (h.at (clock t.2)).request storable hz

namespace Engine

variable {e : Engine} {username password : String} {salt : Salt}

/-- Who has an account of the name and the password is let in. -/
theorem signIn_lets_in (known : b.accountByName? (canonicalUsername username) = some a)
    (verified : verifyPassword password a.passwordHash = true) :
    (e.signIn username password salt).Keeps .alone b fun outcome _ => outcome = .ok a := by
  unfold signIn
  refine Exchange.Keeps.bind (authenticate_looks Terms.alone_sound) fun outcome b' h => ?_
  have admitted : letIn password (some a) = .ok a := if_pos verified
  rw [h.alone.1, known, admitted]
  exact .done rfl

/-- An acceptable name is registered if it is free, and refused if it is taken. -/
theorem register_decides {new : NewAccount} (hm : e.initialBalance ≤ maxCoins)
    (accepted : e.newAccount? username password salt = .ok new) :
    (e.register username password salt).Keeps .alone b fun outcome b' =>
      ((b.accountByName? new.username).isSome ∧ b' = b ∧
        outcome = .error (.accountAlreadyExists new.username)) ∨
      (b.accountByName? new.username = none ∧
        ∃ now, outcome = .ok (new.toAccount (b.sequences.account + 1) now) ∧
          b' = b.withAccount (new.toAccount (b.sequences.account + 1) now)) := by
  obtain ⟨-, -, -, hcoins⟩ := newAccount?_eq_ok accepted
  rw [register_of_accepted accepted]
  refine Exchange.Keeps.unit (fun b₁ hr _ => ?_) fun hx => hx.elim
  obtain rfl : b = b₁ := hr
  have decides : Complies True False (insertNew new) b _ :=
    (insertNew_decides (hcoins ▸ e.initialBalance_nonneg) (hcoins ▸ hm)).and_gives
      (insertNew_gives new)
  refine decides.mono fun outcome b' ⟨h, gives⟩ => ?_
  rcases h with ⟨taken, rfl, rfl⟩ | ⟨free, a, rfl⟩
  · exact ⟨rfl, .inl ⟨taken, rfl, rfl⟩⟩
  · obtain ⟨-, now, rfl, rfl⟩ := gives a rfl
    exact ⟨.withAccount _, .inr ⟨free, now, rfl, rfl⟩⟩

/-- A name is refused as taken exactly when it is acceptable and there is an account of it. -/
theorem register_refuses (hm : e.initialBalance ≤ maxCoins)
    (hp : validatePassword password = .ok ()) :
    (e.register username password salt).Keeps .alone b fun outcome _ =>
      ∀ name, outcome = .error (.accountAlreadyExists name) ↔
        normalizeUsername username = .ok name ∧ (b.accountByName? name).isSome := by
  cases hn : e.newAccount? username password salt with
  | error refusal =>
    unfold register
    rw [hn]
    refine .done fun name => ⟨fun h => ?_, fun ⟨accepted, _⟩ => ?_⟩
    · obtain ⟨detail, rfl⟩ := newAccount?_eq_error hn
      cases h
    · rw [newAccount?_of_accepted e salt accepted hp] at hn
      cases hn
  | ok new =>
    obtain ⟨accepted, -⟩ := newAccount?_eq_ok hn
    have named (name : String) : normalizeUsername username = .ok name ↔ new.username = name :=
      ⟨fun h => Except.ok.inj (accepted.symm.trans h), fun h => h ▸ accepted⟩
    refine (register_decides hm hn).mono fun outcome b' h name => ?_
    rw [named]
    rcases h with ⟨taken, -, rfl⟩ | ⟨free, now, rfl, -⟩
    · refine ⟨fun h => ?_, fun ⟨h, _⟩ => h ▸ rfl⟩
      cases h
      exact ⟨rfl, taken⟩
    · refine ⟨nofun, fun ⟨h, taken⟩ => ?_⟩
      rw [h] at free
      rw [free] at taken
      cases taken

/-- Who signs in with an acceptable name that is free gets an account of that name. -/
theorem signIn_registers {new : NewAccount} (hm : e.initialBalance ≤ maxCoins)
    (accepted : e.newAccount? username password salt = .ok new)
    (free : b.accountByName? new.username = none) :
    (e.signIn username password salt).Keeps .alone b fun outcome b' =>
      ∃ now, outcome = .ok (new.toAccount (b.sequences.account + 1) now) ∧
        b' = b.withAccount (new.toAccount (b.sequences.account + 1) now) := by
  obtain ⟨hname, -⟩ := newAccount?_eq_ok accepted
  have name := normalizeUsername_eq_ok hname
  unfold signIn
  refine Exchange.Keeps.bind (authenticate_looks Terms.alone_sound) fun outcome b₁ h => ?_
  obtain ⟨rfl, rfl⟩ := h.alone
  rw [← name, free]
  refine Exchange.Keeps.bind (accountByName_looks Terms.alone_sound) fun outcome b₂ h => ?_
  obtain ⟨rfl, rfl⟩ := h.alone
  rw [name, canonicalUsername_idem, ← name, Books.lookUpName, free]
  refine Exchange.Keeps.bind (register_decides hm accepted) fun outcome b' h => ?_
  rcases h with ⟨taken, -⟩ | ⟨-, now, rfl, rfl⟩
  · rw [free] at taken
    cases taken
  · exact .done ⟨now, rfl, rfl⟩

/-! ## The recipient of a transfer -/

/-- When the sender is found the recipient is looked for, by the canonical spelling of the name. -/
theorem transfer_asks {τ : Type} {party : Dialogue.Party Call Call.Reply τ} {t t₁ t₂ : τ}
    {sender : AccountId} {source : Account} {found : Option Account} {amount : Int}
    {deadline : Option Nat} (positive : 0 < amount)
    (begins : party (.begin (deadline.or e.timeout)) t = (.ok (), t₁))
    (looks : party (.within (.account sender)) t₁ = (.ok (some source), t₂))
    (finds : (party (.within (.accountByName (canonicalUsername y))) t₂).1 = .ok found) :
    ∃ before after, (e.transfer sender y amount deadline).transcript party t =
      before ++ ⟨.within (.accountByName (canonicalUsername y)), .ok found⟩ :: after := by
  have opened : e.transfer sender y amount deadline = inUnit .transfer (deadline.or e.timeout)
      (moveCoins sender (canonicalUsername y) amount) := if_neg (Int.not_le.mpr positive)
  obtain ⟨next, asks, next', asks', next'', asks''⟩ : ∃ next,
      inUnit .transfer (deadline.or e.timeout) (moveCoins sender (canonicalUsername y) amount) =
        .ask (.begin (deadline.or e.timeout)) next ∧
      ∃ next', next (.ok ()) = .ask (.within (.account sender)) next' ∧
      ∃ next'', next' (.ok (some source)) =
        .ask (.within (.accountByName (canonicalUsername y))) next'' :=
    ⟨_, rfl, _, rfl, _, rfl⟩
  refine ⟨[⟨.begin (deadline.or e.timeout), .ok ()⟩,
    ⟨.within (.account sender), .ok (some source)⟩], (next'' (.ok found)).transcript party
      (party (.within (.accountByName (canonicalUsername y))) t₂).2, ?_⟩
  rw [opened, asks, Dialogue.transcript, begins, asks', Dialogue.transcript, looks, asks'',
    Dialogue.transcript, finds]
  rfl

/-- It is found as it is in the books. -/
theorem transfer_looksUp {k : Backend} {applied : Option (Table String)} (clock : Nat → Instant)
    {t : Storage k.State × Nat} (ht : Stands applied k t.1 ⟨b, none⟩) {sender : AccountId}
    {amount : Int} (positive : 0 < amount) (there : (b.account? sender).isSome)
    (deadline : Option Nat) :
    ∃ before after, (e.transfer sender y amount deadline).transcript
        (Storage.clocked k.keeper clock) t =
      before ++ ⟨.within (.accountByName (canonicalUsername y)),
        .ok (b.accountByName? (canonicalUsername y))⟩ :: after := by
  obtain ⟨source, known⟩ := Option.isSome_iff_exists.mp there
  obtain ⟨begins, stands₁⟩ := (ht.at (clock t.2)).begins (deadline.or e.timeout)
  obtain ⟨looks, stands₂⟩ := Stands.looksUp (t := (_, t.2)) stands₁ clock (r := .account sender) id
    ⟨trivial, trivial, False.elim⟩ fun _ => rfl
  obtain ⟨finds, -⟩ := stands₂.looksUp clock (r := .accountByName (canonicalUsername y)) id
    ⟨trivial, trivial, False.elim⟩ fun _ => rfl
  rw [known] at looks
  exact transfer_asks positive (Prod.ext begins rfl) (Prod.ext looks rfl) finds

/-- Where a name leads, in whatever spelling, with some surroundings in which books are kept: to
the account of the canonical spelling, and to no other, at every entrance. -/
structure LeadsByName (e : Engine) {τ : Type} (party : Dialogue.Party Call Call.Reply τ) (t : τ)
    (b : Books) (y : String) : Prop where
  accountByName : ∀ a ∈ b.accounts, Resolves y a ((e.accountByName y).run party t).1
  authenticate : ∀ a ∈ b.accounts, ∀ password, verifyPassword password a.passwordHash = true →
    Resolves y a ((e.authenticate y password).run party t).1
  signIn : ∀ a ∈ b.accounts, ∀ password salt, verifyPassword password a.passwordHash = true →
    Resolves y a ((e.signIn y password salt).run party t).1
  /-- The lookup of the recipient, which is made when the sender is found. -/
  recipient : ∀ a ∈ b.accounts, ∀ sender amount deadline, 0 < amount →
    (b.account? sender).isSome → ∃ before found after,
      (e.transfer sender y amount deadline).transcript party t =
        before ++ ⟨.within (.accountByName (canonicalUsername y)), .ok found⟩ :: after ∧
      (found = some a ↔ canonicalUsername y = a.username)
  /-- The account that receives the coins. -/
  destination : ∀ a ∈ b.accounts, ∀ sender amount deadline entry,
    ((e.transfer sender y amount deadline).run party t).1 = .ok entry →
      (entry.destination = a.id ↔ canonicalUsername y = a.username)
  register : ∀ password salt, validatePassword password = .ok () → ∀ name,
    ((e.register y password salt).run party t).1 = .error (.accountAlreadyExists name) ↔
      normalizeUsername y = .ok name ∧ ∃ a ∈ b.accounts, a.username = name

theorem leadsByName {given : String → Prop} (hm : e.initialBalance ≤ maxCoins) {k : Backend}
    {applied : Option (Table String)} (named : b.Named given) (numbered : b.Numbered)
    (clock : Nat → Instant) {t : Storage k.State × Nat} (ht : Stands applied k t.1 ⟨b, none⟩)
    (y : String) : LeadsByName e (Storage.clocked k.keeper clock) t b y := by
  have alone {α : Type} {d : Exchange α} {Q : α → Prop} (h : d.Keeps .alone b fun x _ => Q x) :
      Q (d.run (Storage.clocked k.keeper clock) t).1 :=
    (h.run (fun _ => rfl) clock ht).choose_spec.2
  refine ⟨fun a ha => ?_, fun a ha password verified => ?_,
    fun a ha password salt verified => ⟨fun same => ?_, ?_⟩,
    fun a ha sender amount deadline positive there => ?_,
    fun a ha sender amount deadline => ?_, fun password salt hp name => ?_⟩
  · have looks : (e.accountByName y).Keeps .alone b _ := accountByName_looks Terms.alone_sound
    rw [alone (looks.mono fun _ _ h => h.alone.1)]
    exact resolves_of_found named numbered.keyed ha
      (fun found => by rw [Books.lookUpName, found]) fun _ => Books.lookUpName_eq_ok
  · have looks : (e.authenticate y password).Keeps .alone b _ :=
      authenticate_looks Terms.alone_sound
    rw [alone (looks.mono fun _ _ h => h.alone.1)]
    exact resolves_of_found named numbered.keyed ha
      (fun found => by rw [found]; exact if_pos verified) fun _ h => (letIn_eq_ok h).1
  · exact alone (signIn_lets_in ((named.accountByName?_eq_some_iff ha).mpr same) verified)
  · refine alone (Q := fun outcome => ∀ a', outcome = .ok a' → a'.id = a.id →
      canonicalUsername y = a.username)
      ((signIn_keeps Terms.alone_sound hm fun _ _ _ _ h => h.below).mono ?_)
    rintro _ b' told a' rfl same
    cases told with
    | value hr effect =>
      obtain rfl : b = _ := hr
      cases effect with
      | look h => cases h
      | signIn known =>
        rw [numbered.keyed.eq_of_mem (Books.accountByName?_mem known).1 ha same] at known
        exact (named.accountByName?_eq_some_iff ha).mp known
      | signUp =>
        have earlier := numbered.id_le ha
        rw [← same] at earlier
        exact absurd earlier (Int.not_le.mpr (Int.lt_succ _))
  · obtain ⟨before, after, said⟩ := transfer_looksUp clock ht positive there deadline
    exact ⟨before, _, after, said, named.accountByName?_eq_some_iff ha⟩
  · refine alone (Q := fun outcome => ∀ entry : Entry, outcome = .ok entry →
      (entry.destination = a.id ↔ canonicalUsername y = a.username))
      ((transfer_keeps fun _ _ _ _ h => h.below).mono ?_)
    rintro _ b' told entry rfl
    cases told with
    | value hr effect =>
      obtain rfl : b = _ := hr
      cases effect with
      | transfer _ destination _ _ _ _ recorded =>
        obtain ⟨known, -⟩ := Books.accountByName?_mem destination
        subst recorded
        refine ⟨fun same => ?_, fun same => ?_⟩
        · rw [numbered.keyed.eq_of_mem known ha same] at destination
          exact (named.accountByName?_eq_some_iff ha).mp destination
        · cases destination.symm.trans ((named.accountByName?_eq_some_iff ha).mpr same)
          rfl
      | look h => cases h
  · refine (alone (register_refuses hm hp) name).trans ?_
    simp [Books.accountByName?, List.find?_isSome]

end Engine

open Troubled in
/-- Whatever clients command from the moment at which nothing was done, in any order and whatever
goes wrong, in either store: no two accounts have the same username, and each is the canonical
spelling of a name that some client gave to register, of 3 to 50 code points. A name leads to the
account of its canonical spelling at every entrance, and to no other; and to register is refused
for a name that is taken exactly if the name is acceptable and its canonical spelling is that of
an account. -/
theorem one_identity {ι : Type} [DecidableEq ι] {e : Engine} (hm : e.initialBalance ≤ maxCoins)
    {k : Backend} {now : Instant} {plan : ι → List Command} {history : List (Happening ι)}
    {S : Troubled ι k.State (List (Except Error Outcome))}
    (run : Run k.keeper (carryingOut e k now plan) history S) :
    ∃ b : Books, S.committed = k.hold (some Migration.noted) b ∧
      b.Named (fun raw => ∃ i, ∃ c ∈ plan i, c.registers? = some raw) ∧
      ∀ (y : String) (clock : Nat → Instant) (later : Instant) (n : Nat),
        Engine.LeadsByName e (Storage.clocked k.keeper clock)
          ({ committed := S.committed, now := later }, n) b y := by
  have numbered : (k.stock now).Numbered := (k.reconciled_stock 0 now).solvent.numbered
  obtain ⟨b, storable, committed, numbered, named⟩ := run.invariant_of_plan hm
    (I := fun b => b.Numbered ∧ b.Named fun raw => ∃ i, ∃ c ∈ plan i, c.registers? = some raw)
    ⟨numbered, k.named_stock _ now⟩ fun i c hc _ _ _ h he =>
      ⟨he.numbered h.1, he.named (fun raw hraw => ⟨i, c, hc, hraw⟩) h.2⟩
  refine ⟨b, committed, named, fun y clock later n => ?_⟩
  rw [committed]
  exact Engine.leadsByName hm named numbered clock (.start storable later) y

open Troubled in
/-- Two clients and a cup, with the entry of its purchase. -/
theorem one_identity_cup :
    ({} : Engine).initialBalance ≤ maxCoins ∧ ∃ history S,
      Run Backend.memory.keeper (carryingOut {} .memory default cupPlan) history S ∧
      (∃ x, (S.committed : Books).ledger = [x]) ∧
      ∃ b : Books, S.committed = Backend.memory.hold (some Migration.noted) b ∧
        b.Named (fun raw => ∃ i, ∃ c ∈ cupPlan i, c.registers? = some raw) ∧
        ∀ (y : String) (clock : Nat → Instant) (later : Instant) (n : Nat),
          Engine.LeadsByName {} (Storage.clocked Backend.memory.keeper clock)
            ({ committed := S.committed, now := later }, n) b y := by
  have hm : ({} : Engine).initialBalance ≤ maxCoins := by
    show defaultGrant ≤ maxCoins
    decide
  obtain ⟨_, _, _, S, x, run, run', -, noted⟩ := exists_cupRun
  have all := run.append run'
  exact ⟨hm, _, S, all, ⟨x, noted⟩, one_identity hm all⟩

end Scrip
