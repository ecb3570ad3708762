import Scrip.Proofs.Credential.Password
import Scrip.Proofs.Engine.Names
import Scrip.Proofs.Http.Keeps
import Scrip.Proofs.Ledger.Permanent

/-!
# Members who have signed in

Who signed in with a name and a password is let in by a header of the same two from then on
(`signedIn_informed`), if there is no colon in the name and the password is not empty. A header
cannot tell a colon in the name from the one after it, so that an account of such a name can be
made and signed in to but is open to no header (`signedIn_shut_out`).
-/

namespace Scrip

open Credential
open Crypt (Salt)
open Exchange Exchange.Keeps
open Wire

/-- Who signed in has an account of the name and the password. -/
theorem Effect.knows {e : Engine} {b b' : Books} {username password : String} {salt : Salt}
    {a : Account} (he : Effect e b (.signIn username password salt) (.account a) b') :
    b'.accountByName? (canonicalUsername username) = some a ∧
      verifyPassword password a.passwordHash = true := by
  cases he with
  | look h => cases h
  | signIn known verified => exact ⟨known, verified⟩
  | @signUp _ _ _ new now accepted fresh =>
    obtain ⟨name, -, hash, -⟩ := Engine.newAccount?_eq_ok accepted
    rw [← normalizeUsername_eq_ok name]
    refine ⟨Books.accountByName?_withAccount (a := new.toAccount _ now) fresh, ?_⟩
    show verifyPassword password new.passwordHash = true
    rw [hash]
    exact verifyPassword_hashPassword salt password

namespace Http

variable {x : Extractors} {e : Engine} {b : Books} {r : Request} {m : SignIn} {a : Account}
  {salt : Salt}

/-- The request for all that an account holder is told, by the name and password of a message. -/
def infoRequest (m : SignIn) : Request where
  method := "GET"
  path := "/api/info"
  headers := [("authorization", basicHeader (m.username ++ ":" ++ m.password))]

/-- A request answered from a store that nobody else uses meanwhile: the response, and what is
committed then. -/
def answered (x : Extractors) (e : Engine) (k : Backend) (s : k.State) (clock : Nat → Instant)
    (salt : Salt) (r : Request) : Response × k.State :=
  let y := (respond x e salt r).run (Storage.clocked k.keeper clock)
    ({ committed := s, now := clock 0 }, 0)
  (y.1, y.2.1.committed)

/-- Such a request ends as it does on its own terms. -/
theorem answered_of_keeps (k : Backend) (applied : Option (Table String))
    {Q : Response → Books → Prop} (h : (respond x e salt r).Keeps .alone b Q)
    (storable : b.Storable) (clock : Nat → Instant) :
    ∃ b' : Books, b'.Storable ∧
      (answered x e k (k.hold applied b) clock salt r).2 = k.hold applied b' ∧
      Q (answered x e k (k.hold applied b) clock salt r).1 b' := by
  have start : Backend.Stands applied k { committed := k.hold applied b, now := clock 0 }
      ⟨b, none⟩ := .start storable _
  obtain ⟨b', stands, hQ⟩ := h.run (fun _ => rfl) clock (t := (_, 0)) start
  exact ⟨b', stands.storable, stands.committed, hQ⟩

/-- When a request to sign in succeeds somebody signed in with its name and password. -/
theorem respond_signIn (hx : x.Lawful) (hm : e.initialBalance ≤ maxCoins)
    (path : Route.ofPath? r.path = some .signIn) (read : x.signIn r = .ok m) :
    (respond x e salt r).Keeps .alone b fun response b' => response.status = 200 →
      ∃ a, response = .found (SignedIn.toJson ⟨a.username, a.coins⟩) ∧
        Effect e b (.signIn m.username m.password salt) (.account a) b' := by
  refine (respond_keeps Terms.alone_sound hx trivial hm fun _ _ _ _ _ he => he.below).mono ?_
  have failed {response : Response} (hf : response.isSuccess = false) :
      response.status ≠ 200 := by
    intro h
    rw [Response.isSuccess, h] at hf
    cases hf
  rintro response b' (⟨-, hf⟩ | ⟨route, full, path', h, rfl⟩) ok
  · exact absurd ok (failed hf)
  cases path.symm.trans path'
  have ok : full.status = 200 := by
    split at ok
    · exact ok
    · exact ok
  cases h with
  | refused _ hf => exact absurd ok (failed hf)
  | @signedIn m' a _ _ hr method read' he =>
    cases read.symm.trans read'
    obtain rfl : b = _ := hr
    have post : r.method = "POST" := List.mem_singleton.mp method
    exact ⟨a, if_neg (post ▸ by decide), he⟩

/-- Who brings credentials to a store that nobody else uses is let in or refused as the account is
there. -/
theorem authorize_alone {c : Credentials} (brought : x.credentials r = .ok (some c))
    (named : c.username ≠ "") (locked : c.password ≠ "") :
    (authorize x e r).Keeps .alone b fun outcome b' => b' = b ∧
      outcome = (Engine.letIn c.password
        (b.accountByName? (canonicalUsername c.username))).mapError .refusal := by
  refine (authorize_looks Terms.alone_sound brought named locked).mono fun outcome b' h => ?_
  obtain ⟨found, looked, rfl⟩ := h
  obtain ⟨rfl, rfl⟩ := looked.alone
  exact ⟨rfl, rfl⟩

/-- A header made of a name without a colon and a password lets in to the account of the two, but
for an empty password. -/
theorem authorize_info (hx : x.Lawful)
    (known : b.accountByName? (canonicalUsername m.username) = some a)
    (verified : verifyPassword m.password a.passwordHash = true)
    (colon : ':' ∉ m.username.toList) (named : m.username ≠ "") :
    (authorize x e (infoRequest m)).Keeps .alone b fun outcome b' => b' = b ∧ outcome =
      if m.password = "" then .error (.refusal .invalidCredentials) else .ok a := by
  have brought : x.credentials (infoRequest m) = .ok (some ⟨m.username, m.password⟩) :=
    hx.brings.mpr (Request.brings_basicHeader colon rfl)
  by_cases empty : m.password = ""
  · have incomplete : (m.username.isEmpty || m.password.isEmpty) = true := by simp [empty]
    unfold authorize
    simp only [brought, incomplete, if_true, if_pos empty]
    exact Keeps.done ⟨rfl, rfl⟩
  · refine (authorize_alone brought named empty).mono ?_
    rintro outcome b' ⟨rfl, rfl⟩
    rw [known, Engine.letIn_of_verified verified, if_neg empty]
    exact ⟨rfl, rfl⟩

/-- What is told to somebody who is let in or refused. -/
def tell (b : Books) : Except Response Account → Response
  | .ok a => .found (Info.ofStatement ⟨a, b.ownedBy a.id, b.historyOf a⟩).toJson
  | .error refusal => refusal

/-- Who is let in is told everything about the account, and who is not is told so. -/
theorem respond_info {outcome : Except Response Account} (keyed : b.Keyed)
    (known : ∀ a, outcome = .ok a → a ∈ b.accounts)
    (authorized : (authorize x e (infoRequest m)).Keeps .alone b fun o b' =>
      b' = b ∧ o = outcome) :
    (respond x e salt (infoRequest m)).Keeps .alone b fun response _ =>
      response = tell b outcome := by
  have path : Route.ofPath? (infoRequest m).path = some (.member .info) := by
    show Route.ofPath? "/api/info" = _
    decide +kernel
  rw [respond_member path (List.mem_cons_self ..) (show "GET" ≠ "HEAD" by decide)]
  refine Keeps.bind authorized fun o b' ⟨hb, ho⟩ => ?_
  subst hb ho
  cases o with
  | error refusal => exact Keeps.done rfl
  | ok a =>
    refine Keeps.bind (Engine.statement_keeps Terms.alone_sound a.id trivial) fun s b₁ h => ?_
    obtain ⟨rfl, rfl⟩ := h.alone
    rw [Books.lookUp, keyed.account?_eq (known a rfl)]
    exact Keeps.done rfl

/-- Wherever the account is, whoever has its name and password is told of it, but for an empty
password. -/
theorem answered_info (hx : x.Lawful) (k : Backend) (applied : Option (Table String))
    (storable : b.Storable) {given : String → Prop} (named : b.Named given) (ha : a ∈ b.accounts)
    (name : a.username = canonicalUsername m.username)
    (verified : verifyPassword m.password a.passwordHash = true)
    (colon : ':' ∉ m.username.toList) (nonempty : m.username ≠ "") (clock : Nat → Instant)
    (salt : Salt) :
    (answered x e k (k.hold applied b) clock salt (infoRequest m)).1 =
      if m.password = "" then .refusal .invalidCredentials
      else .found (Info.ofStatement ⟨a, b.ownedBy a.id, b.historyOf a⟩).toJson := by
  have known := (named.accountByName?_eq_some_iff ha).mpr name.symm
  have informed : (respond x e salt (infoRequest m)).Keeps .alone b _ :=
    respond_info storable.keyed (fun a' h => ?_) (authorize_info hx known verified colon nonempty)
  · obtain ⟨-, -, -, h⟩ := answered_of_keeps k applied informed storable clock
    rw [h]
    split <;> rfl
  · split at h <;> cases h
    exact ha

/-- The request to sign in by a message. -/
def signInRequest (m : SignIn) : Request where
  method := "POST"
  path := "/api/auth"
  headers := [("content-type", bytesOf "application/json".toList)]
  body := (String.ofList m.toJson).toUTF8.data.toList

/-- An acceptable name that is free is signed in to. -/
theorem respond_registers {new : NewAccount} (hm : e.initialBalance ≤ maxCoins)
    (read : x.signIn (signInRequest m) = .ok m)
    (accepted : e.newAccount? m.username m.password salt = .ok new)
    (free : b.accountByName? new.username = none) :
    (respond x e salt (signInRequest m)).Keeps .alone b fun response b' =>
      response = .found (SignedIn.toJson ⟨new.username, new.coins⟩) ∧
        ∃ now, b' = b.withAccount (new.toAccount (b.sequences.account + 1) now) := by
  have path : Route.ofPath? (signInRequest m).path = some .signIn := by
    show Route.ofPath? "/api/auth" = _
    decide +kernel
  rw [respond_to_signIn path rfl]
  unfold signIn
  simp only [read]
  refine Keeps.bind (Engine.signIn_registers hm accepted free) fun outcome b' h => ?_
  obtain ⟨now, rfl, rfl⟩ := h
  exact Keeps.done ⟨rfl, now, rfl⟩

open Troubled in
/-- In every store that clients left, whatever they commanded and whatever went wrong, when a
request to sign in succeeds it tells of an account of its name. Whatever clients command after
that, a header of the same name and password then lets in to that account, and its coins are told,
unless the password is empty; as long as there is no colon in the name. -/
theorem signedIn_informed {ι : Type} [DecidableEq ι] (hx : x.Lawful)
    (hm : e.initialBalance ≤ maxCoins) {k : Backend} {now : Instant}
    {plan plan' : ι → List Command} {before after : List (Happening ι)}
    {S S' : Troubled ι k.State (List (Except Error Outcome))}
    (run : Run k.keeper (carryingOut e k now plan) before S)
    (path : Route.ofPath? r.path = some .signIn) (read : x.signIn r = .ok m)
    {clock : Nat → Instant} (ok : (answered x e k S.committed clock salt r).1.status = 200)
    (run' : Run k.keeper (carryingOn e (answered x e k S.committed clock salt r).2 plan') after S')
    (colon : ':' ∉ m.username.toList) (clock' : Nat → Instant) (salt' : Salt) :
    ∃ (b : Books) (a a' : Account), S'.committed = k.hold (some Migration.noted) b ∧
      (answered x e k S.committed clock salt r).1 =
        .found (SignedIn.toJson ⟨a.username, a.coins⟩) ∧
      a.username = canonicalUsername m.username ∧ b.account? a.id = some a' ∧ a.Remains a' ∧
      (S'.committed = (answered x e k S.committed clock salt r).2 → a' = a) ∧
      (answered x e k S'.committed clock' salt' (infoRequest m)).1 =
        if m.password = "" then .refusal .invalidCredentials
        else .found (Info.ofStatement ⟨a', b.ownedBy a'.id, b.historyOf a'⟩).toJson := by
  obtain ⟨b, storable, committed, named⟩ := run.invariant_of_plan hm
    (k.named_stock (fun _ => True) now)
    fun _ c _ _ _ _ h he => he.named (fun _ _ => trivial) h
  rw [committed] at ok run' ⊢
  obtain ⟨b₁, storable₁, committed₁, signedIn⟩ :=
    answered_of_keeps k (some Migration.noted) (respond_signIn hx hm path read) storable clock
  obtain ⟨a, response, effect⟩ := signedIn ok
  obtain ⟨known, verified⟩ := effect.knows
  obtain ⟨mem, name⟩ := Books.accountByName?_mem known
  have named₁ := effect.named (fun _ _ => trivial) named
  have nonempty : m.username ≠ "" := by
    intro h
    have least := (named₁.canonical a mem).least
    rw [name, h] at least
    revert least
    decide +kernel
  have told {b : Books} {a' : Account} (storable : b.Storable) (named : b.Named fun _ => True)
      (ha : a' ∈ b.accounts) (remains : a.Remains a') :=
    answered_info (e := e) hx k (some Migration.noted) storable named ha
      (remains.username.trans name) (remains.passwordHash.symm ▸ verified) colon nonempty clock'
      salt'
  by_cases same : S'.committed = (answered x e k (k.hold (some Migration.noted) b) clock salt r).2
  · refine ⟨b₁, a, a, same.trans committed₁, response, name, storable₁.keyed.account?_eq mem,
      .refl a, fun _ => rfl, ?_⟩
    rw [same, committed₁]
    exact told storable₁ named₁ mem (.refl a)
  · obtain ⟨b₂, storable₂, committed₂, named₂, a', ha', remains⟩ :=
      run'.invariant_on hm storable₁ committed₁
        (I := fun b => b.Named (fun _ => True) ∧ ∃ a' ∈ b.accounts, a.Remains a')
        ⟨named₁, a, mem, .refl a⟩ fun _ c _ _ _ _ ⟨h, a₂, ha₂, h₂⟩ he => by
          obtain ⟨a₃, ha₃, h₃⟩ := he.continues.accounts.exists_mem ha₂
          exact ⟨he.named (fun _ _ => trivial) h, a₃, ha₃, h₂.trans h₃⟩
    refine ⟨b₂, a, a', committed₂, response, name, remains.id ▸ storable₂.keyed.account?_eq ha',
      remains, fun h => absurd h same, ?_⟩
    rw [committed₂]
    exact told storable₂ named₂ ha' remains

/-- Somebody with an acceptable name signs in when nothing was done. -/
theorem answered_fresh {new : NewAccount} (hm : e.initialBalance ≤ maxCoins) (k : Backend)
    (read : x.signIn (signInRequest m) = .ok m)
    (accepted : e.newAccount? m.username m.password salt = .ok new) :
    ∃ (b : Books) (now : Instant), b.Storable ∧ b.accounts = [new.toAccount 1 now] ∧
      answered x e k (k.fresh default) (fun _ => default) salt (signInRequest m) =
        (.found (SignedIn.toJson ⟨new.username, new.coins⟩), k.hold (some Migration.noted) b) := by
  have nobody : (k.stock default).accounts = [] ∧ (k.stock default).sequences.account = 0 := by
    cases k <;> exact ⟨rfl, rfl⟩
  have free : (k.stock default).accountByName? new.username = none := by
    rw [Books.accountByName?, nobody.1]
    rfl
  obtain ⟨b, storable, committed, response, now, rfl⟩ :=
    answered_of_keeps k (some Migration.noted) (respond_registers hm read accepted free)
      (k.storable_stock default) fun _ => default
  rw [← k.fresh_eq] at committed response
  refine ⟨_, now, storable, ?_, Prod.ext response committed⟩
  rw [Books.withAccount, nobody.1, nobody.2]
  rfl

open Troubled in
/-- Somebody who signs in with a new name and then asks. -/
theorem signedIn_informed_alice :
    let x : Extractors := .standard
    let e : Engine := {}
    let k : Backend := .tables
    let m : SignIn := ⟨"alice", "secret"⟩
    let S : Troubled Unit k.State (List (Except Error Outcome)) :=
      carryingOut e k default fun _ => []
    let first := answered x e k S.committed (fun _ => default) (.replicate 7) (signInRequest m)
    x.Lawful ∧ e.initialBalance ≤ maxCoins ∧
      Route.ofPath? (signInRequest m).path = some .signIn ∧ x.signIn (signInRequest m) = .ok m ∧
      first.1.status = 200 ∧ ':' ∉ m.username.toList ∧
      ∃ (b : Books) (a a' : Account), first.2 = k.hold (some Migration.noted) b ∧
        first.1 = .found (SignedIn.toJson ⟨a.username, a.coins⟩) ∧
        a.username = canonicalUsername m.username ∧ b.account? a.id = some a' ∧ a.Remains a' ∧
        (first.2 = first.2 → a' = a) ∧
        (answered x e k first.2 (fun _ => default) (.replicate 7) (infoRequest m)).1 =
          if m.password = "" then .refusal .invalidCredentials
          else .found (Info.ofStatement ⟨a', b.ownedBy a'.id, b.historyOf a'⟩).toJson := by
  intro x e k m S first
  have hm : e.initialBalance ≤ maxCoins := show defaultGrant ≤ maxCoins by decide
  have path : Route.ofPath? (signInRequest m).path = some .signIn := by decide +kernel
  have read : x.signIn (signInRequest m) = Except.ok m := by decide +kernel
  have colon : ':' ∉ m.username.toList := by decide
  have ok : first.1.status = 200 := by
    have hname : normalizeUsername m.username = .ok (canonicalUsername m.username) :=
      normalizeUsername_of_fits (by decide +kernel)
    have hpass : validatePassword m.password = .ok () := if_neg (by decide)
    obtain ⟨b, now, -, -, h⟩ :=
      answered_fresh hm k read (Engine.newAccount?_of_accepted e (.replicate 7) hname hpass)
    exact congrArg (fun y => y.1.status) h
  have after : Run k.keeper (carryingOn e first.2 fun _ => []) []
      (carryingOn e first.2 fun _ : Unit => []) := .refl
  exact ⟨standard_lawful, hm, path, read, ok, colon, signedIn_informed standard_lawful hm .refl path
    read ok after colon (fun _ => default) (.replicate 7)⟩

/-- Somebody whose name has a colon. The account is made, but what stands before the colon is taken
for the name of another. -/
theorem signedIn_shut_out :
    let x : Extractors := .standard
    let e : Engine := {}
    let k : Backend := .tables
    let m : SignIn := ⟨"a:b", "secret"⟩
    let first :=
      answered x e k (k.fresh default) (fun _ => default) (.replicate 7) (signInRequest m)
    x.signIn (signInRequest m) = .ok m ∧
      first.1 = .found (SignedIn.toJson ⟨"a:b", 1000⟩) ∧
      x.credentials (infoRequest m) = .ok (some ⟨"a", "b:secret"⟩) ∧
      (answered x e k first.2 (fun _ => default) (.replicate 7) (infoRequest m)).1 =
        .refusal .invalidCredentials := by
  intro x e k m first
  have hm : e.initialBalance ≤ maxCoins := show defaultGrant ≤ maxCoins by decide
  have read : x.signIn (signInRequest m) = Except.ok m := by decide +kernel
  have canonical : canonicalUsername "a:b" = "a:b" := by decide +kernel
  have hname : normalizeUsername m.username = .ok (canonicalUsername m.username) :=
    normalizeUsername_of_fits (by decide +kernel)
  have hpass : validatePassword m.password = .ok () := if_neg (by decide)
  obtain ⟨b, now, storable, single, h⟩ :=
    answered_fresh hm k read (Engine.newAccount?_of_accepted e (.replicate 7) hname hpass)
  have brought : x.credentials (infoRequest m) = .ok (some ⟨"a", "b:secret"⟩) := by
    have text : m.username ++ ":" ++ m.password = "a" ++ ":" ++ "b:secret" := by decide
    exact standard_lawful.brings.mpr
      (Request.brings_basicHeader (by decide) (congrArg (fun pair => [basicHeader pair]) text))
  have nobody : b.accountByName? (canonicalUsername "a") = none := by
    have other : ¬ ("a:b" == canonicalUsername "a") = true := by decide +kernel
    rw [Books.accountByName?, single, List.find?_singleton]
    exact if_neg (canonical.symm ▸ other)
  have refused : (authorize x e (infoRequest m)).Keeps .alone b fun outcome b' =>
      b' = b ∧ outcome = .error (.refusal .invalidCredentials) := by
    have alone := authorize_alone (e := e) (b := b) brought (by decide) (by decide)
    rw [nobody] at alone
    exact alone
  obtain ⟨-, -, -, info⟩ := answered_of_keeps k (some Migration.noted)
    (respond_info storable.keyed (fun _ h => by cases h) refused) storable fun _ => default
  have response : first.1 =
      .found (SignedIn.toJson ⟨canonicalUsername m.username, e.initialBalance⟩) :=
    congrArg Prod.fst h
  have committed : first.2 = k.hold (some Migration.noted) b := congrArg Prod.snd h
  rw [committed, response]
  exact ⟨read, by rw [canonical]; rfl, brought, info⟩

end Http

end Scrip
