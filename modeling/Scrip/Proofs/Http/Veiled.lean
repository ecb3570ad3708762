import Scrip.Json.Record
import Scrip.Proofs.Engine.Veiled
import Scrip.Proofs.Http.SignIn

/-!
# Password hashes never show

Two stores that differ in password hashes at most are told apart by nothing but the verdicts on
passwords. As long as these are the same, all requests are answered the same, and the stores go on
to differ in hashes at most (`hashes_never_show`).

* `Request.claims`: the name and the password that are looked up for a request;
* `respond_abreast`: one request to each of the stores;
* `answeredAll`: one request after another.
-/

namespace Scrip

open Credential Work
open Crypt (Salt)

theorem Account.toJson_veiled {a a' : Account} (h : a.veiled = a'.veiled) :
    a.toJson = a'.toJson := by
  obtain ⟨hash, rfl⟩ := exists_hash h
  rfl

theorem Statement.toJson_veiled {s s' : Statement} (h : s.veiled = s'.veiled) :
    s.toJson = s'.toJson := by
  obtain ⟨account, inventory, history⟩ := s
  obtain ⟨account', _, _⟩ := s'
  obtain ⟨same, rfl, rfl⟩ := Statement.mk.inj h
  simp only [toJson, Account.toJson_veiled same]

namespace Http

open Backend (Abreast)
open Exchange (Paired)
open Wire

variable {x : Extractors} {e : Engine} {r : Request} {salt : Salt}

/-- The name and the password that are looked up for a request. -/
def Request.claims (x : Extractors) (r : Request) : Option Credentials :=
  match Route.ofPath? r.path with
  | none => none
  | some .signIn =>
    if Route.signIn.methods.contains r.method then
      match x.signIn r with
      | .ok m => some ⟨m.username, m.password⟩
      | .error _ => none
    else none
  | some (.member _) =>
    match x.credentials r with
    | .ok c? => c?.filter fun c => !(c.username.isEmpty || c.password.isEmpty)
    | .error _ => none

/-- An outcome is answered the same if its value is. -/
theorem answer_paired {α : Type} {R : α → α → Prop} {f : α → Response}
    (hf : ∀ a a', R a a' → f a = f a') {d d' : Exchange (Except Error α)}
    (hd : Engine.Sightless R d d') :
    Paired Request.Veiled Eq (d >>= fun outcome => pure (answer f outcome))
      (d' >>= fun outcome => pure (answer f outcome)) := by
  refine hd.bind fun outcome outcome' h => ?_
  cases h with
  | ok h => exact .done (hf _ _ h)
  | error failure => exact .done rfl

/-- Routes do not look at the hash of the account that was let in. -/
theorem serve_paired (a : Account) (hash : String) (route : MemberRoute) :
    Paired Request.Veiled Eq (serve x e r a route)
      (serve x e r { a with passwordHash := hash } route) := by
  cases route with
  | info =>
    refine answer_paired (fun s s' h => ?_) (Engine.statement_paired a.id)
    obtain ⟨account, inventory, history⟩ := s
    obtain ⟨account', _, _⟩ := s'
    obtain ⟨same, rfl, rfl⟩ := Statement.mk.inj h
    obtain ⟨_, rfl⟩ := Account.exists_hash same
    rfl
  | offers => exact answer_paired (fun _ _ h => by rw [h]) Engine.catalog_paired
  | sendCoins =>
    show Paired _ _ (sendCoins x e a r) (sendCoins x e a r)
    unfold sendCoins
    split
    · exact .done rfl
    · exact answer_paired (fun _ _ _ => rfl) (Engine.transfer_paired ..)
  | buy =>
    show Paired _ _ (buy x e a r) (buy x e a r)
    unfold buy
    split
    · exact .done rfl
    · exact answer_paired (fun _ _ _ => rfl) (Engine.purchase_paired ..)

section Respond

variable {k : Backend} {clock : Nat → Instant} {t t' : Storage k.State × Nat}

/-- The password of a request meets the same verdict in both stores. -/
def SameVerdict (x : Extractors) (k : Backend) (s s' : k.State) (r : Request) : Prop :=
  ∀ c, r.claims x = some c →
    k.verdict s c.username c.password = k.verdict s' c.username c.password

/-- Somebody is let in to the same account or refused in the same way. -/
theorem authorize_abreast (h : k.Veiled t t') {route : MemberRoute}
    (path : Route.ofPath? r.path = some (.member route))
    (same : SameVerdict x k t.1.committed t'.1.committed r) :
    Abreast clock t t' (authorize x e r) (authorize x e r) fun outcome outcome' s s' =>
      Matches Account.Veiled outcome outcome' ∧ k.Veiled s s' := by
  unfold authorize
  split
  · exact ⟨.error _, h⟩
  · exact ⟨.error _, h⟩
  · rename_i c brought
    split
    · exact ⟨.error _, h⟩
    · rename_i whole
      have claimed : r.claims x = some c := by
        simp only [Request.claims, path, brought, Option.filter, whole]
        rfl
      have agreed : k.Agreed c.username c.password t t' := { h with verdict := same c claimed }
      refine agreed.authenticate.bind fun outcome outcome' s s' ⟨alike, agreed⟩ => ?_
      cases alike with
      | ok found => exact ⟨.ok found, agreed.toVeiled⟩
      | error failure => exact ⟨.error _, agreed.toVeiled⟩

theorem signIn_abreast (h : k.Veiled t t') (path : Route.ofPath? r.path = some .signIn)
    (right : Route.signIn.methods.contains r.method = true)
    (same : SameVerdict x k t.1.committed t'.1.committed r) :
    Abreast clock t t' (signIn x e salt r) (signIn x e salt r) fun response response' s s' =>
      response = response' ∧ k.Veiled s s' := by
  unfold signIn
  split
  · exact ⟨rfl, h⟩
  · rename_i m read
    have claimed : r.claims x = some ⟨m.username, m.password⟩ := by
      simp only [Request.claims, path, right, read, if_true]
    have agreed : k.Agreed m.username m.password t t' := { h with verdict := same _ claimed }
    refine (agreed.signIn salt).bind fun outcome outcome' s s' ⟨alike, veiled⟩ => ?_
    cases alike with
    | error failure => exact ⟨rfl, veiled⟩
    | ok found =>
      obtain ⟨hash, rfl⟩ := Account.exists_hash found
      exact ⟨rfl, veiled⟩

theorem respondOn_abreast (h : k.Veiled t t') {route : Route}
    (path : Route.ofPath? r.path = some route)
    (same : SameVerdict x k t.1.committed t'.1.committed r) :
    Abreast clock t t' (respondOn x e salt r route) (respondOn x e salt r route)
      fun response response' s s' => response = response' ∧ k.Veiled s s' := by
  unfold respondOn
  cases right : route.methods.contains r.method with
  | true =>
    cases route with
    | signIn =>
      refine (signIn_abreast h path right same).bind fun response _ s s' ⟨told, veiled⟩ => ?_
      exact ⟨told, veiled⟩
    | member route =>
      refine (authorize_abreast h path same).bind fun outcome outcome' s s' ⟨alike, veiled⟩ => ?_
      cases alike with
      | error refusal => exact ⟨rfl, veiled⟩
      | @ok a _ found =>
        obtain ⟨hash, rfl⟩ := Account.exists_hash found
        refine (veiled.abreast clock (serve_paired a hash route)).bind fun response _ s s' h => ?_
        exact h
  | false =>
    cases route with
    | signIn => exact ⟨rfl, h⟩
    | member route =>
      refine (authorize_abreast h path same).bind fun outcome outcome' s s' ⟨alike, veiled⟩ => ?_
      cases alike with
      | error refusal => exact ⟨rfl, veiled⟩
      | ok => exact ⟨rfl, veiled⟩

/-- A request is answered the same by both stores, and leaves them alike but for the hashes. -/
theorem respond_abreast (h : k.Veiled t t')
    (same : SameVerdict x k t.1.committed t'.1.committed r) :
    Abreast clock t t' (respond x e salt r) (respond x e salt r)
      fun response response' s s' => response = response' ∧ k.Veiled s s' := by
  unfold respond
  split
  · exact ⟨rfl, h⟩
  · rename_i route path
    refine (respondOn_abreast h path same).bind fun response _ s s' ⟨told, veiled⟩ => ?_
    subst told
    exact ⟨rfl, veiled⟩

end Respond

/-! ## Request after request -/

/-- A request, and what else its answer depends on: the salt of a new hash, and what the clock
shows. -/
structure Asked where
  request : Request
  salt : Salt
  clock : Nat → Instant

variable {k : Backend}

/-- Requests answered one after another from a store that nobody else uses meanwhile: the
responses, and what is committed in the end. -/
def answeredAll (x : Extractors) (e : Engine) (k : Backend) :
    k.State → List Asked → List Response × k.State
  | s, [] => ([], s)
  | s, q :: qs =>
    let y := answered x e k s q.clock q.salt q.request
    let z := answeredAll x e k y.2 qs
    (y.1 :: z.1, z.2)

/-- Every password that is looked at while requests are answered from one store and from the other
meets the same verdict. -/
def SameVerdicts (x : Extractors) (e : Engine) (k : Backend) :
    k.State → k.State → List Asked → Prop
  | _, _, [] => True
  | s, s', q :: qs =>
    SameVerdict x k s s' q.request ∧
      SameVerdicts x e k (answered x e k s q.clock q.salt q.request).2
        (answered x e k s' q.clock q.salt q.request).2 qs

theorem answered_veiled {s s' : k.State} (h : k.veiled s = k.veiled s') (q : Asked)
    (same : SameVerdict x k s s' q.request) :
    (answered x e k s q.clock q.salt q.request).1 =
        (answered x e k s' q.clock q.salt q.request).1 ∧
      k.veiled (answered x e k s q.clock q.salt q.request).2 =
        k.veiled (answered x e k s' q.clock q.salt q.request).2 := by
  have start : k.Veiled ({ committed := s, now := q.clock 0 }, 0)
      ({ committed := s', now := q.clock 0 }, 0) := ⟨h, rfl, rfl⟩
  have ended : Abreast q.clock _ _
      (respond x e q.salt q.request) (respond x e q.salt q.request) _ :=
    respond_abreast start same
  exact ⟨ended.1, ended.2.committed⟩

/-- Two stores that differ in password hashes at most answer any requests, one after another, with
the same responses, as long as every password that is looked at meets the same verdict in both, and
they differ in password hashes at most afterwards. It does not matter how requests are read. Nor
does the JSON of an account or of a statement depend on the hash. -/
theorem hashes_never_show :
    (∀ (x : Extractors) (e : Engine) (k : Backend) (s s' : k.State) (qs : List Asked),
      k.veiled s = k.veiled s' → SameVerdicts x e k s s' qs →
      (answeredAll x e k s qs).1 = (answeredAll x e k s' qs).1 ∧
        k.veiled (answeredAll x e k s qs).2 = k.veiled (answeredAll x e k s' qs).2) ∧
      (∀ a a' : Account, a.veiled = a'.veiled → a.toJson = a'.toJson) ∧
      ∀ s s' : Statement, s.veiled = s'.veiled → s.toJson = s'.toJson := by
  refine ⟨fun x e k s s' qs => ?_, fun _ _ => Account.toJson_veiled,
    fun _ _ => Statement.toJson_veiled⟩
  induction qs generalizing s s' with
  | nil => exact fun h _ => ⟨rfl, h⟩
  | cons q qs ih =>
    intro h ⟨same, rest⟩
    obtain ⟨told, veiled⟩ := answered_veiled (x := x) (e := e) h q same
    obtain ⟨told', veiled'⟩ := ih _ _ veiled rest
    exact ⟨List.cons_eq_cons.mpr ⟨told, told'⟩, veiled'⟩

/-- Books with one account, whose password is kept under a salt. -/
def saltedBooks (salt : Salt) : Books where
  accounts := [⟨1, "alice", hashPassword salt "secret", 1000, default⟩]
  sequences := { account := 1 }

theorem saltedBooks_inj {salt salt' : Salt} (h : saltedBooks salt = saltedBooks salt') :
    salt = salt' := by
  have hash : hashPassword salt "secret" = hashPassword salt' "secret" := by
    have accounts := congrArg Books.accounts h
    exact (Account.mk.inj (List.cons.inj accounts).1).2.2.1
  have kept := congrArg StoredHash.ofText? hash
  rw [hashPassword, hashPassword, StoredHash.ofText?_toText (length_digest ..),
    StoredHash.ofText?_toText (length_digest ..)] at kept
  exact congrArg StoredHash.salt (Option.some.inj kept)

theorem veiled_saltedBooks (salt : Salt) : (saltedBooks salt).veiled =
    { accounts := [⟨1, "alice", "", 1000, default⟩], sequences := { account := 1 } } :=
  rfl

theorem verdict_saltedBooks (salt : Salt) :
    Backend.memory.verdict (saltedBooks salt) "alice" "secret" = some true := by
  have canonical : canonicalUsername "alice" = "alice" := by decide +kernel
  have known : (saltedBooks salt).accountByName? (canonicalUsername "alice") =
      some ⟨1, "alice", hashPassword salt "secret", 1000, default⟩ := by
    rw [canonical]
    rfl
  have found : Backend.memory.keeper default (saltedBooks salt)
      (.accountByName (canonicalUsername "alice")) =
        .ok (some ⟨1, "alice", hashPassword salt "secret", 1000, default⟩, saltedBooks salt) :=
    congrArg (fun x => Except.ok (x, saltedBooks salt)) known
  rw [Backend.verdict_of_found found]
  exact congrArg some (verifyPassword_hashPassword salt "secret")

/-- The same password was kept under different salts, and its owner asks. -/
theorem hashes_never_show_alice :
    let x : Extractors := .standard
    let s := saltedBooks (.replicate 7)
    let s' := saltedBooks (.replicate 8)
    let asked : List Asked :=
      [⟨infoRequest ⟨"alice", "secret"⟩, .replicate 7, fun _ => default⟩]
    s ≠ s' ∧ Backend.memory.veiled s = Backend.memory.veiled s' ∧
      SameVerdicts x {} .memory s s' asked ∧
      (answeredAll x {} .memory s asked).1 = (answeredAll x {} .memory s' asked).1 ∧
      Backend.memory.veiled (answeredAll x {} .memory s asked).2 =
        Backend.memory.veiled (answeredAll x {} .memory s' asked).2 := by
  intro x s s' asked
  have differ : s ≠ s' := by
    intro h
    have bytes := congrArg (fun salt : Salt => salt.bytes.data.toList) (saltedBooks_inj h)
    revert bytes
    decide
  have same : Backend.memory.veiled s = Backend.memory.veiled s' :=
    (veiled_saltedBooks _).trans (veiled_saltedBooks _).symm
  have claimed : (infoRequest ⟨"alice", "secret"⟩).claims x = some ⟨"alice", "secret"⟩ := by
    decide +kernel
  have verdicts : SameVerdicts x {} .memory s s' asked := by
    refine ⟨fun c hc => ?_, trivial⟩
    cases claimed.symm.trans hc
    exact (verdict_saltedBooks _).trans (verdict_saltedBooks _).symm
  exact ⟨differ, same, verdicts, hashes_never_show.1 x {} .memory s s' asked same verdicts⟩

end Http

end Scrip
