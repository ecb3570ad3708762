import Scrip.Proofs.Concurrency.Orderly
import Scrip.Proofs.Credential.Password
import Scrip.Proofs.Http.Keeps
import Scrip.Proofs.Ledger.Growth
import Scrip.Proofs.Ledger.Spending

/-!
# Requests act for their owner

What a request by itself does to what is committed (`Http.Does`), on either store and whichever
deadline passes. A request that is refused does nothing, and one that succeeds does what at most
one command does. An account that loses coins or of which the holdings change has its name and its
password in the header (`respond_owned`).
-/

namespace Scrip

namespace Books

variable {b b' : Books} {a : Account}

/-- The account has as many coins as before or more, and the same holdings. -/
structure Spares (b b' : Books) (a : Account) : Prop where
  coins : ∃ a', b'.account? a.id = some a' ∧ a.coins ≤ a'.coins
  holdings : b'.holdingsOf a.id = b.holdingsOf a.id

theorem Spares.refl (hk : b.Keyed) (ha : a ∈ b.accounts) : b.Spares b a :=
  ⟨⟨a, hk.account?_eq ha, le_rfl⟩, rfl⟩

end Books

/-- A command spares all accounts but the one that sends coins or spends them. -/
theorem Effect.spares {e : Engine} {b b' : Books} {c : Command} {o : Outcome} {a : Account}
    (he : Effect e b c o b') (hk : b.Keyed) (ha : a ∈ b.accounts)
    (hsend : ∀ name amount deadline, c ≠ .transfer a.id name amount deadline)
    (hspend : ∀ name deadline, c ≠ .purchase a.id name deadline) : b.Spares b' a := by
  have found := hk.account?_eq ha
  cases he with
  | look | signIn => exact .refl hk ha
  | addItem => exact ⟨⟨a, found, le_rfl⟩, rfl⟩
  | register | signUp => exact ⟨⟨a, Books.account?_withAccount found _, le_rfl⟩, rfl⟩
  | @transfer id name amount deadline sender recipient _ _ source _ apart positive =>
    have hne : a.id ≠ sender.id := fun h =>
      hsend name amount deadline (by rw [h, (Books.account?_mem source).2])
    have debited : (b.addCoins sender.id (-amount)).account? a.id = some a :=
      Books.account?_addCoins_of_ne hne found
    refine ⟨⟨_, (Books.account?_addCoins a.id).trans (congrArg _ debited), ?_⟩, rfl⟩
    dsimp only
    split
    · exact Int.le_add_of_nonneg_right positive.le
    · exact le_rfl
  | @purchase id name deadline buyer item _ _ acquired source =>
    have hne : a.id ≠ buyer.id := fun h =>
      hspend name deadline (by rw [h, (Books.account?_mem source).2])
    refine ⟨⟨a, ?_, le_rfl⟩, ?_⟩
    · have debited : (b.addCoins buyer.id (-item.price)).account? a.id = some a :=
        Books.account?_addCoins_of_ne hne found
      exact (congrArg (List.find? _) (Books.gain_accounts ..)).trans debited
    · refine Books.filter_gain fun h hacc _ => ?_
      exact beq_eq_false_iff_ne.mpr fun he => hne (he.symm.trans hacc)

namespace Http

open Credential
open Crypt (Salt)
open Exchange Exchange.Keeps
open Wire

/-- What a request does to the books when it succeeds. -/
inductive Does (x : Extractors) (e : Engine) (salt : Salt) (r : Request) (b : Books) :
    Route → Books → Prop
  | signsIn {m : SignIn} {a : Account} {b' : Books} (read : x.signIn r = .ok m)
      (he : Effect e b (.signIn m.username m.password salt) (.account a) b') :
      Does x e salt r b .signIn b'
  | looks {route : MemberRoute} (look : route = .info ∨ route = .offers) :
      Does x e salt r b (.member route) b
  | sends {a : Account} {m : SendCoins} {entry : Entry} {b' : Books} (known : a ∈ b.accounts)
      (names : r.Names a) (read : x.sendCoins r = .ok m)
      (he : Effect e b (.transfer a.id m.toUser m.amount none) (.entry entry) b') :
      Does x e salt r b (.member .sendCoins) b'
  | buys {a : Account} {name : String} {entry : Entry} {b' : Books} (known : a ∈ b.accounts)
      (names : r.Names a) (read : x.item r = .ok name)
      (he : Effect e b (.purchase a.id name none) (.entry entry) b') :
      Does x e salt r b (.member .buy) b'

variable {x : Extractors} {e : Engine} {salt : Salt} {r : Request} {b b' : Books}

/-- Who loses coins or has other holdings afterwards was named, with the password. -/
theorem Does.spares {route : Route} (h : Does x e salt r b route b') (hk : b.Keyed) {a : Account}
    (ha : a ∈ b.accounts) (hn : ¬ r.Names a) : b.Spares b' a := by
  have other {owner : Account} (known : owner ∈ b.accounts) (names : r.Names owner) :
      owner.id ≠ a.id := fun he => hn (hk.eq_of_mem known ha he ▸ names)
  cases h with
  | signsIn _ he => exact he.spares hk ha (fun _ _ _ => nofun) fun _ _ => nofun
  | looks => exact .refl hk ha
  | sends known names _ he =>
    refine he.spares hk ha (fun _ _ _ hc => other known names ?_) fun _ _ => nofun
    exact (Command.transfer.inj hc).1
  | buys known names _ he =>
    refine he.spares hk ha (fun _ _ _ => nofun) fun _ _ hc => other known names ?_
    exact (Command.purchase.inj hc).1

/-- The terms of a request by itself. -/
def Request.terms : Terms where
  listing := True
  expires := True
  rely := Eq
  commits := fun _ _ => True

theorem Request.terms_sound : Request.terms.Sound :=
  ⟨Eq.trans, fun _ => trivial⟩

theorem Request.eq_of_stays (h : Request.terms.Stays b b') : b' = b :=
  h.elim id Eq.symm

/-- How a request by itself ends: refused, with nothing done, or with success, and it did what its
path says. -/
def Alone (x : Extractors) (e : Engine) (salt : Salt) (r : Request) (b : Books)
    (response : Response) (b' : Books) : Prop :=
  (response.isSuccess = false ∧ b' = b) ∨
    (response.isSuccess = true ∧ ∃ route, Route.ofPath? r.path = some route ∧
      r.method ∈ route.methods ∧ Does x e salt r b route b')

theorem respond_alone (hx : x.Lawful) (hm : e.initialBalance ≤ maxCoins) :
    (respond x e salt r).Keeps Request.terms b (Alone x e salt r b) := by
  refine (respond_keeps Request.terms_sound hx trivial hm fun _ _ _ _ _ _ => trivial).mono ?_
  rintro response b' (⟨hs, hf⟩ | ⟨route, full, path, h, hresponse⟩)
  · exact .inl ⟨hf, Request.eq_of_stays hs⟩
  have hsuccess : response.isSuccess = full.isSuccess := by
    rw [hresponse]
    split <;> rfl
  rw [Alone, hsuccess]
  cases h with
  | refused hs hf => exact .inl ⟨hf, Request.eq_of_stays hs⟩
  | signedIn hr method read he =>
    cases hr
    exact .inr ⟨rfl, _, path, method, .signsIn read he⟩
  | served hr known names method hr' hs =>
    cases hr
    cases hr'
    refine .inr ?_
    cases hs with
    | info => exact ⟨rfl, _, path, method, .looks (.inl rfl)⟩
    | offers => exact ⟨rfl, _, path, method, .looks (.inr rfl)⟩
    | sent read he => exact ⟨rfl, _, path, method, .sends known names read he⟩
    | bought read he => exact ⟨rfl, _, path, method, .buys known names read he⟩

/-- A request about to be answered from a store, with nobody else there. -/
def asking (x : Extractors) (e : Engine) (salt : Salt) (r : Request) {σ : Type} (s : σ) :
    Shared Unit σ Response :=
  { committed := s, client := fun _ => some (respond x e salt r) }

/-- With nobody else there, whatever is committed suits all. -/
theorem suits_of_eq {T : Unit → Terms} (rely : ∀ b, (T ()).rely b b) (b w : Books) :
    Shared.Orderly.Admits T () b w :=
  ⟨fun _ => rely w, fun _ hj => absurd rfl hj⟩

/-- A request by itself, answered from a store of any books, whatever the clock shows and whichever
deadline passes. When it is refused, what is committed is as it was. When it succeeds, what is
committed is as one command of its path left it. And whoever has fewer coins or other holdings then
was named by its credentials, with the password. -/
theorem respond_owned (hx : x.Lawful) (hm : e.initialBalance ≤ maxCoins) (k : Backend)
    (applied : Option (Table String)) (h : b.Storable) {log : List (Unit × Ending)}
    {S : Shared Unit k.State Response} {response : Response}
    (run : Shared.Run k.keeper (asking x e salt r (k.hold applied b)) log S)
    (answered : S.client () = some (.done response)) :
    ∃ b', S.committed = k.hold applied b' ∧ (response.isSuccess = false → b' = b) ∧
      (response.isSuccess = true → ∃ route, Route.ofPath? r.path = some route ∧
        r.method ∈ route.methods ∧ Does x e salt r b route b') ∧
      ∀ a ∈ b.accounts, ¬ b.Spares b' a → r.Names a := by
  have start : Shared.Orderly (k := k) (fun _ => Request.terms) applied
      (fun _ => Alone x e salt r b) (asking x e salt r (k.hold applied b)) b :=
    .start h rfl (fun _ => rfl) fun _ _ hd => Option.some.inj hd ▸ respond_alone hx hm
  obtain ⟨b₁, orderly⟩ := run.timed.orderly (fun _ _ => trivial) start
    fun _ _ b w _ _ _ _ => suits_of_eq (fun _ => rfl) b w
  obtain ⟨b', hend, rfl, -⟩ := orderly.ended answered
  refine ⟨b', orderly.committed, ?_⟩
  rcases hend with ⟨hf, rfl⟩ | ⟨hs, hdone⟩
  · exact ⟨fun _ => rfl, fun hs => absurd (hf.symm.trans hs) Bool.false_ne_true,
      fun a ha hn => absurd (.refl h.keyed ha) hn⟩
  · refine ⟨fun hf => absurd (hf.symm.trans hs) Bool.false_ne_true, fun _ => hdone,
      fun a ha hn => by_contra fun hnames => hn ?_⟩
    obtain ⟨route, -, -, hdoes⟩ := hdone
    exact hdoes.spares h.keyed ha hnames

/-! ## A purchase -/

/-- A request that meets no deadline is answered, and as it is on its own terms. -/
theorem exists_response {Q : Response → Books → Prop} (k : Backend)
    (applied : Option (Table String)) (h : b.Storable)
    (keeps : (respond x e salt r).Keeps .alone b Q) :
    ∃ log S response, Shared.Run k.keeper (asking x e salt r (k.hold applied b)) log S ∧
      S.client () = some (.done response) ∧ ∃ b', Q response b' := by
  have start : Shared.Orderly (k := k) (fun _ => Terms.alone) applied (fun _ => Q)
      (asking x e salt r (k.hold applied b)) b :=
    .start h rfl (fun _ => rfl) fun _ _ hd => Option.some.inj hd ▸ keeps
  obtain ⟨log, S, response, _, run, ended, -, -, orderly⟩ :=
    start.exists_end (fun b w _ => suits_of_eq (fun _ => rfl) b w) (.inl rfl) rfl
  obtain ⟨b', hQ, -, -⟩ := orderly.ended ended
  exact ⟨log, S, response, run.run, ended, b', hQ⟩

/-- A purchase that nothing is said against is made. -/
theorem purchase_made {id : AccountId} {name : String} {sale : Account × Item}
    (sold : b.purchasable id name = .ok sale) :
    (e.purchase id name none).Keeps .alone b fun outcome _ => ∃ entry, outcome = .ok entry := by
  refine Keeps.unit (fun b' hr hs => ?_) False.elim
  obtain rfl : b = b' := hr
  have gives : (Engine.buy id name).Gives b fun entry b' =>
      Effect e b (.purchase id name none) (.entry entry) b' :=
    Engine.buy_gives hs.keyed e
  refine ((Engine.buy_decides hs id name).and_gives gives).mono fun outcome b' h => ?_
  obtain ⟨decided, gives⟩ := h
  rw [sold] at decided
  cases outcome with
  | error =>
    obtain ⟨_, made⟩ := decided
    cases made
  | ok entry => exact ⟨(gives entry rfl).below, entry, rfl⟩

/-- Who is let in and can pay for an item gets it. -/
theorem respond_buys {c : Credentials} {a : Account} {name : String} {sale : Account × Item}
    (path : Route.ofPath? r.path = some (.member .buy)) (method : r.method = "GET")
    (brought : x.credentials r = .ok (some c)) (named : c.username ≠ "") (locked : c.password ≠ "")
    (admitted : Engine.letIn c.password (b.accountByName? (canonicalUsername c.username)) = .ok a)
    (read : x.item r = .ok name) (sold : b.purchasable a.id name = .ok sale) :
    (respond x e salt r).Keeps .alone b fun response _ => response = .done := by
  rw [respond_member path (by rw [method]; decide) (by rw [method]; decide)]
  refine Keeps.bind (authorize_looks Terms.alone_sound brought named locked) fun outcome b' h => ?_
  obtain ⟨found, looked, rfl⟩ := h
  obtain ⟨rfl, rfl⟩ := looked.alone
  rw [admitted]
  show Keeps .alone (buy x e a r) b' _
  unfold buy
  simp only [read]
  refine Keeps.bind (purchase_made sold) fun outcome b' h => ?_
  obtain ⟨entry, rfl⟩ := h
  exact Keeps.done rfl

/-- Somebody who can afford the cup on offer, with some hash of a password. -/
def cupSeeker (hash : String) : Books where
  accounts := [⟨1, "ann", hash, 40, default⟩]
  items := [⟨1, "cup", 20, default⟩]
  sequences := { account := 1, item := 1 }

theorem storable_cupSeeker (hash : String) : (cupSeeker hash).Storable := by
  refine ⟨⟨List.nodup_singleton _, ?_⟩, fun a ha => ?_, .nil, nofun⟩
  · exact fun i hi => (List.mem_singleton.mp hi).le
  · rw [List.mem_singleton.mp ha]
    show 0 ≤ (40 : Int) ∧ (40 : Int) ≤ maxCoins
    decide

/-- Somebody buys a cup from tables. -/
theorem respond_owned_cup :
    let hash := hashPassword (.replicate 7) "secret"
    let ann : Account := ⟨1, "ann", hash, 40, default⟩
    let b := cupSeeker hash
    let x : Extractors := .standard
    let r : Request :=
      { method := "GET", path := "/api/buy/cup"
        headers := [("authorization", basicHeader ("ann" ++ ":" ++ "secret"))] }
    let e : Engine := {}
    x.Lawful ∧ e.initialBalance ≤ maxCoins ∧ b.Storable ∧ ∃ log S,
      Shared.Run Backend.tables.keeper (asking x e (.replicate 7) r (Backend.tables.hold none b))
        log S ∧
      S.client () = some (.done .done) ∧
      ∃ b', S.committed = Backend.tables.hold none b' ∧
        Does x e (.replicate 7) r b (.member .buy) b' ∧
        b'.account? 1 = some { ann with coins := 20 } ∧ ¬ b.Spares b' ann ∧ r.Names ann := by
  intro hash ann b x r e
  have hm : e.initialBalance ≤ maxCoins := show defaultGrant ≤ maxCoins by decide
  have storable : b.Storable := storable_cupSeeker hash
  have path : Route.ofPath? r.path = some (.member .buy) := by decide +kernel
  have brought : x.credentials r = .ok (some ⟨"ann", "secret"⟩) :=
    standard_lawful.brings.mpr (Request.brings_basicHeader (by decide) rfl)
  have canonical : canonicalUsername "ann" = "ann" := by decide +kernel
  have known : b.accountByName? (canonicalUsername "ann") = some ann := by
    rw [canonical]
    rfl
  have verified : verifyPassword "secret" ann.passwordHash = true :=
    verifyPassword_hashPassword (.replicate 7) "secret"
  have admitted : Engine.letIn "secret" (b.accountByName? (canonicalUsername "ann")) = .ok ann := by
    rw [known]
    exact Engine.letIn_of_verified verified
  have segment : segmentName? ((plainPath r.path).drop buyPath.length) = some "cup" := by
    decide +kernel
  have read : x.item r = .ok "cup" := standard_item segment
  obtain ⟨log, S, response, run, answered, -, rfl⟩ := exists_response (e := e) .tables none storable
    (respond_buys path rfl brought (by decide) (by decide) admitted read rfl)
  obtain ⟨b', committed, -, does, owned⟩ :=
    respond_owned standard_lawful hm .tables none storable run answered
  obtain ⟨route, hroute, -, does⟩ := does rfl
  cases path.symm.trans hroute
  have fell : b'.account? 1 = some { ann with coins := 20 } := by
    cases does with
    | looks look => rcases look with h | h <;> cases h
    | @buys a name entry _ mem _ read' he =>
      cases read.symm.trans read'
      rw [List.mem_singleton.mp mem] at he
      have spends : (Command.purchase ann.id "cup" none).Spends b ann.id 20 .purchase :=
        .purchase rfl rfl
      obtain ⟨-, -, left, -⟩ := he.spends spends (a := ann) rfl
      exact left
  have lost : ¬ b.Spares b' ann := by
    rintro ⟨⟨a', found, more⟩, -⟩
    cases fell.symm.trans found
    exact absurd more (show ¬ (40 : Int) ≤ 20 by decide)
  exact ⟨standard_lawful, hm, storable, log, S, run, answered, b', committed, does, fell, lost,
    owned ann (List.mem_singleton_self ann) lost⟩

end Http

end Scrip
