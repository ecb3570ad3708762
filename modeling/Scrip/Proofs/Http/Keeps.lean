import Scrip.Http.Server
import Scrip.Proofs.Engine.Keeps
import Scrip.Proofs.Http.Extraction

/-!
# Requests on terms

What a request to the server does to the books (`Http.Responded`): one that is refused, for
whatever reason, does nothing. One that succeeds does what one command does, and on all routes
but that of signing in it does so for the account whose name and password it brought.

* `authorize_keeps`: who is let in has an account with the password;
* `serve_keeps`, `respond_keeps`: a route, and a whole request.
-/

namespace Scrip.Http

open Credential
open Crypt (Salt)
open Exchange Exchange.Keeps
open Terms (Told Stays)
open Wire

/-- Whether a response tells of success. -/
def Response.isSuccess (r : Response) : Bool :=
  200 ≤ r.status && r.status < 300

theorem isSuccess_refusal (e : Error) : (Response.refusal e).isSuccess = false := by
  cases e <;> rfl

theorem Response.IsRemark.isSuccess {response : Response} (h : response.IsRemark) :
    response.isSuccess = false := by
  obtain ⟨status, code, rfl⟩ := h
  have refused : ∀ status ∈ unreadableStatus, (Response.unreadable status).isSuccess = false := by
    decide
  exact refused status code

/-- The request brings the name and the password of the account, neither of them empty. -/
def Request.Names (r : Request) (a : Account) : Prop :=
  ∃ c, r.Brings c ∧ c.username ≠ "" ∧ c.password ≠ "" ∧
    canonicalUsername c.username = a.username ∧ verifyPassword c.password a.passwordHash = true

/-- What is done to the books on a route, and what is answered, when it succeeds. -/
inductive Served (x : Extractors) (e : Engine) (r : Request) (a : Account) (b : Books) :
    MemberRoute → Response → Books → Prop
  | info {owner : Account} (found : b.account? a.id = some owner) :
      Served x e r a b .info
        (.found (Info.ofStatement ⟨owner, b.ownedBy a.id, b.historyOf owner⟩).toJson) b
  | offers : Served x e r a b .offers
      (.found (Json.array (b.items.map fun i => (Offer.ofItem i).toJson))) b
  | sent {m : SendCoins} {entry : Entry} {b' : Books} (read : x.sendCoins r = .ok m)
      (he : Effect e b (.transfer a.id m.toUser m.amount none) (.entry entry) b') :
      Served x e r a b .sendCoins .done b'
  | bought {name : String} {entry : Entry} {b' : Books} (read : x.item r = .ok name)
      (he : Effect e b (.purchase a.id name none) (.entry entry) b') :
      Served x e r a b .buy .done b'

variable {T : Terms} {x : Extractors} {e : Engine} {r : Request} {b : Books} {salt : Salt}

/-! ## What a request comes to -/

/-- A request on a route that needs credentials, by a right method. -/
theorem respond_member {route : MemberRoute} (path : Route.ofPath? r.path = some (.member route))
    (method : r.method ∈ (Route.member route).methods) (get : r.method ≠ "HEAD") :
    respond x e salt r = authorize x e r >>= fun outcome =>
      match outcome with
      | .error response => pure response
      | .ok a => serve x e r a route := by
  have right : (Route.member route).methods.contains r.method = true := by simpa using method
  unfold respond
  simp only [path, get, if_false, bind_pure]
  unfold respondOn
  simp only [right, if_true]
  refine congrArg (authorize x e r >>= ·) (funext fun outcome => ?_)
  cases outcome with
  | error response => rfl
  | ok a => exact bind_pure _

/-- A request to sign in. -/
theorem respond_to_signIn (path : Route.ofPath? r.path = some .signIn) (post : r.method = "POST") :
    respond x e salt r = signIn x e salt r := by
  have right : Route.signIn.methods.contains r.method = true := by rw [post]; rfl
  have get : r.method ≠ "HEAD" := by rw [post]; decide
  unfold respond
  simp only [path, get, if_false, bind_pure]
  unfold respondOn
  simp only [right, if_true, bind_pure]

/-! ## Stage by stage -/

/-- The answer to the outcome of an operation: it succeeds or does nothing. -/
theorem answer_keeps {α : Type} {d : Exchange (Except Error α)} {f : α → Response}
    {Q : Books → α → Books → Prop} (h : d.Keeps T b (T.Told b Q)) :
    Exchange.Keeps T (d >>= fun outcome => pure (answer f outcome)) b fun response b' =>
      (∃ b₁ a, T.rely b b₁ ∧ response = f a ∧ Q b₁ a b') ∨
        (T.Stays b b' ∧ response.isSuccess = false) := by
  refine Keeps.bind h fun outcome b' told => Keeps.done ?_
  cases told with
  | value hr hQ => exact .inl ⟨_, _, hr, rfl, hQ⟩
  | refused hs => exact .inr ⟨hs, isSuccess_refusal _⟩
  | expired hs => exact .inr ⟨hs, isSuccess_refusal _⟩

/-- Who brings credentials is let in or refused as their account is found. -/
theorem authorize_looks (hT : T.Sound) {c : Credentials}
    (brought : x.credentials r = .ok (some c)) (named : c.username ≠ "")
    (locked : c.password ≠ "") :
    (authorize x e r).Keeps T b fun outcome b' => ∃ found,
      Looks T b (fun b' => Engine.letIn c.password
        (b'.accountByName? (canonicalUsername c.username))) found b' ∧
      outcome = found.mapError .refusal := by
  have whole : (c.username.isEmpty || c.password.isEmpty) = false := by simp [named, locked]
  unfold authorize
  simp only [brought, whole, Bool.false_eq_true, if_false]
  refine Keeps.bind (Engine.authenticate_looks hT) fun found b' looked => ?_
  split
  · exact Keeps.done ⟨_, looked, rfl⟩
  · exact Keeps.done ⟨_, looked, rfl⟩

/-- Who is let in has an account of the name and password. -/
theorem authorize_keeps (hT : T.Sound) (hx : x.Lawful) :
    (authorize x e r).Keeps T b fun outcome b' =>
      (∃ a, outcome = .ok a ∧ T.rely b b' ∧ a ∈ b'.accounts ∧ r.Names a) ∨
        ∃ response, outcome = .error response ∧ T.Stays b b' ∧ response.isSuccess = false := by
  match brought : x.credentials r with
  | .error response =>
    unfold authorize
    simp only [brought]
    exact Keeps.done (.inr ⟨_, rfl, .inl rfl, (hx.credentials brought).isSuccess⟩)
  | .ok none =>
    unfold authorize
    simp only [brought]
    exact Keeps.done (.inr ⟨_, rfl, .inl rfl, rfl⟩)
  | .ok (some c) =>
    by_cases whole : c.username ≠ "" ∧ c.password ≠ ""
    · refine (authorize_looks hT brought whole.1 whole.2).mono ?_
      rintro outcome b' ⟨found, looked, rfl⟩
      cases looked.told fun _ _ h => Engine.letIn_eq_error h ▸ rfl with
      | @value b₁ b' a hr h =>
        obtain ⟨rfl, admitted⟩ := h
        obtain ⟨known, verified⟩ := Engine.letIn_eq_ok admitted
        obtain ⟨hmem, hname⟩ := Books.accountByName?_mem known
        exact .inl ⟨a, rfl, hr, hmem, c, hx.brings.mp brought, whole.1, whole.2, hname.symm,
          verified⟩
      | refused hs he => exact .inr ⟨_, rfl, hs, isSuccess_refusal _⟩
      | expired hs => exact .inr ⟨_, rfl, hs, isSuccess_refusal _⟩
    · have incomplete : (c.username.isEmpty || c.password.isEmpty) = true := by
        simpa [or_iff_not_and_not] using whole
      unfold authorize
      simp only [brought, incomplete, if_true]
      exact Keeps.done (.inr ⟨_, rfl, .inl rfl, rfl⟩)

/-- A route that needs credentials. -/
theorem serve_keeps (hT : T.Sound) (hx : x.Lawful) (hl : T.listing) (a : Account)
    (route : MemberRoute)
    (hc : ∀ b₁ c o b', T.rely b b₁ → Effect e b₁ c o b' → T.commits b₁ b') :
    (serve x e r a route).Keeps T b fun response b' =>
      (∃ b₁, T.rely b b₁ ∧ Served x e r a b₁ route response b') ∨
        (T.Stays b b' ∧ response.isSuccess = false) := by
  cases route with
  | info =>
    have told := (Engine.statement_keeps (e := e) (b := b) hT a.id hl).mono fun _ _ h =>
      h.told fun _ _ => Books.isBusiness_of_lookUp
    refine (answer_keeps told).mono fun response b' h => h.imp_left ?_
    rintro ⟨b₁, s, hr, rfl, rfl, hs⟩
    unfold Books.lookUp at hs
    cases ha : b'.account? a.id with
    | none =>
      rw [ha] at hs
      cases hs
    | some owner =>
      rw [ha] at hs
      cases hs
      exact ⟨b', hr, .info ha⟩
  | offers =>
    have told := (Engine.catalog_keeps (e := e) (b := b) hT).mono fun _ _ h =>
      h.told fun _ _ h => by cases h
    refine (answer_keeps told).mono fun response b' h => h.imp_left ?_
    rintro ⟨b₁, items, hr, rfl, rfl, hi⟩
    cases hi
    exact ⟨b', hr, .offers⟩
  | sendCoins =>
    show Keeps T (sendCoins x e a r) b _
    unfold sendCoins
    split
    · exact Keeps.done (.inr ⟨.inl rfl, (hx.sendCoins ‹_›).isSuccess⟩)
    · refine (answer_keeps (Engine.transfer_keeps fun b₁ o b' => hc b₁ _ o b')).mono
        fun response b' h => h.imp_left ?_
      rintro ⟨b₁, entry, hr, rfl, he⟩
      exact ⟨b₁, hr, .sent ‹_› he⟩
  | buy =>
    show Keeps T (buy x e a r) b _
    unfold buy
    split
    · exact Keeps.done (.inr ⟨.inl rfl, (hx.item ‹_›).isSuccess⟩)
    · refine (answer_keeps (Engine.purchase_keeps fun b₁ o b' => hc b₁ _ o b')).mono
        fun response b' h => h.imp_left ?_
      rintro ⟨b₁, entry, hr, rfl, he⟩
      exact ⟨b₁, hr, .bought ‹_› he⟩

/-- What a request does and is answered, before a method is minded that is wrong. -/
inductive Responded (T : Terms) (x : Extractors) (e : Engine) (salt : Salt) (r : Request)
    (b : Books) : Route → Response → Books → Prop
  | refused {route : Route} {response : Response} {b' : Books} (hs : T.Stays b b')
      (hf : response.isSuccess = false) : Responded T x e salt r b route response b'
  | signedIn {m : SignIn} {a : Account} {b₁ b' : Books} (hr : T.rely b b₁)
      (method : r.method ∈ Route.methods .signIn) (read : x.signIn r = .ok m)
      (he : Effect e b₁ (.signIn m.username m.password salt) (.account a) b') :
      Responded T x e salt r b .signIn (.found (SignedIn.toJson ⟨a.username, a.coins⟩)) b'
  | served {route : MemberRoute} {response : Response} {a : Account} {b₁ b₂ b' : Books}
      (hr : T.rely b b₁) (known : a ∈ b₁.accounts) (names : r.Names a)
      (method : r.method ∈ Route.methods (.member route)) (hr' : T.rely b₁ b₂)
      (hs : Served x e r a b₂ route response b') :
      Responded T x e salt r b (.member route) response b'

theorem respondOn_keeps (hT : T.Sound) (hx : x.Lawful) (hl : T.listing)
    (hm : e.initialBalance ≤ maxCoins) (route : Route)
    (hc : ∀ b₁ c o b', T.rely b b₁ → Effect e b₁ c o b' → T.commits b₁ b') :
    (respondOn x e salt r route).Keeps T b (Responded T x e salt r b route) := by
  unfold respondOn
  -- A wrong method is refused, whatever else is told about it.
  cases hright : route.methods.contains r.method with
  | true =>
    have method : r.method ∈ route.methods := by simpa using hright
    cases route with
    | signIn =>
      dsimp only
      refine Keeps.bind (P := Responded T x e salt r b .signIn) ?_ fun _ _ h => Keeps.done h
      unfold signIn
      split
      · exact Keeps.done (.refused (.inl rfl) (hx.signIn ‹_›).isSuccess)
      · refine (answer_keeps (Engine.signIn_keeps hT hm fun b₁ o b' => hc b₁ _ o b')).mono ?_
        rintro response b' (⟨b₁, a, hr, rfl, he⟩ | ⟨hs, hf⟩)
        · exact .signedIn hr method ‹_› he
        · exact .refused hs hf
    | member route =>
      refine Keeps.bind (authorize_keeps hT hx) fun outcome b₁ h => ?_
      rcases h with ⟨a, rfl, hr, known, names⟩ | ⟨response, rfl, hs, hf⟩
      · refine Keeps.bind (serve_keeps hT hx hl a route fun b₂ c o b' hr' =>
          hc b₂ c o b' (hT.trans hr hr')) fun response b' h => Keeps.done ?_
        rcases h with ⟨b₂, hr', hserved⟩ | ⟨hs, hf⟩
        · exact .served hr known names method hr' hserved
        · exact .refused (hT.stays (.inr hr) hs) hf
      · exact Keeps.done (.refused hs hf)
  | false =>
    have refused {response : Response} {b' : Books} (hs : T.Stays b b')
        (hf : response.isSuccess = false) : Responded T x e salt r b route
          { response with allow := some route.methods } b' := .refused hs hf
    cases route with
    | signIn => exact Keeps.done (refused (.inl rfl) rfl)
    | member route =>
      refine Keeps.bind (authorize_keeps hT hx) fun outcome b₁ h => ?_
      rcases h with ⟨a, rfl, hr, -⟩ | ⟨response, rfl, hs, hf⟩
      · exact Keeps.done (refused (.inr hr) rfl)
      · exact Keeps.done (refused hs hf)

/-- What is answered to a request: on a path that is known as on its route, without a body if that
was not asked for. -/
theorem respond_keeps (hT : T.Sound) (hx : x.Lawful) (hl : T.listing)
    (hm : e.initialBalance ≤ maxCoins)
    (hc : ∀ b₁ c o b', T.rely b b₁ → Effect e b₁ c o b' → T.commits b₁ b') :
    (respond x e salt r).Keeps T b fun response b' =>
      T.Stays b b' ∧ response.isSuccess = false ∨
        ∃ route full, Route.ofPath? r.path = some route ∧ Responded T x e salt r b route full b' ∧
          response = if r.method = "HEAD" then { full with body := .empty } else full := by
  unfold respond
  split
  · exact Keeps.done (.inl ⟨.inl rfl, rfl⟩)
  · exact Keeps.bind (respondOn_keeps hT hx hl hm _ hc) fun full b' h =>
      Keeps.done (.inr ⟨_, full, ‹_›, h, rfl⟩)

end Scrip.Http
