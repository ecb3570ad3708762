import Scrip.Proofs.Http.Keeps

/-!
# How a request is refused

Whatever the storage does, a request on a route that is known is refused in one of two ways: by an
object with the text of an error of the engine in it, or by a remark in plain text. The latter tells
that the request itself could not be read (`Request.IsGarbled`), and no other request gets it
(`respond_refuses`).

* `Worded`: how responses are worded, by whether the request could be read;
* `authorize_outcome`, `serve_worded`: what the stages of a response answer.
-/

namespace Scrip.Http

open Crypt (Salt)
open Wire

/-- What a route needs of the request besides credentials cannot be read: a message in the body, or
the name of an item in the path. -/
def Request.HasGarbledContent (r : Request) (x : Extractors) : Route → Prop
  | .signIn => ∃ response, x.signIn r = .error response
  | .member .sendCoins => ∃ response, x.sendCoins r = .error response
  | .member .buy => ∃ response, x.item r = .error response
  | .member .info | .member .offers => False

/-- The server comes to something in a request that it cannot read. The content is looked at when
the credentials, where a route wants any, let in. -/
def Request.IsGarbled (r : Request) (x : Extractors) (admitted : Except Response Account) :
    Route → Prop
  | .signIn => r.HasGarbledContent x .signIn
  | .member route => r.HasGarbledHeader ∨
      (∃ a, admitted = .ok a) ∧ r.HasGarbledContent x (.member route)

/-- What a response may look like, by whether the request was garbled. -/
inductive Worded (garbled : Prop) : Response → Prop
  | done (readable : ¬ garbled) : Worded garbled .done
  | found (readable : ¬ garbled) (text : Json.Text) : Worded garbled (.found text)
  | refused (readable : ¬ garbled) (failure : Error) : Worded garbled (.refusal failure)
  | unread {response : Response} (h : garbled) (remark : response.IsRemark) :
      Worded garbled response

namespace Worded

variable {garbled : Prop} {response : Response}

/-- An outcome is told of when the request could be read. -/
theorem answer {α : Type} {f : α → Response} (readable : ¬ garbled)
    (success : ∀ a, Worded garbled (f a)) (outcome : Except Error α) :
    Worded garbled (answer f outcome) := by
  cases outcome with
  | ok a => exact success a
  | error failure => exact .refused readable failure

theorem congr {garbled' : Prop} (h : garbled ↔ garbled') (worded : Worded garbled response) :
    Worded garbled' response :=
  propext h ▸ worded

/-- A response that tells of no success is a refusal of either kind. -/
theorem refusal (worded : Worded garbled response) (failed : response.isSuccess = false) :
    response.IsRemark ∨ ∃ failure : Error, response = .refusal failure := by
  cases worded with
  | done => cases failed
  | found => cases failed
  | refused _ failure => exact .inr ⟨failure, rfl⟩
  | unread _ remark => exact .inl remark

/-- Plain text tells of a garbled request. -/
theorem plain_iff (worded : Worded garbled response) : response.body = .plain ↔ garbled := by
  cases worded with
  | done readable | found readable | refused readable =>
    exact iff_of_false Body.noConfusion readable
  | unread h remark =>
    obtain ⟨_, -, rfl⟩ := remark
    exact iff_of_true rfl h

end Worded

section

variable {σ : Type} (party : Dialogue.Party Call Call.Reply σ) (t : σ) {x : Extractors}
  {e : Engine} {salt : Salt} {r : Request}

/-- What somebody who signs in is told. -/
theorem signIn_worded (hx : x.Lawful) :
    Worded (r.HasGarbledContent x .signIn) ((signIn x e salt r).run party t).1 := by
  show Worded (∃ response, x.signIn r = .error response) _
  unfold signIn
  split
  · exact .unread ⟨_, ‹_›⟩ (hx.signIn ‹_›)
  · rename_i m read
    simp only [Dialogue.run_bind]
    exact .answer (by simp [read]) (fun _ => .found (by simp [read]) _) _

/-- Whether somebody is let in: credentials that cannot be read are refused by a remark, and every
other refusal is an error of the engine. -/
theorem authorize_outcome :
    (∀ response, x.credentials r = .error response →
      ((authorize x e r).run party t).1 = .error response) ∧
      ((∀ response, x.credentials r ≠ .error response) →
        (∃ a, ((authorize x e r).run party t).1 = .ok a) ∨
          ∃ failure : Error, ((authorize x e r).run party t).1 = .error (.refusal failure)) := by
  unfold authorize
  split
  · rename_i response garbled
    refine ⟨fun response' garbled' => ?_, fun readable => absurd garbled (readable response)⟩
    cases garbled.symm.trans garbled'
    rfl
  · rename_i missing
    exact ⟨fun _ garbled => (by cases missing.symm.trans garbled), fun _ => .inr ⟨_, rfl⟩⟩
  · rename_i c brought
    refine ⟨fun _ garbled => (by cases brought.symm.trans garbled), fun _ => ?_⟩
    split
    · exact .inr ⟨_, rfl⟩
    · simp only [Dialogue.run_bind]
      split
      · exact .inl ⟨_, rfl⟩
      · exact .inr ⟨_, rfl⟩

/-- What somebody who was let in is told. -/
theorem serve_worded (hx : x.Lawful) (a : Account) (route : MemberRoute) :
    Worded (r.HasGarbledContent x (.member route)) ((serve x e r a route).run party t).1 := by
  cases route with
  | info =>
    show Worded False ((info e a).run party t).1
    simp only [info, Dialogue.run_bind]
    exact .answer id (fun _ => .found id _) _
  | offers =>
    show Worded False ((offers e).run party t).1
    simp only [offers, Dialogue.run_bind]
    exact .answer id (fun _ => .found id _) _
  | sendCoins =>
    show Worded (∃ response, x.sendCoins r = .error response) ((sendCoins x e a r).run party t).1
    unfold sendCoins
    split
    · exact .unread ⟨_, ‹_›⟩ (hx.sendCoins ‹_›)
    · rename_i m read
      simp only [Dialogue.run_bind]
      exact .answer (by simp [read]) (fun _ => .done (by simp [read])) _
  | buy =>
    show Worded (∃ response, x.item r = .error response) ((buy x e a r).run party t).1
    unfold buy
    split
    · exact .unread ⟨_, ‹_›⟩ (hx.item ‹_›)
    · rename_i name read
      simp only [Dialogue.run_bind]
      exact .answer (by simp [read]) (fun _ => .done (by simp [read])) _

/-- What is told on a route whose method is right. -/
theorem respondOn_worded (hx : x.Lawful) {route : Route} (method : r.method ∈ route.methods) :
    Worded (r.IsGarbled x ((authorize x e r).run party t).1 route)
      ((respondOn x e salt r route).run party t).1 := by
  have right : route.methods.contains r.method = true := by simpa using method
  unfold respondOn
  simp only [right, if_true]
  cases route with
  | signIn =>
    simp only [bind_pure]
    exact signIn_worded party t hx
  | member route =>
    simp only [bind_pure, Dialogue.run_bind]
    obtain ⟨garbled, readable⟩ := authorize_outcome party t (x := x) (e := e) (r := r)
    by_cases h : r.HasGarbledHeader
    · obtain ⟨response, unread⟩ := hx.garbled_iff.mpr h
      rw [garbled response unread]
      exact .unread (.inl h) (hx.credentials unread)
    · obtain ⟨a, admitted⟩ | ⟨failure, refused⟩ := readable (not_exists.mp (mt hx.garbled_iff.mp h))
      · rw [admitted]
        refine (serve_worded party _ hx a route).congr ⟨fun hc => .inr ⟨⟨a, rfl⟩, hc⟩, ?_⟩
        exact fun hg => (hg.resolve_left h).2
      · rw [refused]
        refine .refused ?_ failure
        rintro (hg | ⟨⟨a, ha⟩, -⟩)
        · exact h hg
        · cases ha

/-- Whatever the storage does and holds: a request on a known route by a right method succeeds, or
is refused by the JSON of an error of the engine under its status, or by a remark in plain text. The
remark is for what cannot be read, and only for that: credentials and, once they let in, the message
in the body or the name in the path. -/
theorem respond_refuses (hx : x.Lawful) {route : Route} (path : Route.ofPath? r.path = some route)
    (method : r.method ∈ route.methods) (get : r.method ≠ "HEAD") :
    let response := ((respond x e salt r).run party t).1
    (response.isSuccess = false →
      (∃ status ∈ unreadableStatus, response = { status, body := .plain }) ∨
        ∃ failure : Error, response =
          { status := statusOf failure, body := .json (Refusal.toJson ⟨failure.message⟩) }) ∧
      (response.body = .plain ↔ r.IsGarbled x ((authorize x e r).run party t).1 route) := by
  intro response
  have worded : Worded (r.IsGarbled x ((authorize x e r).run party t).1 route) response := by
    show Worded _ (Dialogue.run party (respond x e salt r) t).1
    unfold respond
    simp only [path, Dialogue.run_bind, if_neg get]
    exact respondOn_worded party t hx method
  exact ⟨worded.refusal, worded.plain_iff⟩

end

/-- A request for a known route by credentials that are not of the scheme `Basic`. -/
def bearerRequest : Request where
  method := "GET"
  path := "/api/info"
  headers := [("authorization", bytesOf "Bearer abc".toList)]

/-- Somebody brings other credentials to books without an account. -/
theorem respond_refuses_bearer :
    let x : Extractors := .standard
    let party := Storage.party Books.answer
    let t : Storage Books := { committed := {}, now := default }
    let response := ((respond x {} (.replicate 7) bearerRequest).run party t).1
    x.Lawful ∧ Route.ofPath? bearerRequest.path = some (.member .info) ∧
      bearerRequest.method ∈ Route.methods (.member .info) ∧ bearerRequest.method ≠ "HEAD" ∧
      (response.isSuccess = false →
        (∃ status ∈ unreadableStatus, response = { status, body := .plain }) ∨
          ∃ failure : Error, response =
            { status := statusOf failure, body := .json (Refusal.toJson ⟨failure.message⟩) }) ∧
      (response.body = .plain ↔
        bearerRequest.IsGarbled x ((authorize x {} bearerRequest).run party t).1
          (.member .info)) := by
  intro x party t response
  have path : Route.ofPath? bearerRequest.path = some (.member .info) := by decide +kernel
  have method : bearerRequest.method ∈ Route.methods (.member .info) := by decide
  have get : bearerRequest.method ≠ "HEAD" := by decide
  exact ⟨standard_lawful, path, method, get,
    respond_refuses party t standard_lawful path method get⟩

/-- Other credentials than those of the scheme `Basic` are refused without an object to tell the
error. -/
theorem bearer_told_plain :
    let t : Storage Books := { committed := {}, now := default }
    let response :=
      ((respond .standard {} (.replicate 7) bearerRequest).run (Storage.party Books.answer) t).1
    Route.ofPath? bearerRequest.path = some (.member .info) ∧
      bearerRequest.method ∈ Route.methods (.member .info) ∧ response.isSuccess = false ∧
      ¬ ∃ m : Refusal, response.body = .json m.toJson := by
  intro t response
  have plain : response = .unreadable 400 := by decide +kernel
  refine ⟨by decide +kernel, by decide, by rw [plain]; rfl, ?_⟩
  rintro ⟨m, h⟩
  rw [plain] at h
  cases h

end Scrip.Http
