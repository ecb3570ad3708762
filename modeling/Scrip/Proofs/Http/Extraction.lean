import Scrip.Http.Extraction
import Scrip.Proofs.Http.Credentials

/-!
# Extractors that can be relied on

What the server counts on of its extractors (`Extractors.Lawful`): a request of which something
cannot be read is refused by a remark in plain text, and the credentials are those that the request
brings (`Request.Brings`). The standard ones are such extractors (`standard_lawful`).
-/

namespace Scrip.Http

/-- The status codes of requests that cannot be read: malformed, too large, not said to be JSON, or
JSON of another shape. -/
def unreadableStatus : List Nat := [400, 413, 415, 422]

/-- A remark in plain text on a request that cannot be read. -/
def Response.IsRemark (response : Response) : Prop :=
  ∃ status ∈ unreadableStatus, response = .unreadable status

/-- A request brings a name and a password: the first of its `Authorization` headers says them. -/
def Request.Brings (r : Request) (c : Credentials) : Prop :=
  ∃ header others, r.values "authorization" = header :: others ∧ c.WrittenIn header

/-- No request brings two. -/
theorem Request.Brings.eq {r : Request} {c c' : Credentials} (h : r.Brings c) (h' : r.Brings c') :
    c = c' := by
  obtain ⟨_, _, values, written⟩ := h
  obtain ⟨_, _, values', written'⟩ := h'
  cases values.symm.trans values'
  exact Option.some.inj (written.ofHeader?_eq.symm.trans written'.ofHeader?_eq)

/-- A name without a colon is brought by the header that is made for it. -/
theorem Request.brings_basicHeader {r : Request} {c : Credentials}
    (colon : ':' ∉ c.username.toList) (h : r.values "authorization" = [basicHeader c.pair]) :
    r.Brings c :=
  ⟨_, _, h, Credentials.writtenIn_basicHeader colon⟩

/-- What is counted on of extractors. -/
structure Extractors.Lawful (x : Extractors) : Prop where
  /-- There are no credentials just if there is no header. -/
  missing : ∀ {r}, x.credentials r = .ok none ↔ r.values "authorization" = []
  brings : ∀ {r c}, x.credentials r = .ok (some c) ↔ r.Brings c
  credentials : ∀ {r response}, x.credentials r = .error response → response.IsRemark
  signIn : ∀ {r response}, x.signIn r = .error response → response.IsRemark
  sendCoins : ∀ {r response}, x.sendCoins r = .error response → response.IsRemark
  item : ∀ {r response}, x.item r = .error response → response.IsRemark

/-- The first `Authorization` header of a request does not say a name and a password. -/
def Request.HasGarbledHeader (r : Request) : Prop :=
  r.values "authorization" ≠ [] ∧ ∀ c, ¬ r.Brings c

theorem Extractors.Lawful.garbled_iff {x : Extractors} (hx : x.Lawful) {r : Request} :
    (∃ response, x.credentials r = .error response) ↔ r.HasGarbledHeader := by
  simp only [Request.HasGarbledHeader, ne_eq, ← hx.missing, ← hx.brings]
  cases x.credentials r with
  | error response => simp
  | ok c => cases c <;> simp

theorem isRemark_unreadable {status : Nat} (h : status ∈ unreadableStatus) :
    (Response.unreadable status).IsRemark :=
  ⟨status, h, rfl⟩

theorem isRemark_of_malformed {α : Type} {a? : Option α} {response : Response}
    (h : orMalformed a? = .error response) : response.IsRemark := by
  cases a? with
  | some => cases h
  | none =>
    cases h
    exact isRemark_unreadable (by decide)

/-- A message that cannot be read is refused by a remark. -/
theorem isRemark_message {α : Type} {read : Json.Reader α} {r : Request} {response : Response}
    (h : r.message read = .error response) : response.IsRemark := by
  unfold Request.message at h
  split at h
  · split at h
    · split at h <;> cases h
      · exact isRemark_unreadable (by decide)
      · exact isRemark_unreadable (by decide)
    · cases h
      exact isRemark_unreadable (by decide)
  · cases h
    exact isRemark_unreadable (by decide)

/-- The credentials of a request that has the header. -/
theorem credentials_standard {r : Request} {header : List UInt8} {others : List (List UInt8)}
    (h : r.values "authorization" = header :: others) :
    Extractors.standard.credentials r =
      (orMalformed (Credentials.ofHeader? header)).map some := by
  unfold Extractors.standard
  dsimp only
  rw [h]

theorem standard_lawful : Extractors.standard.Lawful where
  missing {r} := by
    cases h : r.values "authorization" with
    | nil => simp [Extractors.standard, h]
    | cons header others =>
      rw [credentials_standard h]
      cases Credentials.ofHeader? header <;> simp [orMalformed, Except.map]
  brings {r c} := by
    cases h : r.values "authorization" with
    | nil => simp [Extractors.standard, Request.Brings, h]
    | cons header others =>
      have brings : r.Brings c ↔ c.WrittenIn header := by simp [Request.Brings, h]
      rw [brings, ← Credentials.ofHeader?_eq_some_iff, credentials_standard h]
      cases Credentials.ofHeader? header <;> simp [orMalformed, Except.map]
  credentials {r response} failed := by
    cases h : r.values "authorization" with
    | nil => simp [Extractors.standard, h] at failed
    | cons header others =>
      rw [credentials_standard h] at failed
      cases hc : orMalformed (Credentials.ofHeader? header) with
      | ok => rw [hc] at failed; cases failed
      | error =>
        rw [hc] at failed
        cases failed
        exact isRemark_of_malformed hc
  signIn := isRemark_message
  sendCoins := isRemark_message
  item := isRemark_of_malformed

/-- The item that the end of a path names. -/
theorem standard_item {r : Request} {name : String}
    (h : segmentName? ((plainPath r.path).drop buyPath.length) = some name) :
    Extractors.standard.item r = .ok name :=
  congrArg orMalformed h

end Scrip.Http
