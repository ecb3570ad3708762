import Scrip.Proofs.Concurrency.Episode
import Scrip.Proofs.Concurrency.Orderly
import Scrip.Proofs.Framework.Steady

/-!
# Units as a whole, wherever books are kept

How the unit of an operation goes that is carried out as a whole in either store.

* `requests_inUnit`: how a client may be about to go on inside a unit whose work complies;
* `Episode.Alone.went`: such a unit is committed with a value, is rolled back because the work
  failed, or is given up;
* `Episode.Alone.steady`: what a steady client leaves, whatever it asks;
* `Shared.Run.mirrored_on`: what holds of a system of whole units at the start and is kept by its
  moves holds of one that mirrors the system of single calls.
-/

namespace Scrip

open Dialogue (Lawful)

variable {ι α β : Type} {k : Backend} {applied : Option (Table String)} {b : Books}

/-! ## Work that complies -/

/-- How a client is about to go on inside the unit of an operation. The copy on which it works is
what `Q` says of the outcome once the work is over. -/
inductive Exchange.Open (op : Operation) (go : Except Error α → Exchange β)
    (Q : Except Failure α → Books → Prop) (copy : Books) : Exchange β → Prop
  | asks {r : Request} {next : r.Reply → Exchange β}
      (late : next (.error .expired) = go (.error (.timeout op.label))) :
      Open op go Q copy (.ask (.within r) next)
  | commits {a : α} {next : Except StoreError Unit → Exchange β} (ends : Q (.ok a) copy)
      (goesOn : next (.ok ()) = go (.ok a)) : Open op go Q copy (.ask .commit next)
  | rollsBack {failure : Failure} {next : Except Lapse Unit → Exchange β}
      (ends : Q (.error failure) copy) (goesOn : next (.ok ()) = go (.error (failure.toError op)))
      (late : next (.error .expired) = go (.error (.timeout op.label))) :
      Open op go Q copy (.ask .rollback next)

section Complies

variable {listing : Prop} {op : Operation} {limit : Option Nat} {w : Work α}
  {go : Except Error α → Exchange β} {Q : Except Failure α → Books → Prop}

/-- The requests of work that complies are answered, and what is left of it complies as well. -/
theorem requests_complies {f : Except Failure α → Exchange β}
    (hf : ∀ outcome, outcome ≠ .error .expired → Exchange.Settles (f outcome)) {d : Exchange β}
    {copy : k.State} {work : Dialogue Request Request.Reply (Except Failure α)} :
    ∀ {clock : List Instant} {b : Books}, b.Storable →
      Lawful (Work.Asks listing) (Work.May True) work (some b) (Work.Ends True Q) →
      requests k.keeper clock (work.embed Call.within (fun _ reply => reply) >>= f)
        (k.hold applied b) = some (d, copy) →
      ∃ rest c, Books.Storable c ∧ copy = k.hold applied c ∧
        d = rest.embed Call.within (fun _ reply => reply) >>= f ∧
        Lawful (Work.Asks listing) (Work.May True) rest (some c) (Work.Ends True Q) := by
  induction work with
  | done outcome =>
    intro clock b hb hw h
    cases clock with
    | nil =>
      obtain ⟨rfl, rfl⟩ := Prod.mk.inj (Option.some.inj h)
      exact ⟨.done outcome, b, hb, rfl, rfl, hw⟩
    | cons now clock =>
      have hnone : requests k.keeper (now :: clock) (f outcome) (k.hold applied b) = none :=
        requests_settles (hf outcome (Lawful.done_iff.mp hw).1)
      cases hnone.symm.trans h
  | ask r next ih =>
    intro clock b hb hw h
    cases clock with
    | nil =>
      obtain ⟨rfl, rfl⟩ := Prod.mk.inj (Option.some.inj h)
      exact ⟨.ask r next, b, hb, rfl, rfl, hw⟩
    | cons now clock =>
      obtain ⟨⟨_, hs, accepted⟩, hnext⟩ := Lawful.ask_iff.mp hw
      cases hs
      obtain ⟨x, b', hx, hb', answers⟩ := Backend.keeper_answers hb accepted applied now
      obtain ⟨a, ha, hsame⟩ := answers k
      simp only [Dialogue.embed, Dialogue.ask_bind, requests, ha] at h
      exact ih _ hb' (hnext _ _ (.serves (.intro now.shown now.ordinary_shown x hx hsame))) h

/-- Inside the unit of an operation. -/
theorem requests_inUnit (hb : b.Storable) (hw : w.Complies listing True b Q) {d : Exchange β}
    {clock : List Instant} {copy : k.State}
    (h : requests k.keeper clock (w.exchange >>= fun outcome => settle op outcome >>= go)
      (k.hold applied b) = some (d, copy)) :
    ∃ c, Books.Storable c ∧ copy = k.hold applied c ∧ d.Open op go Q c := by
  obtain ⟨rest, c, hc, rfl, rfl, hrest⟩ :=
    requests_complies (fun outcome timely => settles_settle timely) hb hw h
  refine ⟨c, hc, rfl, ?_⟩
  match rest, hrest with
  | .ask r next, hrest =>
    -- The work is over when the deadline passes.
    have lapses : next (.error .expired) = .done (.error .expired) := by
      have lapsed := (Lawful.ask_iff.mp hrest).2 (.error .expired) none (.lapses trivial)
      generalize next (.error .expired) = last at lapsed ⊢
      cases last with
      | done outcome => rw [(Lawful.done_iff.mp lapsed).2]
      | ask =>
        obtain ⟨⟨_, hs, -⟩, -⟩ := Lawful.ask_iff.mp lapsed
        cases hs
    refine .asks ?_
    show (next (.error .expired)).embed _ _ >>= _ = _
    rw [lapses]
    rfl
  | .done (.ok a), hrest => exact .commits (Lawful.done_iff.mp hrest).2 rfl
  | .done (.error .expired), hrest => exact absurd rfl (Lawful.done_iff.mp hrest).1
  | .done (.error (.rule e)), hrest => exact .rollsBack (Lawful.done_iff.mp hrest).2 rfl rfl
  | .done (.error (.store e)), hrest => exact .rollsBack (Lawful.done_iff.mp hrest).2 rfl rfl

/-- How the unit of an operation went that began on some books, and what it left. -/
inductive Episode.Went (op : Operation) (go : Except Error α → Exchange β)
    (Q : Except Failure α → Books → Prop) (applied : Option (Table String)) (b : Books) :
    Episode ι β → k.State → Prop
  | commits {x : Episode ι β} {a : α} {c : Books} (ending : x.ending = .committed)
      (hc : c.Storable) (ends : Q (.ok a) c) (closing : x.closing = some (go (.ok a))) :
      Went op go Q applied b x (k.hold applied c)
  | rollsBack {x : Episode ι β} {failure : Failure} {c : Books} (ends : Q (.error failure) c)
      (closing : x.closing = some (go (.error (failure.toError op)))) :
      Went op go Q applied b x (k.hold applied b)
  | late {x : Episode ι β} (closing : x.closing = some (go (.error (.timeout op.label)))) :
      Went op go Q applied b x (k.hold applied b)
  | leaves {x : Episode ι β} (closing : x.closing = none) :
      Went op go Q applied b x (k.hold applied b)

theorem Episode.Alone.went {x : Episode ι β} {s : k.State}
    (h : x.Alone k.keeper (k.hold applied b) s) (ho : x.opening = inUnit op limit w >>= go)
    (hb : b.Storable) (hw : w.Complies listing True b Q) : x.Went op go Q applied b s := by
  rw [inUnit_bind] at ho
  cases h with
  | commits h =>
    cases ho
    obtain ⟨c, hc, rfl, inside⟩ := requests_inUnit hb hw h
    cases inside with
    | commits ends goesOn => exact .commits rfl hc ends (congrArg some goesOn)
  | rollsBack h =>
    cases ho
    obtain ⟨c, -, -, inside⟩ := requests_inUnit hb hw h
    cases inside with
    | rollsBack ends goesOn => exact .rollsBack ends (congrArg some goesOn)
  | expires h hr =>
    cases ho
    obtain ⟨c, -, -, inside⟩ := requests_inUnit hb hw h
    cases inside with
    | asks late | rollsBack _ _ late =>
      cases hr
      exact .late (congrArg some late)
    | commits => cases hr
  | leaves => exact .leaves rfl

end Complies

/-! ## Steady clients -/

section Steady

variable {R : Books → Books → Prop}

/-- The dialogue goes on steadily outside a unit. -/
def Exchange.Resumes (R : Books → Books → Prop) (d : Exchange α) : Prop :=
  ∃ b₀, Lawful (Standing.Asks R) Standing.May d ⟨b₀, none⟩ fun _ _ => True

theorem Exchange.Steady.resumes {d : Exchange α} (h : d.Steady R) : d.Resumes R :=
  ⟨{}, h _⟩

/-- A deadline may pass before any call but a commit. -/
theorem Exchange.Resumes.expires {c : Call} {next : c.Reply → Exchange α} {reply : c.Reply}
    (h : Exchange.Resumes R (.ask c next)) (hr : c.expired? = some reply) :
    (next reply).Resumes R := by
  obtain ⟨b₀, h⟩ := h
  exact ⟨b₀, (Lawful.ask_iff.mp h).2 _ _ (.expires hr)⟩

theorem requests_steady {d' : Exchange α} {copy : k.State} :
    ∀ {clock : List Instant} {d : Exchange α} {w : Books}, w.Storable →
      Lawful (Standing.Asks R) Standing.May d ⟨b, some w⟩ (fun _ _ => True) →
      requests k.keeper clock d (k.hold applied w) = some (d', copy) →
      ∃ w', Books.Storable w' ∧ copy = k.hold applied w' ∧
        Lawful (Standing.Asks R) Standing.May d' ⟨b, some w'⟩ fun _ _ => True
  | [], d, w, hw, hd, h => by
    obtain ⟨rfl, rfl⟩ := Prod.mk.inj (Option.some.inj h)
    exact ⟨w, hw, rfl, hd⟩
  | now :: clock, .ask (.within r) next, w, hw, hd, h => by
    obtain ⟨asked, hnext⟩ := Lawful.ask_iff.mp hd
    simp only [requests] at h
    rcases Backend.keeper_replies hw (asked w rfl) applied now k with
      ⟨a, w', ha, hw', hr⟩ | ⟨e, he⟩
    · simp only [ha] at h
      exact requests_steady hw' (hnext _ _ (.within hr)) h
    · simp only [he] at h
      exact requests_steady hw (hnext _ _ (.within (.lapses _))) h

/-- A unit of a steady client leaves what is committed as it was, or commits what may become of
it. -/
theorem Episode.Alone.steady {x : Episode ι α} {s : k.State}
    (h : x.Alone k.keeper (k.hold applied b) s) (hb : b.Storable) (ho : x.opening.Resumes R) :
    ∃ b', Books.Storable b' ∧ s = k.hold applied b' ∧
      (b' = b ∨ x.ending = .committed ∧ R b b') ∧ ∀ d ∈ x.closing, d.Resumes R := by
  obtain ⟨b₀, ho⟩ := ho
  cases h with
  | commits h =>
    obtain ⟨w, hw, rfl, lawful⟩ :=
      requests_steady hb ((Lawful.ask_iff.mp ho).2 _ _ (.begins hb)) h
    obtain ⟨asked, hnext⟩ := Lawful.ask_iff.mp lawful
    refine ⟨w, hw, rfl, .inr ⟨rfl, asked w rfl⟩, ?_⟩
    rintro d ⟨⟩
    exact ⟨w, hnext _ _ .commits⟩
  | rollsBack h =>
    obtain ⟨w, -, -, lawful⟩ := requests_steady hb ((Lawful.ask_iff.mp ho).2 _ _ (.begins hb)) h
    refine ⟨b, hb, rfl, .inl rfl, ?_⟩
    rintro d ⟨⟩
    exact ⟨b, (Lawful.ask_iff.mp lawful).2 _ _ (.rollsBack _)⟩
  | expires h hr =>
    obtain ⟨w, -, -, lawful⟩ := requests_steady hb ((Lawful.ask_iff.mp ho).2 _ _ (.begins hb)) h
    refine ⟨b, hb, rfl, .inl rfl, ?_⟩
    rintro d ⟨⟩
    exact ⟨b, (Lawful.ask_iff.mp lawful).2 _ _ (.expires hr)⟩
  | leaves => exact ⟨b, hb, rfl, .inl rfl, nofun⟩

/-- What holds of one client as it goes on, and of all others as before, holds of all. -/
theorem Serial.forall_update [DecidableEq ι] {P : ι → Exchange α → Prop} {i : ι}
    {client : ι → Option (Exchange α)} {next : Option (Exchange α)} (own : ∀ d ∈ next, P i d)
    (others : ∀ j ≠ i, ∀ d, client j = some d → P j d) :
    ∀ j d, Function.update client i next j = some d → P j d := by
  intro j d hd
  by_cases hj : j = i
  · subst hj
    rw [Function.update_self] at hd
    exact own d hd
  · rw [Function.update_of_ne hj] at hd
    exact others j hj d hd

/-- Books are committed, and every client goes on steadily. -/
structure Serial.Steady (R : ι → Books → Books → Prop) (applied : Option (Table String))
    (T : Serial ι k.State α) (b : Books) : Prop where
  storable : b.Storable
  committed : T.committed = k.hold applied b
  clients : ∀ i d, T.client i = some d → d.Resumes (R i)

/-- One move of steady clients: what is committed stays, or becomes what the client whose unit it
was may make of it. -/
theorem Serial.Steady.move [DecidableEq ι] {R : ι → Books → Books → Prop}
    {T T' : Serial ι k.State α} (h : T.Steady R applied b) {move : Move ι α}
    (hs : Serial.Step k.keeper T move T') :
    ∃ b', T'.Steady R applied b' ∧ (b' = b ∨ ∃ x, move = .unit x ∧ R x.client b b') := by
  have goesOn {s : k.State} {b' : Books} {i : ι} {next : Option (Exchange α)} (hb : b'.Storable)
      (hs : s = k.hold applied b') (own : ∀ d ∈ next, d.Resumes (R i)) :
      Serial.Steady R applied ⟨s, Function.update T.client i next⟩ b' :=
    ⟨hb, hs, forall_update own fun j _ => h.clients j⟩
  cases hs with
  | @unit x s hc hx =>
    rw [h.committed] at hx
    obtain ⟨b', hb', hs, made, closing⟩ := hx.steady h.storable (h.clients _ _ hc)
    exact ⟨b', goesOn hb' hs closing, made.imp_right fun hR => ⟨x, rfl, hR.2⟩⟩
  | expires hc hr =>
    refine ⟨b, goesOn h.storable h.committed ?_, .inl rfl⟩
    rintro _ ⟨⟩
    exact (h.clients _ _ hc).expires hr
  | leaves => exact ⟨b, goesOn h.storable h.committed nofun, .inl rfl⟩

end Steady

/-! ## Systems of whole units -/

namespace Shared

variable {σ : Type} [DecidableEq ι]

/-- A step on the way from one state to another, with the unit that it ends. -/
structure Passes (keeper : Keeper σ) (S₀ S S₁ : Shared ι σ α) (ended : Option (ι × Ending))
    (S₂ : Shared ι σ α) : Prop where
  before : ∃ log, Run keeper S₀ log S₁
  step : Step keeper S₁ ended S₂
  after : ∃ log, Run keeper S₂ log S

variable {keeper : Keeper σ} {S₀ S S₁ S₂ : Shared ι σ α} {ended : Option (ι × Ending)}

theorem Passes.onTheWay (h : Passes keeper S₀ S S₁ ended S₂) : OnTheWay keeper S₀ S S₁ := by
  obtain ⟨log, after⟩ := h.after
  exact ⟨h.before, _, .cons h.step after⟩

theorem Run.mirrored_on {log : List (ι × Ending)} (run : Run keeper S₀ log S)
    {T₀ : Serial ι σ α} (hm : Mirrors keeper T₀ S₀) {P : Serial ι σ α → Prop} (start : P T₀)
    (move : ∀ S₁ ended S₂ T move T', Passes keeper S₀ S S₁ ended S₂ → Mirrors keeper T S₁ →
      Mirrors keeper T' S₂ → Serial.Step keeper T move T' →
        move.episode?.map Episode.end = ended → P T → P T') :
    ∃ T, Mirrors keeper T S ∧ P T := by
  suffices hall : ∀ {log₁ S₁}, Run keeper S₀ log₁ S₁ → ∀ {log₂}, Run keeper S₁ log₂ S →
      ∃ T, Mirrors keeper T S₁ ∧ P T from hall run .refl
  intro log₁ S₁ run₁
  induction run₁ with
  | refl => exact fun _ => ⟨T₀, hm, start⟩
  | @step log₁ ended S₁ S₂ run₁ hs ih =>
    intro log₂ run₂
    obtain ⟨T, hT, hP⟩ := ih (.cons hs run₂)
    have passes : Passes keeper S₀ S S₁ ended S₂ := ⟨⟨_, run₁⟩, hs, _, run₂⟩
    rcases hT.step hs with ⟨-, hT'⟩ | ⟨x, T', hx, ends, hT'⟩
    · exact ⟨T, hT', hP⟩
    · exact ⟨T', hT', move _ _ _ _ _ _ passes hT hT' hx ends hP⟩

end Shared

/-- Clients that are about to begin are mirrored by themselves. -/
theorem Mirrors.start {σ : Type} (keeper : Keeper σ) (b : σ) (client : ι → Option (Exchange α)) :
    Mirrors keeper ⟨b, client⟩ { committed := b, client } :=
  ⟨rfl, fun _ _ => ⟨rfl, rfl⟩, nofun⟩

end Scrip
