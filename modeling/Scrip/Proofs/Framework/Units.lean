import Scrip.Proofs.Framework.Replies

/-!
# Units of work on a storage that may fail

Every way in which a storage of books may reply to a call (`Storage.Replies`).
Work inside a unit touches the copy alone, so a unit settles in one of two ways
(`Settles.unit`): it ends with a value, and what is committed is what the work gave;
or it ends with an error, and what is committed is what it was.

* `party_replies`, `scripted_replies`: a storage in memory and one under a script
  reply in such a way.
-/

namespace Scrip

open Dialogue (WP)

/-- How a storage of books may reply to a call, when any call may fail, the deadline may
pass during any but a commit, and the clock shows what it likes. -/
inductive Storage.Replies (s : Storage Books) : (c : Call) → c.Reply → Storage Books → Prop
  | begins {limit : Option Nat} (now : Instant) (h : s.working = none) :
      Replies s (.begin limit) (.ok ()) { s with working := some s.committed, now }
  | beginsNot {limit : Option Nat} (l : Lapse) : Replies s (.begin limit) (.error l) s
  | within {r : Request} {reply : r.Reply} {b b' : Books} (now : Instant)
      (h : s.working = some b) (hr : b.Replies r reply b') :
      Replies s (.within r) reply { s with working := some b', now }
  /-- The unit is dropped when the deadline passes. -/
  | expires {r : Request} : Replies s (.within r) (.error .expired) s.drop
  /-- Nothing is told of a request outside a unit, but that it changes nothing. -/
  | outside {r : Request} (reply : r.Reply) (h : s.working = none) : Replies s (.within r) reply s
  | commits {b : Books} (h : s.working = some b) :
      Replies s .commit (.ok ()) { s with committed := b, working := none }
  | commitsNot (e : StoreError) : Replies s .commit (.error e) s.drop
  | rollsBack (reply : Call.Reply .rollback) : Replies s .rollback reply s.drop

namespace Storage

variable {s : Storage Books} {I : Books → Prop}

/-- Requests inside a unit change the copy alone, as they would change books. -/
theorem exchange_ok {α : Type} {d : Dialogue Request Request.Reply α} {Q : α → Books → Prop}
    (hI : I s.committed) (hd : ∀ b, s.working = some b → WP Books.Replies (fun _ => True) d b Q) :
    WP Storage.Replies (fun s => I s.committed) (d.embed Call.within fun _ reply => reply) s
      fun a s' => s'.committed = s.committed ∧ ∀ b, s'.working = some b → Q a b := by
  induction d generalizing s with
  | done a => exact WP.done hI ⟨rfl, fun b hb => (WP.done_iff.mp (hd b hb)).2⟩
  | ask r next ih =>
    refine WP.ask hI fun reply s' hr => ?_
    cases hr with
    | within now hs hr =>
      refine ih reply hI fun b hb => ?_
      cases hb
      exact (WP.ask_iff.mp (hd _ hs)).2 _ _ hr
    | expires => exact ih (.error .expired) hI fun b hb => by cases hb
    | outside _ hs => exact ih reply hI fun b hb => by rw [hs] at hb; cases hb

/-- How a unit may settle, from what was committed: with a value, as `Q` says, or with an
error and no change. -/
def Settled {α : Type} (b : Books) (Q : α → Books → Prop) (outcome : Except Error α)
    (s : Storage Books) : Prop :=
  match outcome with
  | .ok a => Q a s.committed
  | .error _ => s.committed = b

theorem settle_ok {α : Type} {op : Operation} {outcome : Except Failure α}
    {Q : α → Books → Prop} (hI : I s.committed)
    (h : ∀ b a, s.working = some b → outcome = .ok a → I b ∧ Q a b) :
    WP Storage.Replies (fun s => I s.committed) (settle op outcome) s (Settled s.committed Q) := by
  match outcome with
  | .ok a =>
    refine WP.ask hI fun reply s' hr => ?_
    cases hr with
    | commits hs =>
      obtain ⟨hIb, hQ⟩ := h _ a hs rfl
      exact WP.done hIb hQ
    | commitsNot => exact WP.done hI rfl
  | .error .expired => exact WP.done hI rfl
  | .error (.rule e) | .error (.store e) =>
    refine WP.ask hI fun reply s' hr => ?_
    cases hr with
    | rollsBack =>
      match reply with
      | .ok () | .error (.failed _) | .error .expired => exact WP.done hI rfl

/-- Whatever the storage replies to an operation that starts from the books `b`: what is
committed satisfies `I` throughout, and it is in the end as `Q` says of the value, or as it was. -/
def Settles {α : Type} (I : Books → Prop) (b : Books) (x : Exchange (Except Error α))
    (Q : α → Books → Prop) : Prop :=
  ∀ s : Storage Books, s.committed = b →
    WP Storage.Replies (fun s => I s.committed) x s (Settled b Q)

section Settles

variable {α β : Type} {b : Books}

theorem Settles.mono {x : Exchange (Except Error α)} {P Q : α → Books → Prop}
    (hx : Settles I b x P) (hPQ : ∀ a b', P a b' → Q a b') : Settles I b x Q := fun s hs => by
  refine (hx s hs).mono fun outcome s' h => ?_
  cases outcome with
  | ok a => exact hPQ _ _ h
  | error failure => exact h

theorem Settles.ok {a : α} {Q : α → Books → Prop} (hI : I b) (ha : Q a b) :
    Settles I b (.done (.ok a)) Q := by
  rintro s rfl
  exact WP.done hI ha

theorem Settles.error {failure : Error} {Q : α → Books → Prop} (hI : I b) :
    Settles I b (.done (.error failure)) Q := by
  rintro s rfl
  exact WP.done hI rfl

/-- After an operation that only reads comes the next one, from the same books. -/
theorem Settles.bind {x : Exchange (Except Error α)}
    {f : Except Error α → Exchange (Except Error β)} {P : α → Prop} {Q : β → Books → Prop}
    (hx : Settles I b x fun a b' => b' = b ∧ P a)
    (hf : ∀ outcome, (∀ a, outcome = .ok a → P a) → Settles I b (f outcome) Q) :
    Settles I b (x >>= f) Q := fun s hs => by
  refine WP.bind (hx s hs) fun outcome s' h => ?_
  cases outcome with
  | ok a => exact hf _ (fun _ ha => Except.ok.inj ha ▸ h.2) s' h.1
  | error failure => exact hf _ (fun _ ha => by cases ha) s' h

/-- What is done with the outcome does not touch the storage. -/
theorem Settles.map {x : Exchange (Except Error α)} {f : α → β} {Q : β → Books → Prop}
    (hx : Settles I b x fun a => Q (f a)) :
    Settles I b (x >>= fun outcome => pure (outcome.map f)) Q := fun s hs => by
  refine WP.bind (hx s hs).there fun outcome s' ⟨hI, h⟩ => WP.done hI ?_
  cases outcome with
  | ok a => exact h
  | error failure => exact h

/-- A unit is all or nothing: it ends with a value of the work and commits what the work
left, or it ends with an error and commits nothing. -/
theorem Settles.unit {op : Operation} {limit : Option Nat} {w : Work α} {Q : α → Books → Prop}
    (hI : I b) (hw : w.Gives b fun a b' => I b' ∧ Q a b') :
    Settles I b (inUnit op limit w) Q := by
  rintro s rfl
  refine WP.ask hI fun reply s' hr => ?_
  cases hr with
  | begins now hs =>
    refine WP.bind (exchange_ok (s := { s with working := some s.committed, now })
      (Q := fun outcome b => ∀ a, outcome = .ok a → I b ∧ Q a b) hI fun b hb => ?_)
      fun outcome s' hs' => ?_
    · cases hb; exact hw
    · rw [← show s'.committed = s.committed from hs'.1] at hI ⊢
      exact settle_ok hI fun b a hb ha => hs'.2 b hb a ha
  | beginsNot l =>
    match l with
    | .failed e | .expired => exact WP.done hI rfl

/-- A unit that only reads leaves what is committed. -/
theorem Settles.reads {op : Operation} {limit : Option Nat} {w : Work α} (hI : I b)
    (hw : w.Reads) : Settles I b (inUnit op limit w) fun _ b' => b' = b :=
  Settles.unit hI ((hw b).mono fun _ _ h => ⟨h ▸ hI, h⟩)

end Settles

/-! ## Storages that reply in such a way -/

/-- A request that leaves the copy as it was. -/
theorem Replies.stays {r : Request} {reply : r.Reply} {b : Books} (now : Instant)
    (hs : s.working = some b) (hr : b.Replies r reply b) :
    s.Replies (.within r) reply { s with now } := by
  have h : s.Replies (.within r) reply { s with working := some b, now } := .within now hs hr
  rwa [← hs] at h

/-- A request whose reply needs no answer of the books. -/
theorem Replies.untouched {r : Request} {reply : r.Reply} (hr : ∀ b : Books, b.Replies r reply b) :
    s.Replies (.within r) reply s := by
  cases hs : s.working with
  | none => exact .outside _ hs
  | some b => exact .stays s.now hs (hr b)

/-- A storage in memory. -/
theorem party_replies (c : Call) (s : Storage Books) :
    s.Replies c (s.party Books.answer c).1 (s.party Books.answer c).2 := by
  cases c with
  | begin limit =>
    simp only [party]
    split
    · rename_i hs
      exact .begins _ hs
    · exact .beginsNot _
  | within r =>
    simp only [party, request]
    split
    · rename_i hs
      exact .outside _ hs
    · rename_i b hs
      split
      · rename_i hr
        exact .within _ hs (.answers _ hr)
      · exact .stays _ hs (.lapses (.failed ‹_›))
  | commit =>
    simp only [party]
    split
    · rename_i hs
      have := Replies.commitsNot (s := s) .database
      rwa [show s.drop = s by rw [drop, ← hs]] at this
    · rename_i hs
      exact .commits hs
  | rollback => exact .rollsBack _

/-- A call that does not reach the books, whether it fails or seems to find nothing. -/
theorem leave_replies (t : Scripted) (c : Call) :
    (∀ e, t.books.Replies c (c.fail e) (t.leave c).books) ∧
      t.books.Replies c c.findNothing (t.leave c).books := by
  have fails (e : StoreError) : t.books.Replies c (c.fail e) (t.leave c).books := by
    cases c with
    | begin limit => exact .beginsNot _
    | within r => exact .untouched fun _ => .lapses (.failed e)
    | commit => exact .commitsNot e
    | rollback => exact .rollsBack _
  refine ⟨fails, ?_⟩
  cases c with
  | within r =>
    simp only [Call.findNothing]
    split
    · exact .untouched fun _ => .findsNothing ‹_›
    · exact fails .database
  | begin | commit | rollback => exact fails .database

/-- A storage in memory under a script. -/
theorem scripted_replies (c : Call) (t : Scripted) :
    t.books.Replies c (t.party c).1 (t.party c).2.books := by
  have pass (t : Scripted) : t.books.Replies c (t.pass c).1 (t.pass c).2.books := by
    unfold Scripted.pass
    split
    · split
      · exact .untouched fun _ => .recites _ _
      · exact party_replies _ _
    · exact party_replies _ _
  have left := leave_replies { t with calls := t.calls ++ [c] } c
  simp only [Scripted.party]
  split
  · exact left.1 _
  · exact left.2
  · exact pass { t with calls := t.calls ++ [c] }

end Storage

end Scrip
