import Scrip.Proofs.Framework.Wp
import Scrip.Store.Books
import Scrip.Store.Unit

/-!
# Work on books that do not fail

What work comes to when every request reaches the books (`Books.Answers`). The clock shows
what it likes, and a request may still be refused by the books themselves. Nothing else is
open, so that `Work.Yields` can tell the outcome exactly, failures included.

* `Yields.bind`, `Yields.call`, `Yields.attempt`: the steps of work.
-/

namespace Scrip

open Dialogue (WP)

/-- How books reply to a request that reaches them. -/
inductive Books.Answers (b : Books) : (r : Request) → r.Reply → Books → Prop
  | answers {r : Request} {a : r.Answer} {b' : Books} (now : Instant)
      (h : b.answer now r = .ok (a, b')) : Answers b r (.ok a) b'
  | refuses {r : Request} {e : StoreError} (now : Instant) (h : b.answer now r = .error e) :
      Answers b r (.error (.failed e)) b

namespace Work

variable {α β : Type} {b : Books}

/-- Whatever the clock shows, `Q` holds of the outcome of the work and of the books it leaves. -/
def Yields (w : Work α) (b : Books) (Q : Except Failure α → Books → Prop) : Prop :=
  WP Books.Answers (fun _ => True) w.run b Q

theorem Yields.mono {w : Work α} {P Q : Except Failure α → Books → Prop} (h : w.Yields b P)
    (hPQ : ∀ outcome b', P outcome b' → Q outcome b') : w.Yields b Q :=
  WP.mono h hPQ

theorem Yields.pure {a : α} {Q : Except Failure α → Books → Prop} (h : Q (.ok a) b) :
    Yields (Pure.pure a : Work α) b Q :=
  WP.done trivial h

theorem Yields.throw {f : Failure} {Q : Except Failure α → Books → Prop} (h : Q (.error f) b) :
    Yields (MonadExcept.throw f : Work α) b Q :=
  WP.done trivial h

theorem Yields.bind {w : Work α} {f : α → Work β} {Q : Except Failure β → Books → Prop}
    (hw : w.Yields b fun outcome b' => match outcome with
      | .ok a => (f a).Yields b' Q
      | .error failure => Q (.error failure) b') : Yields (w >>= f) b Q := by
  refine WP.bind hw fun outcome b' h => ?_
  cases outcome with
  | ok a => exact h
  | error failure => exact .done trivial h

/-- A request whose refusal the work looks at. -/
theorem Yields.attempt {r : Request}
    {Q : Except Failure (Except StoreError r.Answer) → Books → Prop}
    (ha : ∀ now a b', b.answer now r = .ok (a, b') → Q (.ok (.ok a)) b')
    (he : ∀ now e, b.answer now r = .error e → Q (.ok (.error e)) b) :
    (Work.attempt r).Yields b Q := by
  refine WP.ask trivial fun reply b' hr => ?_
  cases hr with
  | answers now h => exact .done trivial (ha now _ _ h)
  | refuses now h => exact .done trivial (he now _ h)

/-- A request whose refusal ends the work. -/
theorem Yields.call {r : Request} {Q : Except Failure r.Answer → Books → Prop}
    (ha : ∀ now a b', b.answer now r = .ok (a, b') → Q (.ok a) b')
    (he : ∀ now e, b.answer now r = .error e → Q (.error (.store e)) b) :
    (Work.call r).Yields b Q :=
  Yields.bind (Yields.attempt (fun now a b' h => Yields.pure (ha now a b' h))
    fun now e h => Yields.throw (he now e h))

/-- A request that is answered in one way whatever the clock shows. -/
theorem Yields.answered {r : Request} {a : r.Answer} {b' : Books}
    {Q : Except Failure r.Answer → Books → Prop}
    (hr : ∀ now, b.answer now r = .ok (a, b')) (h : Q (.ok a) b') : (Work.call r).Yields b Q := by
  refine Yields.call (fun now a' b'' h' => ?_) fun now e h' => ?_
  · cases (hr now).symm.trans h'
    exact h
  · cases (hr now).symm.trans h'

/-- A request that does not write and is never refused. -/
theorem Yields.read {r : Request} {a : r.Answer} {Q : Except Failure r.Answer → Books → Prop}
    (hr : ∀ now, b.answer now r = .ok (a, b)) (h : Q (.ok a) b) : (Work.call r).Yields b Q :=
  Yields.answered hr h

theorem Yields.found {e : Error} {x : Option α} {Q : Except Failure α → Books → Prop}
    (ha : ∀ a, x = some a → Q (.ok a) b) (he : x = none → Q (.error (.rule e)) b) :
    (Work.found e x).Yields b Q := by
  cases x with
  | none => exact Yields.throw (he rfl)
  | some a => exact Yields.pure (ha a rfl)

theorem Yields.checked {x : Except Error α} {Q : Except Failure α → Books → Prop}
    (ha : ∀ a, x = .ok a → Q (.ok a) b) (he : ∀ e, x = .error e → Q (.error (.rule e)) b) :
    (Work.checked x).Yields b Q := by
  cases x with
  | error e => exact Yields.throw (he e rfl)
  | ok a => exact Yields.pure (ha a rfl)

/-- A refusal, or what comes after it. -/
theorem Yields.guard {c : Prop} [Decidable c] {e : Error} {next : PUnit → Work α}
    {Q : Except Failure α → Books → Prop} (hc : c → Q (.error (.rule e)) b)
    (hn : ¬ c → (next ⟨⟩).Yields b Q) :
    Yields (if c then Work.refuse e >>= next else next ⟨⟩) b Q := by
  split
  · exact Yields.bind (Yields.throw (hc ‹_›))
  · exact hn ‹_›

end Work

end Scrip
