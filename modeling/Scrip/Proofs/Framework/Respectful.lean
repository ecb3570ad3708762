import Scrip.Proofs.Framework.Lawful
import Scrip.Proofs.Framework.Proper
import Scrip.Proofs.Store.Storable

/-!
# Work that respects the constraints

Work of which every request respects the constraints, also after requests that failed or wrongly
found nothing (`Work.Respectful`).

* `Respectful.of_proper`: work whose requests always do;
* `Respectful.bind`: what the first part gives is known to the second.
-/

namespace Scrip

open Dialogue (Lawful WP)

/-- A request that does not write respects the constraints. -/
theorem Books.respects_of_read {r : Request} (hr : r.isWrite = false) (b : Books) :
    b.Respects r := by
  cases r <;> trivial

namespace Work

variable {α β : Type} {b : Books}

/-- Whatever the books reply, every request of the work respects the constraints. -/
def Respectful (w : Work α) (b : Books) : Prop :=
  Lawful Books.Respects Books.Replies w.run b fun _ _ => True

theorem Respectful.of_proper {asks : Request → Prop} {w : Work α} (h : Proper asks w.run)
    (hr : ∀ r, asks r → ∀ b : Books, b.Respects r) (b : Books) : w.Respectful b := by
  show Lawful _ _ w.run b _
  generalize w.run = d at h
  induction h generalizing b with
  | value | failure => exact .done trivial
  | ask hq stops _ ih =>
    refine .ask (hr _ hq b) fun reply b' _ => ?_
    by_cases he : reply = .error .expired
    · rw [he, stops]
      exact .done trivial
    · exact ih reply he b'

theorem OnlyReads.respectful {w : Work α} (h : w.OnlyReads) (b : Books) : w.Respectful b :=
  .of_proper h (fun _ => Books.respects_of_read) b

/-- One piece of work after another, which knows what the first one gives. -/
theorem Respectful.bind {w : Work α} {f : α → Work β} {P : α → Books → Prop}
    (hw : w.Respectful b) (hg : w.Gives b P) (hf : ∀ a b', P a b' → (f a).Respectful b') :
    Respectful (w >>= f) b := by
  refine Lawful.bind (hw.and_wp hg) fun outcome b' ⟨_, hP⟩ => ?_
  cases outcome with
  | ok a => exact hf a b' (hP a rfl)
  | error failure => exact .done trivial

/-- A request, and what comes after its answer. -/
theorem Respectful.call {r : Request} {f : r.Answer → Work α} (hr : b.Respects r)
    (hf : ∀ a b', b.Replies r (.ok a) b' → (f a).Respectful b') :
    Respectful (Work.call r >>= f) b := by
  refine Lawful.ask hr fun reply b' hreply => ?_
  match reply, hreply with
  | .ok a, hreply => exact hf a b' hreply
  | .error (.failed _), _ | .error .expired, _ => exact .done trivial

/-- A request that nothing comes after. -/
theorem Respectful.last {r : Request} (hr : b.Respects r) : (Work.call r).Respectful b := by
  refine Lawful.ask hr fun reply b' _ => ?_
  match reply with
  | .ok _ | .error (.failed _) | .error .expired => exact .done trivial

/-- A search, and what comes after it when something is found. -/
theorem Respectful.lookup {r : Request} {x : r.Answer → Option α} {e : Error} {f : α → Work β}
    (hr : b.Respects r) (hf : ∀ a y b', b.Replies r (.ok y) b' → x y = some a →
      (f a).Respectful b') :
    Respectful (Work.call r >>= fun y => Work.found e (x y) >>= f) b := by
  refine Respectful.call hr fun y b' hy => ?_
  cases hx : x y with
  | none => exact .done trivial
  | some a => exact hf a y b' hy hx

/-- A rule, and what comes after it when it gives a value. -/
theorem Respectful.checked {x : Except Error α} {f : α → Work β}
    (hf : ∀ a, x = .ok a → (f a).Respectful b) : Respectful (Work.checked x >>= f) b := by
  cases x with
  | error e => exact .done trivial
  | ok a => exact hf a rfl

/-- A refusal, and what comes after it when there is no reason to refuse. -/
theorem Respectful.guard {c : Prop} [Decidable c] {e : Error} {next : PUnit → Work α}
    (h : ¬ c → (next ⟨⟩).Respectful b) :
    Respectful (if c then Work.refuse e >>= next else next ⟨⟩) b := by
  split
  · exact .done trivial
  · exact h ‹_›

/-- A change, and what comes after it when it is said to be done. -/
theorem Respectful.insist {r : Request} {done : r.Answer → Bool} {e : Error}
    {next : PUnit → Work α} (hr : b.Respects r)
    (hn : ∀ y b', b.Replies r (.ok y) b' → done y = true → (next ⟨⟩).Respectful b') :
    Respectful (Work.call r >>= fun y => if !done y then Work.refuse e >>= next else next ⟨⟩) b :=
  Respectful.call hr fun y b' hy => Respectful.guard fun hd => hn y b' hy (by simpa using hd)

end Work

end Scrip
