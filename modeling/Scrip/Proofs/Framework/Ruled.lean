import Scrip.Proofs.Framework.Answers
import Scrip.Proofs.Store.Backend

/-!
# Work that a rule may refuse

What work comes to on books that do not fail (`Work.Yields`), when it looks before it writes: it
ends with a value or because a rule refuses it (`Work.Rules`), and in a unit of its own it is
committed or leaves the books as they were.

* `Sees.lookup`: a search, and what comes after it;
* `unit_failed`: a unit that fails leaves what is committed;
* `Rules.run_unit`: a unit on books in memory that nobody else is at.
-/

namespace Scrip

open Dialogue (WP)

namespace Work

variable {α β : Type} {b : Books}

/-- The work finds `x` and changes nothing. -/
def Sees (w : Work α) (b : Books) (x : α) : Prop :=
  w.Yields b fun outcome b' => outcome = .ok x ∧ b' = b

theorem Sees.bind {w : Work α} {x : α} {f : α → Work β} {Q : Except Failure β → Books → Prop}
    (hw : w.Sees b x) (hf : (f x).Yields b Q) : Yields (w >>= f) b Q := by
  refine Yields.bind (hw.mono fun outcome b' h => ?_)
  obtain ⟨rfl, rfl⟩ := h
  exact hf

/-- A search, and what comes after it. -/
theorem Sees.lookup {w : Work (Option α)} {x : Option α} {e : Error} {f : α → Work β}
    {Q : Except Failure β → Books → Prop} (hw : w.Sees b x)
    (hf : ∀ a, x = some a → (f a).Yields b Q) (he : x = none → Q (.error (.rule e)) b) :
    Yields (w >>= fun x => Work.found e x >>= f) b Q :=
  hw.bind (Yields.bind (Yields.found hf he))

/-- The work ends with a value or because a rule refuses it, and `Q` holds of that. -/
def Rules (w : Work α) (b : Books) (Q : Except Error α → Books → Prop) : Prop :=
  w.Yields b fun outcome b' => ∃ o, outcome = o.mapError .rule ∧ Q o b'

end Work

/-! ## What is committed -/

section Committed

variable {σ α : Type} (keeper : Keeper σ) (clock : Nat → Instant) (t : Storage σ × Nat)

/-- Work changes nothing that is committed. -/
theorem Work.run_committed (w : Work α) :
    (w.exchange.run (Storage.clocked keeper clock) t).2.1.committed = t.1.committed := by
  unfold Work.exchange
  generalize w.run = d
  induction d generalizing t with
  | done a => rfl
  | ask r next ih =>
    refine (ih _ _).trans ?_
    simp only [Storage.clocked, Storage.party, Storage.request]
    split
    · rfl
    · split <;> rfl

/-- The end of a unit changes what is committed only if it tells a value. -/
theorem settle_failed (op : Operation) (outcome : Except Failure α) {e : Error}
    (h : ((settle op outcome).run (Storage.clocked keeper clock) t).1 = .error e) :
    ((settle op outcome).run (Storage.clocked keeper clock) t).2.1.committed =
      t.1.committed := by
  obtain ⟨⟨committed, working, now⟩, n⟩ := t
  match outcome with
  | .ok a =>
    cases working with
    | none => rfl
    | some copy => cases h
  | .error .expired | .error (.rule _) | .error (.store _) => rfl

/-- A unit that does not end with a value leaves what is committed as it was. -/
theorem unit_failed (op : Operation) (limit : Option Nat) {w : Work α} {e : Error}
    (h : ((inUnit op limit w).run (Storage.clocked keeper clock) t).1 = .error e) :
    ((inUnit op limit w).run (Storage.clocked keeper clock) t).2.1.committed =
      t.1.committed := by
  obtain ⟨⟨committed, working, now⟩, n⟩ := t
  cases working with
  | some copy => rfl
  | none =>
    simp only [inUnit, Dialogue.run_ask, Storage.clocked, Storage.party, Dialogue.run_bind] at h ⊢
    exact (settle_failed keeper clock _ op _ h).trans (Work.run_committed keeper clock _ w)

/-- A unit ends when its work does: with the copy committed after a value, and without after a
refusal. -/
theorem run_settle {x : σ} (op : Operation) (o : Except Error α) (ht : t.1.working = some x) :
    let ended := (settle op (o.mapError .rule)).run (Storage.clocked keeper clock) t
    ended.1 = o ∧ ended.2.1.working = none ∧
      ended.2.1.committed = match o with
        | .ok _ => x
        | .error _ => t.1.committed := by
  cases o with
  | error e => exact ⟨rfl, rfl, rfl⟩
  | ok a =>
    simp only [Except.mapError, settle, Dialogue.run_ask, Storage.clocked, Storage.party, ht,
      Dialogue.run_done, and_self]

end Committed

/-! ## Units on books in memory -/

section Run

variable {α : Type} {b : Books} {keeper : Keeper Books} (clock : Nat → Instant)
  {t : Storage Books × Nat} (hk : ∀ now b r, keeper now b r = Books.answer now.shown b r)
include hk

/-- A request inside the open unit is answered from its copy. -/
theorem Storage.clocked_within (ht : t.1.working = some b) (r : Request) :
    let answered := Storage.clocked keeper clock (.within r) t
    ∃ b', b.Answers r answered.1 b' ∧ answered.2.1.working = some b' := by
  intro answered
  simp only [answered, Storage.clocked, Storage.party, Storage.request, ht, hk]
  cases ha : b.answer (clock t.2).shown r with
  | ok x => exact ⟨x.2, .answers _ ha, rfl⟩
  | error failure => exact ⟨b, .refuses _ ha, rfl⟩

/-- The requests of an open unit change its copy. -/
theorem Work.run_within {w : Work α} {Q : Except Failure α → Books → Prop} (hw : w.Yields b Q)
    (ht : t.1.working = some b) :
    let ended := w.exchange.run (Storage.clocked keeper clock) t
    ∃ b', ended.2.1.working = some b' ∧ Q ended.1 b' := by
  unfold Work.exchange
  unfold Work.Yields at hw
  generalize w.run = d at hw
  induction d generalizing b t with
  | done a => exact ⟨b, ht, (WP.done_iff.mp hw).2⟩
  | ask r next ih =>
    obtain ⟨b₁, answered, working⟩ := Storage.clocked_within clock hk ht r
    exact ih _ working ((WP.ask_iff.mp hw).2 _ _ answered)

/-- A unit of work that a rule may refuse, if at all, before it changed anything. -/
theorem Work.Rules.run_unit {w : Work α} {Q : Except Error α → Books → Prop} (hw : w.Rules b Q)
    (refused : ∀ e b', Q (.error e) b' → b' = b) (op : Operation) (limit : Option Nat)
    (hc : t.1.committed = b) (hn : t.1.working = none) :
    let ended := (inUnit op limit w).run (Storage.clocked keeper clock) t
    ended.2.1.working = none ∧ Q ended.1 ended.2.1.committed := by
  subst hc
  let opened : Storage Books × Nat :=
    (({ t.1 with working := some t.1.committed, now := clock t.2 } : Storage Books).tick, t.2)
  have begun : Storage.clocked keeper clock (.begin limit) t = (.ok (), opened) := by
    simp only [Storage.clocked, Storage.party, hn]
    rfl
  obtain ⟨b', working, o, ho, hQ⟩ := run_within clock hk hw (t := opened) rfl
  have committed := Work.run_committed keeper clock opened w
  obtain ⟨told, left, books⟩ := run_settle keeper clock _ op o working
  simp only [inUnit, Dialogue.run_ask, begun, Dialogue.run_bind]
  rw [ho, told, books]
  refine ⟨left, ?_⟩
  cases o with
  | ok a => exact hQ
  | error e =>
    obtain rfl := refused e b' hQ
    exact (congrArg (Q (.error e)) committed).mpr hQ

end Run

end Scrip
