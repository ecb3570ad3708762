import Scrip.Proofs.Framework.Leads
import Scrip.Proofs.Framework.Ruled
import Scrip.Proofs.Store.Image

/-!
# Operations that have a store for themselves

How an operation ends on a store that nobody else uses meanwhile, and what is committed then, to
the reading of the clock (`Keeper.alone`).

* `Keeper.Does`: what work does to the copy of the open unit, with rules for its steps;
* `Keeper.Ends`: how an operation ends, with rules for a unit and for one operation after another;
* `Backend.keeper_ok`, `Backend.keeper_conflict`: what the stores answer alike.
-/

namespace Scrip

variable {σ α β : Type}

/-- How an operation ends on a store that nobody else uses meanwhile, and what is committed
then. -/
def Keeper.alone (keeper : Keeper σ) (clock : Nat → Instant) (x : σ) (d : Exchange α) : α × σ :=
  let ended := d.run (Storage.clocked keeper clock) ({ committed := x, now := clock 0 }, 0)
  (ended.1, ended.2.1.committed)

/-- Work on a copy, after so many readings of the clock, comes to an outcome, a copy and a number of
readings. -/
def Keeper.Does (keeper : Keeper σ) (clock : Nat → Instant) (w : Work α) (x : σ) (n : Nat)
    (outcome : Except Failure α) (x' : σ) (n' : Nat) : Prop :=
  ∀ s : Storage σ, s.working = some x → ∃ now,
    w.exchange.run (Storage.clocked keeper clock) (s, n) =
      (outcome, { s with working := some x', now }, n')

/-- An operation on what is committed, after so many readings of the clock, comes to an outcome, to
what is committed then and to a number of readings. -/
def Keeper.Ends (keeper : Keeper σ) (clock : Nat → Instant) (d : Exchange α) (x : σ) (n : Nat)
    (a : α) (x' : σ) (n' : Nat) : Prop :=
  ∀ now, ∃ now', d.run (Storage.clocked keeper clock) ({ committed := x, now }, n) =
    (a, { committed := x', now := now' }, n')

variable {keeper : Keeper σ} {clock : Nat → Instant} {x x' x'' : σ} {n n' n'' : Nat}

/-! ## Work -/

namespace Keeper.Does

theorem pure (a : α) : keeper.Does clock (Pure.pure a) x n (.ok a) x n := by
  rintro ⟨committed, _, now⟩ rfl
  exact ⟨now, rfl⟩

theorem throw (failure : Failure) :
    keeper.Does clock (MonadExcept.throw failure : Work α) x n (.error failure) x n := by
  rintro ⟨committed, _, now⟩ rfl
  exact ⟨now, rfl⟩

theorem bind {w : Work α} {f : α → Work β} {a : α} {outcome : Except Failure β}
    (hw : keeper.Does clock w x n (.ok a) x' n')
    (hf : keeper.Does clock (f a) x' n' outcome x'' n'') :
    keeper.Does clock (w >>= f) x n outcome x'' n'' := by
  intro s hs
  obtain ⟨now, first⟩ := hw s hs
  obtain ⟨now', second⟩ := hf { s with working := some x', now } rfl
  refine ⟨now', ?_⟩
  rw [Work.exchange_bind, Dialogue.run_bind, first]
  exact second

/-- The number of readings after a request. -/
def readings (r : Request) (n : Nat) : Nat :=
  if r.isDated then n + 1 else n

theorem attempt {r : Request} {a : r.Answer} (h : keeper (clock n) x r = .ok (a, x')) :
    keeper.Does clock (Work.attempt r) x n (.ok (.ok a)) x' (readings r n) := by
  rintro ⟨committed, _, now⟩ rfl
  refine ⟨{ clock n with seconds := (clock n).seconds + 1 }, ?_⟩
  simp only [Work.attempt, Work.exchange, ExceptT.run_mk, Dialogue.embed, Dialogue.run_ask,
    Storage.clocked, Storage.party, Storage.request, h, Work.ofReply, Dialogue.run_done]
  rfl

theorem attempt_refused {r : Request} {e : StoreError} (h : keeper (clock n) x r = .error e) :
    keeper.Does clock (Work.attempt r) x n (.ok (.error e)) x (readings r n) := by
  rintro ⟨committed, _, now⟩ rfl
  refine ⟨{ clock n with seconds := (clock n).seconds + 1 }, ?_⟩
  simp only [Work.attempt, Work.exchange, ExceptT.run_mk, Dialogue.embed, Dialogue.run_ask,
    Storage.clocked, Storage.party, Storage.request, h, Work.ofReply, Dialogue.run_done]
  rfl

theorem call {r : Request} {a : r.Answer} (h : keeper (clock n) x r = .ok (a, x')) :
    keeper.Does clock (Work.call r) x n (.ok a) x' (readings r n) :=
  (attempt h).bind (.pure a)

end Keeper.Does

/-! ## Operations -/

namespace Keeper.Ends

theorem alone {d : Exchange α} {a : α} (h : keeper.Ends clock d x 0 a x' n') :
    keeper.alone clock x d = (a, x') := by
  obtain ⟨now, ended⟩ := h (clock 0)
  rw [Keeper.alone, ended]

theorem done (a : α) : keeper.Ends clock (.done a) x n a x n :=
  fun now => ⟨now, rfl⟩

theorem bind {d : Exchange α} {f : α → Exchange β} {a : α} {b : β}
    (hd : keeper.Ends clock d x n a x' n') (hf : keeper.Ends clock (f a) x' n' b x'' n'') :
    keeper.Ends clock (d >>= f) x n b x'' n'' := by
  intro now
  obtain ⟨now', first⟩ := hd now
  obtain ⟨now'', second⟩ := hf now'
  refine ⟨now'', ?_⟩
  rw [Dialogue.run_bind, first]
  exact second

/-- A unit that is opened, and ended when its work is. -/
theorem inUnit_eq {op : Operation} {limit : Option Nat} {w : Work α}
    {outcome : Except Failure α} (hw : keeper.Does clock w x n outcome x' n') (now : Instant) :
    ∃ now', (inUnit op limit w).run (Storage.clocked keeper clock) ({ committed := x, now }, n) =
      (settle op outcome).run (Storage.clocked keeper clock)
        ({ committed := x, working := some x', now := now' }, n') := by
  let opened : Storage σ := ({ committed := x, working := some x, now := clock n } : Storage σ).tick
  obtain ⟨now', worked⟩ := hw opened rfl
  refine ⟨now', ?_⟩
  show ((w.exchange >>= settle op).run (Storage.clocked keeper clock) (opened, n)) = _
  rw [Dialogue.run_bind, worked]
  rfl

/-- A unit of which the work has a value is committed. -/
theorem unit_ok {op : Operation} {limit : Option Nat} {w : Work α} {a : α}
    (hw : keeper.Does clock w x n (.ok a) x' n') :
    keeper.Ends clock (inUnit op limit w) x n (.ok a) x' n' := by
  intro now
  obtain ⟨now', ended⟩ := inUnit_eq hw now
  exact ⟨clock n', ended⟩

/-- A unit of which the work is refused leaves what is committed. -/
theorem unit_refused {op : Operation} {limit : Option Nat} {w : Work α} {e : Error}
    (hw : keeper.Does clock w x n (.error (.rule e)) x' n') :
    keeper.Ends clock (inUnit op limit w) x n (.error e) x n' := by
  intro now
  obtain ⟨now', ended⟩ := inUnit_eq hw now
  exact ⟨clock n', ended⟩

end Keeper.Ends

/-! ## What the stores answer alike -/

namespace Backend

variable {b b' : Books} {r : Request}

theorem keeper_ok (h : b.Storable) (hr : b.Respects r) (hl : ¬ r.Lists) {now : Instant}
    {a : r.Answer} (ha : b.answer now.shown r = .ok (a, b')) (k : Backend)
    (applied : Option (Table String)) :
    k.keeper now (k.hold applied b) r = .ok (a, k.hold applied b') := by
  cases k with
  | memory => exact ha
  | tables =>
    have alike := Books.answer_tables applied h hr now.shown
    rw [ha] at alike
    generalize ht : (b.tables applied).answer now.shown r = y at alike
    cases alike with
    | answers same =>
      cases same.eq hl
      exact ht

/-- Both find a name taken if one does. -/
theorem keeper_conflict (h : b.Storable) (hr : b.Respects r) {now : Instant} {detail : String}
    (ha : b.answer now.shown r = .error (.conflict detail)) (k : Backend)
    (applied : Option (Table String)) :
    ∃ detail, k.keeper now (k.hold applied b) r = .error (.conflict detail) := by
  cases k with
  | memory => exact ⟨detail, ha⟩
  | tables =>
    have alike := Books.answer_tables applied h hr now.shown
    rw [ha] at alike
    generalize ht : (b.tables applied).answer now.shown r = y at alike
    cases alike with
    | conflicts _ t => exact ⟨t, ht⟩

end Backend

end Scrip
