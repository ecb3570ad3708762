import Scrip.Engine.Basic
import Scrip.Proofs.Concurrency.Serial
import Scrip.Proofs.Framework.Answers

/-!
# The episodes of an operation

An operation that begins with a unit (`inUnit`) goes on with what came of it. When nobody
gives up, the work of the unit says how it ends and how the client goes on
(`Episode.Alone.of_yields`), and there is such an episode from any books (`exists_episode`).
-/

namespace Scrip

open Dialogue (WP)

variable {ι σ α β : Type}

/-- The dialogue goes on with something else than a request. -/
def Exchange.Settles (d : Exchange α) : Prop :=
  ∀ r next, d ≠ .ask (.within r) next

theorem requests_settles {keeper : Keeper σ} {now : Instant} {clock : List Instant}
    {d : Exchange α} {b : σ} (hd : Exchange.Settles d) :
    requests keeper (now :: clock) d b = none := by
  match d with
  | .done _ | .ask (.begin _) _ | .ask .commit _ | .ask .rollback _ => rfl
  | .ask (.within r) next => exact absurd rfl (hd r next)

/-- The requests of work go on until the work is over. -/
theorem requests_work {w : Dialogue Request Request.Reply α} {k : α → Exchange β}
    {Q : α → Books → Prop} {d : Exchange β} {copy : Books} (hd : Exchange.Settles d)
    (hk : ∀ a b', Q a b' → Exchange.Settles (k a)) :
    ∀ {clock : List Instant} {b : Books}, WP Books.Answers (fun _ => True) w b Q →
      requests Books.answer clock (w.embed Call.within (fun _ reply => reply) >>= k) b =
        some (d, copy) →
      ∃ a, Q a copy ∧ d = k a := by
  induction w with
  | done a =>
    intro clock b hw h
    have hQ := (WP.done_iff.mp hw).2
    cases clock with
    | nil =>
      obtain ⟨rfl, rfl⟩ := Prod.mk.inj (Option.some.inj h)
      exact ⟨a, hQ, rfl⟩
    | cons now clock =>
      have hnone : requests Books.answer (now :: clock) (k a) b = none :=
        requests_settles (hk a b hQ)
      cases hnone.symm.trans h
  | ask r next ih =>
    intro clock b hw h
    cases clock with
    | nil =>
      cases h
      exact absurd rfl (hd _ _)
    | cons now clock =>
      simp only [Dialogue.embed, Dialogue.ask_bind, requests] at h
      split at h
      · rename_i a b' ha
        exact ih _ ((WP.ask_iff.mp hw).2 _ _ (.answers now ha)) h
      · rename_i e he
        exact ih _ ((WP.ask_iff.mp hw).2 _ _ (.refuses now he)) h

/-- The requests of work can be carried out. -/
theorem exists_requests (k : α → Exchange β) {Q : α → Books → Prop} :
    ∀ {w : Dialogue Request Request.Reply α} {b : Books}, WP Books.Answers (fun _ => True) w b Q →
      ∃ clock a copy, Q a copy ∧
        requests Books.answer clock (w.embed Call.within (fun _ reply => reply) >>= k) b =
          some (k a, copy)
  | .done a, b, hw => ⟨[], a, b, (WP.done_iff.mp hw).2, rfl⟩
  | .ask r next, b, hw => by
    have hnext := (WP.ask_iff.mp hw).2
    cases ha : b.answer default r with
    | ok x =>
      obtain ⟨clock, a, copy, hQ, h⟩ := exists_requests k (hnext _ _ (.answers default ha))
      refine ⟨default :: clock, a, copy, hQ, ?_⟩
      simp only [Dialogue.embed, Dialogue.ask_bind, requests, ha, h]
    | error e =>
      obtain ⟨clock, a, copy, hQ, h⟩ := exists_requests k (hnext _ _ (.refuses default ha))
      refine ⟨default :: clock, a, copy, hQ, ?_⟩
      simp only [Dialogue.embed, Dialogue.ask_bind, requests, ha, h]

section Unit

variable {op : Operation} {limit : Option Nat} {w : Work α} {k : Except Error α → Exchange β}
  {Q : Except Failure α → Books → Prop} {b b' : Books}

/-- Work that did not run out of time goes on to the end of its unit. -/
theorem settles_settle {outcome : Except Failure α} (h : outcome ≠ .error .expired) :
    Exchange.Settles (settle op outcome >>= k) := by
  intro r next he
  match outcome, h, he with
  | .error .expired, h, _ => exact h rfl
  | .ok _, _, he => cases he
  | .error (.rule _), _, he => cases he
  | .error (.store _), _, he => cases he

theorem inUnit_bind : inUnit op limit w >>= k =
    .ask (.begin limit) fun
      | .ok () => w.exchange >>= fun outcome => settle op outcome >>= k
      | .error (.failed e) => k (.error (Failure.toError op (.store e)))
      | .error .expired => k (.error (Failure.toError op .expired)) := by
  unfold inUnit
  rw [Dialogue.ask_bind]
  congr 1
  funext reply
  match reply with
  | .ok () => exact Dialogue.bind_assoc _ _ _
  | .error (.failed e) => rfl
  | .error .expired => rfl

/-- A unit that nobody gives up ends with the value of the work, and the books are as the work
left them, or with its failure, and they are as they were. -/
theorem Episode.Alone.of_yields {x : Episode ι β} (h : x.Alone Books.answer b b')
    (he : x.ending ≠ .abandoned) (ho : x.opening = inUnit op limit w >>= k) (hw : w.Yields b Q)
    (hq : ∀ copy, ¬ Q (.error .expired) copy) :
    (∃ a, Q (.ok a) b' ∧ x.closing = some (k (.ok a))) ∨
      ∃ failure copy, Q (.error failure) copy ∧
        x.closing = some (k (.error (failure.toError op))) ∧ b' = b := by
  have settles (outcome : Except Failure α) (copy : Books) (hQ : Q outcome copy) :
      Exchange.Settles (settle op outcome >>= k) :=
    settles_settle fun hx => hq copy (hx ▸ hQ)
  rw [inUnit_bind] at ho
  cases h with
  | commits h =>
    cases ho
    obtain ⟨outcome, hQ, heq⟩ := requests_work (by intro r next h; cases h) settles hw h
    match outcome, hQ, heq with
    | .ok a, hQ, heq =>
      cases heq
      exact .inl ⟨a, hQ, rfl⟩
    | .error .expired, hQ, _ => exact absurd hQ (hq _)
  | rollsBack h =>
    cases ho
    obtain ⟨outcome, hQ, heq⟩ := requests_work (by intro r next h; cases h) settles hw h
    match outcome, hQ, heq with
    | .error (.rule e), hQ, heq =>
      cases heq
      exact .inr ⟨.rule e, _, hQ, rfl, rfl⟩
    | .error (.store e), hQ, heq =>
      cases heq
      exact .inr ⟨.store e, _, hQ, rfl, rfl⟩
    | .error .expired, hQ, _ => exact absurd hQ (hq _)
  | expires | leaves => exact absurd rfl he

/-- A client that goes on with a unit can carry it out. -/
theorem exists_episode (i : ι) (hw : w.Yields b Q) (hq : ∀ copy, ¬ Q (.error .expired) copy) :
    ∃ (x : Episode ι β) (b' : Books), x.client = i ∧ x.opening = inUnit op limit w >>= k ∧
      x.ending ≠ .abandoned ∧ x.Alone Books.answer b b' := by
  obtain ⟨clock, outcome, copy, hQ, h⟩ :=
    exists_requests (fun outcome => settle op outcome >>= k) hw
  rw [inUnit_bind]
  match outcome, hQ, h with
  | .ok a, _, h =>
    exact ⟨⟨i, _, clock, .committed, _⟩, copy, rfl, rfl, nofun, .commits h⟩
  | .error (.rule e), _, h =>
    exact ⟨⟨i, _, clock, .rolledBack, _⟩, b, rfl, rfl, nofun, .rollsBack h⟩
  | .error (.store e), _, h =>
    exact ⟨⟨i, _, clock, .rolledBack, _⟩, b, rfl, rfl, nofun, .rollsBack h⟩
  | .error .expired, hQ, _ => exact absurd hQ (hq _)

end Unit

end Scrip
