import Scrip.Proofs.Framework.Wp

/-!
# Dialogues that ask what may be asked

A dialogue whose surroundings answer some questions only (`Dialogue.Lawful`): however they
answer, every question is one that may be asked in its state, and `Q` holds of the outcome and
the last state.

* `Lawful.bind`: one dialogue after another;
* `Follows`: a party that answers such questions as the surroundings may;
* `Lawful.run`, `Lawful.transcript`, `Lawful.visits`: what holds of the outcome, of all answers
  and of all states when the dialogue is held with such a party.
-/

namespace Scrip.Dialogue

variable {Question : Type} {Answer : Question → Type} {α β σ τ : Type}

/-- However the surroundings answer, every question may be asked, and `Q` holds of the outcome
and the last state. -/
inductive Lawful (asks : σ → Question → Prop) (may : Surroundings Question Answer σ) :
    Dialogue Question Answer α → σ → (α → σ → Prop) → Prop
  | done {a : α} {s : σ} {Q : α → σ → Prop} (h : Q a s) : Lawful asks may (done a) s Q
  | ask {q : Question} {next : Answer q → Dialogue Question Answer α} {s : σ} {Q : α → σ → Prop}
      (hq : asks s q) (h : ∀ reply s', may s q reply s' → Lawful asks may (next reply) s' Q) :
      Lawful asks may (ask q next) s Q

variable {asks : σ → Question → Prop} {may : Surroundings Question Answer σ} {s : σ}

theorem Lawful.done_iff {a : α} {Q : α → σ → Prop} :
    Lawful asks may (Dialogue.done a : Dialogue Question Answer α) s Q ↔ Q a s := by
  refine ⟨fun h => ?_, .done⟩
  cases h with
  | done h => exact h

theorem Lawful.ask_iff {q : Question} {next : Answer q → Dialogue Question Answer α}
    {Q : α → σ → Prop} : Lawful asks may (Dialogue.ask q next) s Q ↔
      asks s q ∧ ∀ reply s', may s q reply s' → Lawful asks may (next reply) s' Q := by
  refine ⟨fun h => ?_, fun h => .ask h.1 h.2⟩
  cases h with
  | ask hq h => exact ⟨hq, h⟩

theorem Lawful.mono {d : Dialogue Question Answer α} {P Q : α → σ → Prop}
    (h : Lawful asks may d s P) (hPQ : ∀ a s', P a s' → Q a s') : Lawful asks may d s Q := by
  induction h with
  | done h => exact .done (hPQ _ _ h)
  | ask hq _ ih => exact .ask hq fun reply s' hr => ih reply s' hr hPQ

/-- One dialogue after another. -/
theorem Lawful.bind {d : Dialogue Question Answer α} {f : α → Dialogue Question Answer β}
    {P : α → σ → Prop} {Q : β → σ → Prop} (hd : Lawful asks may d s P)
    (hf : ∀ a s', P a s' → Lawful asks may (f a) s' Q) : Lawful asks may (d >>= f) s Q := by
  induction hd with
  | done h => exact hf _ _ h
  | ask hq _ ih => exact .ask hq fun reply s' hr => ih reply s' hr hf

/-- What holds however they answer holds here too. -/
theorem Lawful.and_wp {I : σ → Prop} {d : Dialogue Question Answer α} {P G : α → σ → Prop}
    (h : Lawful asks may d s P) (hg : WP may I d s G) :
    Lawful asks may d s fun a s' => P a s' ∧ G a s' := by
  induction h with
  | done h => exact .done ⟨h, (WP.done_iff.mp hg).2⟩
  | ask hq _ ih =>
    exact .ask hq fun reply s' hr => ih reply s' hr ((WP.ask_iff.mp hg).2 reply s' hr)

/-! ## With a party -/

/-- The party answers what may be asked as the surroundings may; `R` tells its states apart as
theirs. -/
def Follows (asks : σ → Question → Prop) (may : Surroundings Question Answer σ)
    (party : Party Question Answer τ) (R : τ → σ → Prop) : Prop :=
  ∀ q t s, R t s → asks s q → ∃ s', may s q (party q t).1 s' ∧ R (party q t).2 s'

/-- Every question of a dialogue with a party, with its answer. -/
def transcript (party : Party Question Answer τ) :
    Dialogue Question Answer α → τ → List (Σ q, Answer q)
  | done _, _ => []
  | ask q next, t => ⟨q, (party q t).1⟩ :: (next (party q t).1).transcript party (party q t).2

variable {party : Party Question Answer τ} {R : τ → σ → Prop} {t : τ}
  {d : Dialogue Question Answer α} {Q : α → σ → Prop}

/-- The outcome, and the state in which the party is left. -/
theorem Lawful.run (hp : Follows asks may party R) (h : Lawful asks may d s Q) (hR : R t s) :
    ∃ s', R (d.run party t).2 s' ∧ Q (d.run party t).1 s' := by
  induction h generalizing t with
  | done h => exact ⟨_, hR, h⟩
  | ask hq _ ih =>
    obtain ⟨s', hr, hR'⟩ := hp _ t _ hR hq
    exact ih _ s' hr hR'

/-- Every question is one that may be asked, with an answer that it may get. -/
theorem Lawful.transcript (hp : Follows asks may party R) (h : Lawful asks may d s Q)
    (hR : R t s) :
    ∀ x ∈ d.transcript party t, ∃ s s', asks s x.1 ∧ may s x.1 x.2 s' := by
  induction h generalizing t with
  | done h => exact fun x hx => by cases hx
  | ask hq _ ih =>
    obtain ⟨s', hr, hR'⟩ := hp _ t _ hR hq
    intro x hx
    rcases List.mem_cons.mp hx with rfl | hx
    · exact ⟨_, s', hq, hr⟩
    · exact ih _ s' hr hR' x hx

/-- What holds in the end holds all the way, if no answer makes it true. -/
theorem Lawful.visits (hp : Follows asks may party R) {J : σ → Prop}
    (back : ∀ s q reply s', asks s q → may s q reply s' → J s' → J s) (hQ : ∀ a s', Q a s' → J s')
    (h : Lawful asks may d s Q) (hR : R t s) :
    J s ∧ ∀ t' ∈ d.visits party t, ∃ s', R t' s' ∧ J s' := by
  induction h generalizing t with
  | done h =>
    refine ⟨hQ _ _ h, fun t' ht' => ?_⟩
    rw [Dialogue.visits, List.mem_singleton] at ht'
    exact ⟨_, ht' ▸ hR, hQ _ _ h⟩
  | ask hq _ ih =>
    obtain ⟨s', hr, hR'⟩ := hp _ t _ hR hq
    obtain ⟨hJ', hv⟩ := ih _ s' hr hQ hR'
    have hJ := back _ _ _ _ hq hr hJ'
    refine ⟨hJ, fun t' ht' => ?_⟩
    rcases List.mem_cons.mp ht' with rfl | ht'
    · exact ⟨_, hR, hJ⟩
    · exact hv t' ht'

end Scrip.Dialogue
