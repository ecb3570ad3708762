import Scrip.Dialogue

/-!
# Weakest preconditions of dialogues

A dialogue whose surroundings may answer a question in more than one way
(`Surroundings`). `Dialogue.WP` says what holds however they answer: `I` of every
state on the way, and `Q` of the outcome and the last state.

* `WP.bind_iff`: one dialogue after another;
* `WP.run`, `WP.visits`: a party that answers as the surroundings may takes
  the dialogue to an outcome that satisfies `Q`, through states that satisfy `I`.
-/

namespace Scrip.Dialogue

variable {Question : Type} {Answer : Question → Type} {α β σ τ : Type}

/-- The answers that a question may get in a state, each with the state it leaves. -/
abbrev Surroundings (Question : Type) (Answer : Question → Type) (σ : Type) :=
  σ → (q : Question) → Answer q → σ → Prop

/-- However the surroundings answer, `I` holds of every state on the way, and `Q` of
the outcome and the last state. -/
inductive WP (may : Surroundings Question Answer σ) (I : σ → Prop) :
    Dialogue Question Answer α → σ → (α → σ → Prop) → Prop
  | done {a : α} {s : σ} {Q : α → σ → Prop} (hI : I s) (h : Q a s) : WP may I (done a) s Q
  | ask {q : Question} {next : Answer q → Dialogue Question Answer α} {s : σ} {Q : α → σ → Prop}
      (hI : I s) (h : ∀ reply s', may s q reply s' → WP may I (next reply) s' Q) :
      WP may I (ask q next) s Q

variable {may : Surroundings Question Answer σ} {I : σ → Prop} {s : σ}

theorem WP.done_iff {a : α} {Q : α → σ → Prop} :
    WP may I (Dialogue.done a : Dialogue Question Answer α) s Q ↔ I s ∧ Q a s := by
  refine ⟨fun h => ?_, fun h => .done h.1 h.2⟩
  cases h with
  | done hI h => exact ⟨hI, h⟩

theorem WP.ask_iff {q : Question} {next : Answer q → Dialogue Question Answer α}
    {Q : α → σ → Prop} : WP may I (Dialogue.ask q next) s Q ↔
      I s ∧ ∀ reply s', may s q reply s' → WP may I (next reply) s' Q := by
  refine ⟨fun h => ?_, fun h => .ask h.1 h.2⟩
  cases h with
  | ask hI h => exact ⟨hI, h⟩

/-- What holds at the beginning. -/
theorem WP.here {d : Dialogue Question Answer α} {Q : α → σ → Prop} (h : WP may I d s Q) : I s := by
  cases h with
  | done hI => exact hI
  | ask hI => exact hI

theorem WP.mono {d : Dialogue Question Answer α} {P Q : α → σ → Prop} (h : WP may I d s P)
    (hPQ : ∀ a s', P a s' → Q a s') : WP may I d s Q := by
  induction h with
  | done hI h => exact .done hI (hPQ _ _ h)
  | ask hI _ ih => exact .ask hI fun reply s' hr => ih reply s' hr hPQ

/-- What holds of every state holds of the last one. -/
theorem WP.there {d : Dialogue Question Answer α} {Q : α → σ → Prop} (h : WP may I d s Q) :
    WP may I d s fun a s' => I s' ∧ Q a s' := by
  induction h with
  | done hI h => exact .done hI ⟨hI, h⟩
  | ask hI _ ih => exact .ask hI ih

/-- One dialogue after another. -/
theorem WP.bind_iff {d : Dialogue Question Answer α} {f : α → Dialogue Question Answer β}
    {Q : β → σ → Prop} :
    WP may I (d >>= f) s Q ↔ WP may I d s fun a s' => WP may I (f a) s' Q := by
  induction d generalizing s with
  | done a => exact ⟨fun h => WP.done h.here h, fun h => (WP.done_iff.mp h).2⟩
  | ask q next ih =>
    simp only [ask_bind, WP.ask_iff, ih]

theorem WP.bind {d : Dialogue Question Answer α} {f : α → Dialogue Question Answer β}
    {P : α → σ → Prop} {Q : β → σ → Prop} (hd : WP may I d s P)
    (hf : ∀ a s', P a s' → WP may I (f a) s' Q) : WP may I (d >>= f) s Q :=
  WP.bind_iff.mpr (hd.mono hf)

/-- Every state of a dialogue with a party, the first and the last included. -/
def visits (party : Party Question Answer τ) : Dialogue Question Answer α → τ → List τ
  | done _, t => [t]
  | ask q next, t => t :: (next (party q t).1).visits party (party q t).2

/-- A party whose answers the surroundings may give, on the part `v` of its state, brings
the dialogue to an outcome that satisfies `Q`. -/
theorem WP.run {party : Party Question Answer τ} {v : τ → σ}
    (hp : ∀ q t, may (v t) q (party q t).1 (v (party q t).2))
    {d : Dialogue Question Answer α} {t : τ} {Q : α → σ → Prop} (h : WP may I d (v t) Q) :
    Q (d.run party t).1 (v (d.run party t).2) := by
  induction d generalizing t with
  | done a => exact (WP.done_iff.mp h).2
  | ask q next ih => exact ih _ ((WP.ask_iff.mp h).2 _ _ (hp q t))

/-- Such a party passes through states that satisfy `I` only. -/
theorem WP.visits {party : Party Question Answer τ} {v : τ → σ}
    (hp : ∀ q t, may (v t) q (party q t).1 (v (party q t).2))
    {d : Dialogue Question Answer α} {t : τ} {Q : α → σ → Prop} (h : WP may I d (v t) Q) :
    ∀ t' ∈ d.visits party t, I (v t') := by
  induction d generalizing t with
  | done a =>
    simp only [Dialogue.visits, List.mem_singleton, forall_eq]
    exact h.here
  | ask q next ih =>
    simp only [Dialogue.visits, List.mem_cons, forall_eq_or_imp]
    exact ⟨h.here, ih _ ((WP.ask_iff.mp h).2 _ _ (hp q t))⟩

end Scrip.Dialogue
