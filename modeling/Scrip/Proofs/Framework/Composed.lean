import Scrip.Proofs.Framework.Proper

/-!
# Operations that consist of units

An operation is units of work one after another, all under one limit (`Exchange.Composed`). It is
over when a deadline passes. Its units only read, but for one after whose value it is over.

* `Composed.single`: a unit by itself;
* `Composed.bind`, `Composed.map`: what comes after an operation.
-/

namespace Scrip.Exchange

variable {α β : Type}

/-- An operation that consists of units under one limit, which is over when a deadline passes, and
whose units only read, but for the one after whose value it is over. -/
inductive Composed (limit : Option Nat) (part : (β : Type) → Work β → Prop) :
    Exchange (Except Error α) → Prop
  | done {outcome : Except Error α} (timely : ∀ label, outcome ≠ .error (.timeout label)) :
      Composed limit part (.done outcome)
  | unit {β : Type} (op : Operation) {w : Work β}
      {f : Except Error β → Exchange (Except Error α)} (hw : part β w)
      (stops : ∀ label, f (.error (.timeout label)) = .done (.error (.timeout label)))
      (last : w.OnlyReads ∨ ∀ a, ∃ a', f (.ok a) = .done (.ok a'))
      (hf : ∀ outcome, (∀ label, outcome ≠ .error (.timeout label)) →
        Composed limit part (f outcome)) :
      Composed limit part (inUnit op limit w >>= f)

namespace Composed

variable {limit : Option Nat} {part : (β : Type) → Work β → Prop}

/-- An outcome is the end of the deadline or not. -/
theorem timely_or (outcome : Except Error α) :
    (∃ label, outcome = .error (.timeout label)) ∨ ∀ label, outcome ≠ .error (.timeout label) := by
  cases outcome with
  | ok a => exact .inr nofun
  | error e =>
    cases e with
    | timeout label => exact .inl ⟨label, rfl⟩
    | _ => exact .inr nofun

theorem error {e : Error} (he : e.isBusiness = true) :
    Composed limit part (.done (.error e) : Exchange (Except Error α)) :=
  .done fun label h => by
    rw [Except.error.inj h] at he
    cases he

theorem mono {part' : (β : Type) → Work β → Prop} {d : Exchange (Except Error α)}
    (hd : d.Composed limit part) (h : ∀ β (w : Work β), part β w → part' β w) :
    d.Composed limit part' := by
  induction hd with
  | done timely => exact .done timely
  | unit op hw stops last _ ih => exact .unit op (h _ _ hw) stops last ih

/-- A unit by itself. -/
theorem single (op : Operation) {w : Work α} (hw : part α w) :
    Composed limit part (inUnit op limit w) := by
  rw [← Dialogue.bind_done (inUnit op limit w)]
  exact .unit op hw (fun _ => rfl) (.inr fun a => ⟨a, rfl⟩) fun _ => .done

/-- An operation that only reads, and what comes after it. -/
theorem bind {d : Exchange (Except Error α)} {f : Except Error α → Exchange (Except Error β)}
    (hd : d.Composed limit fun _ w => w.OnlyReads)
    (stops : ∀ label, f (.error (.timeout label)) = .done (.error (.timeout label)))
    (reads : ∀ γ (w : Work γ), w.OnlyReads → part γ w)
    (hf : ∀ outcome, (∀ label, outcome ≠ .error (.timeout label)) →
      Composed limit part (f outcome)) : Composed limit part (d >>= f) := by
  induction hd with
  | done timely => exact hf _ timely
  | unit op hw hstops _ _ ih =>
    rw [Dialogue.bind_assoc]
    refine .unit op (reads _ _ hw) (fun label => ?_) (.inl hw) ih
    rw [hstops]
    exact stops label

/-- What is done with the value of an operation. -/
theorem map {d : Exchange (Except Error α)} (hd : d.Composed limit part) (f : α → β) :
    Composed limit part (d >>= fun outcome => pure (outcome.map f)) := by
  induction hd with
  | @done outcome timely =>
    refine .done fun label h => ?_
    cases outcome with
    | ok a => cases h
    | error e => exact timely label (congrArg Except.error (Except.error.inj h))
  | unit op hw stops last _ ih =>
    rw [Dialogue.bind_assoc]
    refine .unit op hw (fun label => ?_) (last.imp_right fun h a => ?_) ih
    · rw [stops]
      rfl
    · obtain ⟨a', ha'⟩ := h a
      exact ⟨f a', by rw [ha']; rfl⟩

end Composed

end Scrip.Exchange
