/-!
# Dialogues

A computation that asks its surroundings questions and goes on with each answer. The surroundings
are not part of it, so the same dialogue can be held with a store, with one that fails at times, or
with several parties in turn.

* `Dialogue.run`: the dialogue with surroundings that keep a state.
* `Dialogue.run_bind`: what comes after a dialogue starts in the state that the dialogue left.
* `Dialogue.embed`: the dialogue with its questions put to a larger party.
-/

namespace Scrip

/-- A computation of an `α` that asks questions. The type of an answer depends on its question. -/
inductive Dialogue (Question : Type) (Answer : Question → Type) (α : Type) : Type where
  /-- Nothing more to ask. -/
  | done (a : α)
  /-- One question, and how to go on with its answer. -/
  | ask (q : Question) (next : Answer q → Dialogue Question Answer α)

namespace Dialogue

variable {Question : Type} {Answer : Question → Type} {α β γ σ : Type}

/-- One dialogue after another. -/
protected def bind (d : Dialogue Question Answer α) (f : α → Dialogue Question Answer β) :
    Dialogue Question Answer β :=
  match d with
  | done a => f a
  | ask q next => ask q fun answer => (next answer).bind f

instance : Monad (Dialogue Question Answer) where
  pure := done
  bind := Dialogue.bind

@[simp] theorem done_bind (a : α) (f : α → Dialogue Question Answer β) : done a >>= f = f a :=
  rfl

@[simp] theorem ask_bind (q : Question) (next : Answer q → Dialogue Question Answer α)
    (f : α → Dialogue Question Answer β) :
    ask q next >>= f = ask q fun answer => next answer >>= f :=
  rfl

theorem pure_eq_done (a : α) : (pure a : Dialogue Question Answer α) = done a :=
  rfl

protected theorem bind_done (d : Dialogue Question Answer α) : d >>= done = d := by
  induction d with
  | done a => rfl
  | ask q next ih => simp only [ask_bind, ih]

protected theorem bind_assoc (d : Dialogue Question Answer α) (f : α → Dialogue Question Answer β)
    (g : β → Dialogue Question Answer γ) : d >>= f >>= g = d >>= fun a => f a >>= g := by
  induction d with
  | done a => rfl
  | ask q next ih => simp only [ask_bind, ih]

instance : LawfulMonad (Dialogue Question Answer) :=
  LawfulMonad.mk' _ (fun d => Dialogue.bind_done d) (fun _ _ => rfl) Dialogue.bind_assoc

/-- A single question. -/
def put (q : Question) : Dialogue Question Answer (Answer q) :=
  ask q done

/-- Surroundings that keep a state and answer every question. -/
abbrev Party (Question : Type) (Answer : Question → Type) (σ : Type) :=
  (q : Question) → σ → Answer q × σ

/-- The dialogue with a party: its outcome and the state it leaves. -/
def run (party : Party Question Answer σ) : Dialogue Question Answer α → σ → α × σ
  | done a, s => (a, s)
  | ask q next, s => (next (party q s).1).run party (party q s).2

@[simp] theorem run_done (party : Party Question Answer σ) (a : α) (s : σ) :
    (done a).run party s = (a, s) :=
  rfl

@[simp] theorem run_ask (party : Party Question Answer σ) (q : Question)
    (next : Answer q → Dialogue Question Answer α) (s : σ) :
    (ask q next).run party s = (next (party q s).1).run party (party q s).2 :=
  rfl

/-- What comes after a dialogue starts in the state that the dialogue left. -/
theorem run_bind (party : Party Question Answer σ) (d : Dialogue Question Answer α)
    (f : α → Dialogue Question Answer β) (s : σ) :
    (d >>= f).run party s = (f (d.run party s).1).run party (d.run party s).2 := by
  induction d generalizing s with
  | done a => rfl
  | ask q next ih => simp only [ask_bind, run_ask, ih]

/-- The dialogue with its questions put to a larger party, which answers them in the same way. -/
def embed {Question' : Type} {Answer' : Question' → Type} (f : Question → Question')
    (g : (q : Question) → Answer' (f q) → Answer q) :
    Dialogue Question Answer α → Dialogue Question' Answer' α
  | done a => done a
  | ask q next => ask (f q) fun answer => (next (g q answer)).embed f g

end Dialogue

end Scrip
