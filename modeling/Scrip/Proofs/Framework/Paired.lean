import Mathlib.Data.List.Forall2
import Scrip.Proofs.Framework.Leads

/-!
# Two dialogues side by side

Two dialogues that ask the same questions as long as they get replies that are alike, and end with
values that are related (`Dialogue.Paired`). Most often they are one program on two values.

* `Paired.run`: with surroundings that reply alike in states that are alike;
* `Paired.leads`: after replies that are alike, whoever gives them;
* `Work.Paired`: work inside a unit, and its steps;
* `Exchange.Paired.unit`: a unit of such work.
-/

namespace Scrip

/-- The same failure, or values that are related. -/
inductive Matches {ε α β : Type} (R : α → β → Prop) : Except ε α → Except ε β → Prop
  | ok {a : α} {b : β} (h : R a b) : Matches R (.ok a) (.ok b)
  | error (e : ε) : Matches R (.error e) (.error e)

/-- Both are absent, or both are there and become the same. -/
theorem map_eq_cases {α γ : Type} {f : α → γ} {x x' : Option α} (h : x.map f = x'.map f) :
    x = none ∧ x' = none ∨ ∃ a a', x = some a ∧ x' = some a' ∧ f a = f a' := by
  cases x with
  | none =>
    cases x' with
    | none => exact .inl ⟨rfl, rfl⟩
    | some a' => cases h
  | some a =>
    cases x' with
    | none => cases h
    | some a' => exact .inr ⟨a, a', rfl, rfl, Option.some.inj h⟩

namespace Matches

variable {ε α β γ : Type} {R : α → β → Prop} {x : Except ε α} {y : Except ε β}

theorem mono {R' : α → β → Prop} (h : Matches R x y) (hR : ∀ a b, R a b → R' a b) :
    Matches R' x y := by
  cases h with
  | ok h => exact .ok (hR _ _ h)
  | error e => exact .error e

theorem eq_error {e : ε} (h : Matches R x y) (hx : x = .error e) : y = .error e := by
  subst hx
  cases h
  rfl

protected theorem eq {x x' : Except ε α} (h : Matches Eq x x') : x = x' := by
  cases h with
  | ok same => rw [same]
  | error e => rfl

/-- Two results that are made the same. -/
theorem of_map {f : α → γ} {g : β → γ} (h : x.map f = y.map g) :
    Matches (fun a b => f a = g b) x y := by
  cases x with
  | ok a =>
    cases y with
    | ok b => exact .ok (Except.ok.inj h)
    | error e => cases h
  | error e =>
    cases y with
    | ok b => cases h
    | error e' =>
      cases h
      exact .error e

end Matches

namespace Dialogue

variable {Question : Type} {Answer : Question → Type} {α β σ : Type}
  {Like : (q : Question) → Answer q → Answer q → Prop} {R : α → α → Prop} {S : β → β → Prop}

/-- The dialogues ask the same as long as replies are alike, and the values that they end with are
related. -/
inductive Paired (Like : (q : Question) → Answer q → Answer q → Prop) (R : α → α → Prop) :
    Dialogue Question Answer α → Dialogue Question Answer α → Prop
  | done {a a' : α} (h : R a a') : Paired Like R (.done a) (.done a')
  | ask {q : Question} {next next' : Answer q → Dialogue Question Answer α}
      (h : ∀ x x', Like q x x' → Paired Like R (next x) (next' x')) :
      Paired Like R (.ask q next) (.ask q next')

namespace Paired

/-- Fewer replies are alike. -/
theorem of_alike {Like' : (q : Question) → Answer q → Answer q → Prop}
    {d d' : Dialogue Question Answer α} (hd : Paired Like' R d d')
    (h : ∀ q x x', Like q x x' → Like' q x x') : Paired Like R d d' := by
  induction hd with
  | done h => exact .done h
  | ask _ ih => exact .ask fun x x' like => ih x x' (h _ _ _ like)

theorem bind {d d' : Dialogue Question Answer α} {f f' : α → Dialogue Question Answer β}
    (hd : Paired Like R d d') (hf : ∀ a a', R a a' → Paired Like S (f a) (f' a')) :
    Paired Like S (d >>= f) (d' >>= f') := by
  induction hd with
  | done h => exact hf _ _ h
  | ask _ ih => exact .ask ih

/-- With surroundings that reply alike in states that are alike, the dialogues end with related
values and leave states that are alike. -/
theorem run {d d' : Dialogue Question Answer α} {party : Party Question Answer σ}
    {T : σ → σ → Prop} (hd : Paired Like R d d')
    (hp : ∀ q s s', T s s' → Like q (party q s).1 (party q s').1 ∧ T (party q s).2 (party q s').2)
    {s s' : σ} (hs : T s s') :
    R (d.run party s).1 (d'.run party s').1 ∧ T (d.run party s).2 (d'.run party s').2 := by
  induction hd generalizing s s' with
  | done h => exact ⟨h, hs⟩
  | @ask q _ _ _ ih =>
    obtain ⟨like, left⟩ := hp q s s' hs
    exact ih _ _ like left

/-- Dialogues that go on alike, also when nothing differs, and end with the same are the same. -/
theorem eq {d d' : Dialogue Question Answer α} (h : Paired Like R d d') (refl : ∀ q x, Like q x x)
    (hR : ∀ a a', R a a' → a = a') : d = d' := by
  induction h with
  | done related => rw [hR _ _ related]
  | @ask q _ _ _ ih => exact congrArg _ (funext fun x => ih x x (refl q x))

/-- What is left of two dialogues that do not tell apart what they were told goes on alike. -/
theorem leads {Told : (q : Question) × Answer q → (q : Question) × Answer q → Prop}
    (told : ∀ x y, Told x y → ∃ q a a', x = ⟨q, a⟩ ∧ y = ⟨q, a'⟩ ∧ Like q a a')
    {d d' e : Dialogue Question Answer α} {log log' : List ((q : Question) × Answer q)}
    (h : Paired Like R d d') (hd : d.Leads log e) (same : log.Forall₂ Told log') :
    ∃ e', d'.Leads log' e' ∧ Paired Like R e e' := by
  induction hd generalizing d' log' with
  | refl d =>
    cases same
    exact ⟨d', .refl _, h⟩
  | ask _ ih =>
    cases same with
    | cons head rest =>
      obtain ⟨q, a, a', hx, rfl, like⟩ := told _ _ head
      cases hx
      cases h with
      | ask h =>
        obtain ⟨e', left, paired⟩ := ih (h _ _ like) rest
        exact ⟨e', .ask left, paired⟩

end Paired

end Dialogue

/-! ## Work -/

namespace Work

variable {α β : Type} {Like : (r : Request) → r.Answer → r.Answer → Prop} {R : α → α → Prop}
  {S : β → β → Prop}

/-- The same failure or related values in the end, and the same requests as long as the answers are
alike. -/
def Paired (Like : (r : Request) → r.Answer → r.Answer → Prop) (R : α → α → Prop)
    (w w' : Work α) : Prop :=
  Dialogue.Paired (fun r => Matches (Like r)) (Matches R) w.run w'.run

namespace Paired

theorem pure {a a' : α} (h : R a a') : Work.Paired Like R (Pure.pure a) (Pure.pure a') :=
  .done (.ok h)

theorem throw (f : Failure) : Work.Paired Like R (MonadExcept.throw f) (MonadExcept.throw f) :=
  .done (.error f)

theorem bind {w w' : Work α} {f f' : α → Work β} (hw : Work.Paired Like R w w')
    (hf : ∀ a a', R a a' → Work.Paired Like S (f a) (f' a')) :
    Work.Paired Like S (w >>= f) (w' >>= f') := by
  refine Dialogue.Paired.bind hw fun outcome outcome' h => ?_
  cases h with
  | ok h => exact hf _ _ h
  | error failure => exact .done (.error failure)

theorem mono {R' : α → α → Prop} {w w' : Work α} (hw : Work.Paired Like R w w')
    (h : ∀ a a', R a a' → R' a a') : Work.Paired Like R' w w' := by
  rw [← bind_pure w, ← bind_pure w']
  exact hw.bind fun a a' related => .pure (h a a' related)

/-- Fewer answers are alike. -/
theorem of_alike {Like' : (r : Request) → r.Answer → r.Answer → Prop} {w w' : Work α}
    (hw : Work.Paired Like' R w w') (h : ∀ r x x', Like r x x' → Like' r x x') :
    Work.Paired Like R w w' :=
  Dialogue.Paired.of_alike hw fun r _ _ matched => matched.mono (h r)

/-- Work that ends with the same value, and what comes after it. -/
theorem andThen {w w' : Work α} {f f' : α → Work β} (hw : Work.Paired Like Eq w w')
    (hf : ∀ a, Work.Paired Like S (f a) (f' a)) : Work.Paired Like S (w >>= f) (w' >>= f') :=
  hw.bind fun a _ same => same ▸ hf a

theorem attempt (r : Request) :
    Work.Paired Like (Matches (Like r)) (Work.attempt r) (Work.attempt r) := by
  refine .ask fun reply reply' h => ?_
  cases h with
  | ok h => exact .done (.ok (.ok h))
  | error lapse =>
    cases lapse with
    | failed e => exact .done (.ok (.error e))
    | expired => exact .done (.error Failure.expired)

theorem call (r : Request) : Work.Paired Like (Like r) (Work.call r) (Work.call r) := by
  refine (attempt r).bind fun x x' h => ?_
  cases h with
  | ok h => exact .pure h
  | error e => exact .throw _

/-- A request of which answers are alike only when they are the same. -/
theorem same {r : Request} (plain : ∀ a a', Like r a a' → a = a' := by exact fun _ _ same => same) :
    Work.Paired Like Eq (Work.call r) (Work.call r) :=
  (call r).mono plain

theorem checked (x : Except Error α) :
    Work.Paired Like Eq (Work.checked x) (Work.checked x) := by
  cases x with
  | ok a => exact .pure rfl
  | error e => exact .throw _

theorem found {e : Error} (x : Option α) :
    Work.Paired Like Eq (Work.found e x) (Work.found e x) := by
  cases x with
  | some a => exact .pure rfl
  | none => exact .throw _

/-- A refusal, or what comes after it. -/
theorem guard {c : Prop} [Decidable c] {e : Error} {next next' : PUnit → Work α}
    (hn : Work.Paired Like R (next ⟨⟩) (next' ⟨⟩)) :
    Work.Paired Like R (if c then Work.refuse e >>= next else next ⟨⟩)
      (if c then Work.refuse e >>= next' else next' ⟨⟩) := by
  split
  · exact .throw _
  · exact hn

theorem foldlM {f : β → α → Work β} (hf : ∀ x a, Work.Paired Like Eq (f x a) (f x a)) (x : β)
    (as : List α) : Work.Paired Like Eq (as.foldlM f x) (as.foldlM f x) := by
  induction as generalizing x with
  | nil => exact .pure rfl
  | cons a as ih => exact (hf x a).bind fun y _ h => h ▸ ih y

end Paired

end Work

/-! ## Units -/

/-- Replies to a call that are alike: the same, but for the answers to requests. -/
def Call.Like (Like : (r : Request) → r.Answer → r.Answer → Prop) :
    (c : Call) → c.Reply → c.Reply → Prop
  | .within r, x, x' => Matches (Like r) x x'
  | .begin _, x, x' | .commit, x, x' | .rollback, x, x' => x = x'

theorem Call.like_refl {Like : (r : Request) → r.Answer → r.Answer → Prop}
    (h : ∀ r x, Like r x x) (c : Call) (x : c.Reply) : c.Like Like x x := by
  cases c with
  | within r =>
    cases x with
    | ok a => exact .ok (h r a)
    | error lapse => exact .error lapse
  | begin | commit | rollback => rfl

namespace Exchange

variable {α : Type} {Like : (r : Request) → r.Answer → r.Answer → Prop} {R : α → α → Prop}

/-- The values in the end are related, and the calls are the same as long as the replies are
alike. -/
abbrev Paired (Like : (r : Request) → r.Answer → r.Answer → Prop) (R : α → α → Prop)
    (d d' : Exchange α) : Prop :=
  Dialogue.Paired (Call.Like Like) R d d'

namespace Paired

theorem settle (op : Operation) {outcome outcome' : Except Failure α}
    (h : Matches R outcome outcome') :
    Exchange.Paired Like (Matches R) (settle op outcome) (settle op outcome') := by
  cases h with
  | ok h =>
    refine .ask fun reply _ same => ?_
    cases same
    cases reply with
    | ok => exact .done (.ok h)
    | error e => exact .done (.error _)
  | error failure =>
    have rollsBack {next : Call.Reply .rollback → Exchange (Except Error α)} {e late : Error}
        (done : next (.ok ()) = .done (.error e))
        (failed : ∀ x, next (.error (.failed x)) = .done (.error e))
        (expired : next (.error .expired) = .done (.error late)) :
        Exchange.Paired Like (Matches R) (.ask .rollback next) (.ask .rollback next) := by
      refine .ask fun reply _ same => ?_
      cases same
      rcases reply with (x | _) | _
      · rw [failed]
        exact .done (.error e)
      · rw [expired]
        exact .done (.error late)
      · rw [done]
        exact .done (.error e)
    cases failure with
    | expired => exact .done (.error _)
    | rule e => exact rollsBack rfl (fun _ => rfl) rfl
    | store e => exact rollsBack rfl (fun _ => rfl) rfl

/-- A unit of work that is paired. -/
theorem unit (op : Operation) (limit : Option Nat) {w w' : Work α} (hw : Work.Paired Like R w w') :
    Exchange.Paired Like (Matches R) (inUnit op limit w) (inUnit op limit w') := by
  have work : Exchange.Paired Like (Matches R) w.exchange w'.exchange := by
    unfold Work.exchange
    unfold Work.Paired at hw
    generalize w.run = d at hw ⊢
    generalize w'.run = d' at hw ⊢
    induction hw with
    | done h => exact .done h
    | ask _ ih => exact .ask ih
  refine .ask fun reply _ same => ?_
  cases same
  match reply with
  | .ok () => exact work.bind fun _ _ => settle op
  | .error (.failed _) | .error .expired => exact .done (.error _)

end Paired

end Exchange

end Scrip
