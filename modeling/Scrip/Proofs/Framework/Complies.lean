import Scrip.Proofs.Framework.Answers
import Scrip.Proofs.Framework.Lawful
import Scrip.Proofs.Store.Image

/-!
# Work within the constraints

Work that asks only what no store refuses (`Work.Complies`): its requests respect the
constraints, a name or a holding is made where there is none, and lists of entries are asked
for only where that is allowed. `Q` holds of the outcome and of the books, whatever the clock
shows and in whatever order entries are listed. The deadline may pass where that is allowed.

* `Accepts.exists_answer`: such a request is answered;
* `Complies.bind`, `Complies.call`, `Complies.read`: the steps of work;
* `Complies.and_gives`: what is known of the value of work is known here too.
-/

namespace Scrip

open Dialogue (Lawful WP)

/-- Whether a request is for a list of entries. -/
def Request.Lists : Request → Prop
  | .entriesFor _ => True
  | _ => False

theorem Request.SameAnswer.refl {r : Request} (a : r.Answer) : r.SameAnswer a a := by
  cases r <;> first | exact ⟨List.Perm.refl _, fun _ => rfl⟩ | rfl

theorem Request.SameAnswer.eq {r : Request} {x y : r.Answer} (hr : ¬ r.Lists)
    (h : r.SameAnswer x y) : x = y := by
  cases r <;> first | exact h | exact absurd trivial hr

namespace Books

variable {b b' : Books} {listing : Prop} {r : Request}

/-- What is made is not there yet. -/
def Welcomes (b : Books) : Request → Prop
  | .insertAccount new => b.accountByName? new.username = none
  | .insertItem new => b.itemByName? new.name = none
  | .insertHolding account item => b.holding? account item = none
  | _ => True

/-- A request that is not refused. -/
structure Accepts (listing : Prop) (b : Books) (r : Request) : Prop where
  respects : b.Respects r
  welcomes : b.Welcomes r
  lists : r.Lists → listing

/-- How books answer a request at some time. -/
inductive Serves (b : Books) (r : Request) (a : r.Answer) (b' : Books) : Prop
  | intro (now : Instant) (hn : now.Ordinary) (x : r.Answer) (h : b.answer now r = .ok (x, b'))
      (hs : r.SameAnswer x a)

/-- A request that respects the constraints and is for something new is answered. -/
theorem Accepts.exists_answer (h : b.Accepts listing r) (now : Instant) :
    ∃ a b', b.answer now r = .ok (a, b') := by
  obtain ⟨hr, hw, -⟩ := h
  cases r with
  | account | accountByName | lockAccount | debit | item | itemByName | items | holding
  | holdings | incrementHolding | append | entriesFor => exact ⟨_, _, rfl⟩
  | insertAccount new =>
    have free : ¬ (b.accountByName? new.username).isSome = true := by
      rw [show b.accountByName? new.username = none from hw]
      exact Bool.false_ne_true
    exact ⟨_, _, if_neg free⟩
  | insertItem new =>
    have free : ¬ (b.itemByName? new.name).isSome = true := by
      rw [show b.itemByName? new.name = none from hw]
      exact Bool.false_ne_true
    exact ⟨_, _, if_neg free⟩
  | insertHolding account item =>
    simp only [answer]
    split <;> exact ⟨_, _, rfl⟩
  | credit id amount =>
    cases ha : b.account? id with
    | none =>
      have hc : b.credit id amount = .ok none := by rw [credit, ha]
      exact ⟨_, _, congrArg (Except.map b.changed) hc⟩
    | some a =>
      obtain ⟨hm, hid⟩ := account?_mem ha
      have hbound := hr a hm hid
      have hfits : -maxCoins - 1 ≤ a.coins + amount ∧ a.coins + amount ≤ maxCoins :=
        ⟨by unfold maxCoins; omega, hbound.2⟩
      have hc : b.credit id amount = .ok (some (b.setCoins id (a.coins + amount))) := by
        simp only [credit, ha, if_pos hfits]
      exact ⟨_, _, congrArg (Except.map b.changed) hc⟩

/-- A request that does not write is answered by what is there. -/
theorem Serves.of_read {a x : r.Answer} (hl : ¬ r.Lists) (hr : ∀ now, b.answer now r = .ok (x, b))
    (h : b.Serves r a b') : x = a ∧ b' = b := by
  obtain ⟨now, -, y, hy, hs⟩ := h
  cases (hr now).symm.trans hy
  exact ⟨hs.eq hl, rfl⟩

theorem Serves.replies {a : r.Answer} (h : b.Serves r a b') : b.Replies r (.ok a) b' := by
  obtain ⟨now, -, x, hx, hs⟩ := h
  by_cases hl : r.Lists
  · cases r with
    | entriesFor account =>
      cases hx
      exact .recites account a
    | _ => exact absurd hl id
  · cases hs.eq hl
    exact .answers now hx

end Books

namespace Work

variable {α β : Type} {b : Books} {listing expires : Prop}

/-- How requests are answered on books that are there until the deadline passes. -/
inductive May (expires : Prop) :
    Option Books → (r : Request) → r.Reply → Option Books → Prop
  | serves {b b' : Books} {r : Request} {a : r.Answer} (h : b.Serves r a b') :
      May expires (some b) r (.ok a) (some b')
  | lapses {b : Books} {r : Request} (h : expires) : May expires (some b) r (.error .expired) none

/-- Whether a request may be asked. After the deadline none may. -/
def Asks (listing : Prop) (s : Option Books) (r : Request) : Prop :=
  ∃ b, s = some b ∧ b.Accepts listing r

/-- How work ends: within its deadline as `Q` says, or because it passed. -/
def Ends (expires : Prop) (Q : Except Failure α → Books → Prop) (outcome : Except Failure α) :
    Option Books → Prop
  | some b => outcome ≠ .error .expired ∧ Q outcome b
  | none => expires ∧ outcome = .error .expired

/-- The work asks only what is not refused, and `Q` holds of its outcome and of the books it
leaves, unless the deadline passes. -/
def Complies (listing expires : Prop) (w : Work α) (b : Books)
    (Q : Except Failure α → Books → Prop) : Prop :=
  Lawful (Asks listing) (May expires) w.run (some b) (Ends expires Q)

/-- Once the deadline has passed the work is over. -/
theorem lapsed {d : Dialogue Request Request.Reply (Except Failure α)}
    {P Q : Except Failure α → Books → Prop}
    (h : Lawful (Asks listing) (May expires) d none (Ends expires P)) :
    Lawful (Asks listing) (May expires) d none (Ends expires Q) := by
  generalize hs : (none : Option Books) = s at h
  cases h with
  | done h =>
    subst hs
    exact .done h
  | ask hq =>
    obtain ⟨b, rfl, -⟩ := hq
    cases hs

theorem Complies.mono {w : Work α} {P Q : Except Failure α → Books → Prop}
    (h : w.Complies listing expires b P) (hPQ : ∀ outcome b', P outcome b' → Q outcome b') :
    w.Complies listing expires b Q := by
  refine Lawful.mono h fun outcome s hP => ?_
  cases s with
  | none => exact hP
  | some b' => exact ⟨hP.1, hPQ _ _ hP.2⟩

theorem Complies.pure {a : α} {Q : Except Failure α → Books → Prop} (h : Q (.ok a) b) :
    Complies listing expires (Pure.pure a : Work α) b Q :=
  Lawful.done ⟨nofun, h⟩

theorem Complies.refuse {e : Error} {Q : Except Failure α → Books → Prop}
    (h : Q (.error (.rule e)) b) : Complies listing expires (Work.refuse e : Work α) b Q :=
  Lawful.done ⟨nofun, h⟩

theorem Complies.bind {w : Work α} {f : α → Work β} {Q : Except Failure β → Books → Prop}
    (hw : w.Complies listing expires b fun outcome b' => match outcome with
      | .ok a => (f a).Complies listing expires b' Q
      | .error failure => Q (.error failure) b') :
    Complies listing expires (w >>= f) b Q := by
  refine Lawful.bind hw fun outcome s h => ?_
  match outcome, s, h with
  | .ok a, some b', h => exact h.2
  | .error failure, some b', h =>
    exact .done ⟨fun he => h.1 (by cases he; rfl), h.2⟩
  | _, none, ⟨hx, rfl⟩ => exact .done ⟨hx, rfl⟩

/-- A request that is not refused. -/
theorem Complies.attempt {r : Request}
    {Q : Except Failure (Except StoreError r.Answer) → Books → Prop}
    (hr : b.Accepts listing r) (h : ∀ a b', b.Serves r a b' → Q (.ok (.ok a)) b') :
    (Work.attempt r).Complies listing expires b Q := by
  refine Lawful.ask ⟨b, rfl, hr⟩ fun reply s hm => ?_
  cases hm with
  | serves hs => exact .done ⟨nofun, h _ _ hs⟩
  | lapses hx => exact .done ⟨hx, rfl⟩

theorem Complies.call {r : Request} {Q : Except Failure r.Answer → Books → Prop}
    (hr : b.Accepts listing r) (h : ∀ a b', b.Serves r a b' → Q (.ok a) b') :
    (Work.call r).Complies listing expires b Q :=
  Complies.bind (Complies.attempt hr fun a b' hs => Complies.pure (h a b' hs))

/-- A request that does not write, and what it finds. -/
theorem Complies.read {r : Request} {a : r.Answer} {Q : Except Failure r.Answer → Books → Prop}
    (hl : ¬ r.Lists) (hr : b.Respects r) (hw : b.Welcomes r)
    (ha : ∀ now, b.answer now r = .ok (a, b)) (h : Q (.ok a) b) :
    (Work.call r).Complies listing expires b Q := by
  refine Complies.call ⟨hr, hw, fun hl' => absurd hl' hl⟩ fun a' b' hs => ?_
  obtain ⟨rfl, rfl⟩ := hs.of_read hl ha
  exact h

theorem Complies.found {e : Error} {x : Option α} {Q : Except Failure α → Books → Prop}
    (ha : ∀ a, x = some a → Q (.ok a) b) (he : x = none → Q (.error (.rule e)) b) :
    (Work.found e x).Complies listing expires b Q := by
  cases x with
  | none => exact Complies.refuse (he rfl)
  | some a => exact Complies.pure (ha a rfl)

theorem Complies.checked {x : Except Error α} {Q : Except Failure α → Books → Prop}
    (ha : ∀ a, x = .ok a → Q (.ok a) b) (he : ∀ e, x = .error e → Q (.error (.rule e)) b) :
    (Work.checked x).Complies listing expires b Q := by
  cases x with
  | error e => exact Complies.refuse (he e rfl)
  | ok a => exact Complies.pure (ha a rfl)

/-- A refusal, or what comes after it. -/
theorem Complies.guard {c : Prop} [Decidable c] {e : Error} {next : PUnit → Work α}
    {Q : Except Failure α → Books → Prop} (hc : c → Q (.error (.rule e)) b)
    (hn : ¬ c → (next ⟨⟩).Complies listing expires b Q) :
    Complies listing expires (if c then Work.refuse e >>= next else next ⟨⟩) b Q := by
  split
  · exact Complies.bind (Complies.refuse (hc ‹_›))
  · exact hn ‹_›

/-- What is known of the value of work, whatever the books reply, is known of it here. -/
theorem Complies.and_gives {w : Work α} {P : Except Failure α → Books → Prop}
    {G : α → Books → Prop} (h : w.Complies listing expires b P) (hg : w.Gives b G) :
    w.Complies listing expires b fun outcome b' =>
      P outcome b' ∧ ∀ a, outcome = .ok a → G a b' := by
  unfold Complies at h ⊢
  unfold Gives at hg
  generalize w.run = d at h hg
  induction d generalizing b with
  | done a =>
    obtain ⟨hx, hP⟩ := Lawful.done_iff.mp h
    exact .done ⟨hx, hP, (WP.done_iff.mp hg).2⟩
  | ask r next ih =>
    obtain ⟨hq, hnext⟩ := Lawful.ask_iff.mp h
    refine .ask hq fun reply s hm => ?_
    cases hm with
    | serves hs =>
      exact ih _ (hnext _ _ (.serves hs)) ((WP.ask_iff.mp hg).2 _ _ hs.replies)
    | lapses hx => exact lapsed (hnext _ _ (.lapses hx))

end Work

end Scrip
