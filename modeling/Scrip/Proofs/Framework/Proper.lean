import Scrip.Proofs.Framework.Replies

/-!
# Work in order

Work that is over when its deadline passes, and that never says so by itself (`Work.Proper`). What
it asks, whatever came back before, is named by a condition on requests.

* `Proper.bind`, `Proper.call`, `Proper.attempt`: the steps of work;
* `OnlyReads`: work that asks for nothing to be written.
-/

namespace Scrip

/-- A failure of its own: a rule of the house refuses, or the store failed. -/
def Failure.IsOwn : Failure → Prop
  | rule e => e.isBusiness = true
  | store _ => True
  | expired => False

namespace Work

variable {α β : Type} {asks asks' : Request → Prop}

/-- Work that asks only what is allowed, is over when the deadline passes, and fails by itself for
reasons of its own. -/
inductive Proper (asks : Request → Prop) :
    Dialogue Request Request.Reply (Except Failure α) → Prop
  | value (a : α) : Proper asks (.done (.ok a))
  | failure {f : Failure} (own : f.IsOwn) : Proper asks (.done (.error f))
  | ask {r : Request} {next : r.Reply → Dialogue Request Request.Reply (Except Failure α)}
      (hr : asks r) (stops : next (.error .expired) = .done (.error .expired))
      (h : ∀ reply, reply ≠ .error .expired → Proper asks (next reply)) : Proper asks (.ask r next)

/-- Work that asks for nothing to be written. -/
abbrev OnlyReads (w : Work α) : Prop :=
  Proper (·.isWrite = false) w.run

theorem Proper.mono {d : Dialogue Request Request.Reply (Except Failure α)} (h : Proper asks d)
    (hr : ∀ r, asks r → asks' r) : Proper asks' d := by
  induction h with
  | value a => exact .value a
  | failure own => exact .failure own
  | ask hq stops _ ih => exact .ask (hr _ hq) stops ih

theorem Proper.pure {a : α} : Proper asks (Pure.pure a : Work α).run :=
  .value a

theorem Proper.throw {f : Failure} (own : f.IsOwn) :
    Proper asks (MonadExcept.throw f : Work α).run :=
  .failure own

theorem Proper.refuse {e : Error} (he : e.isBusiness = true) :
    Proper asks (Work.refuse e : Work α).run :=
  .throw he

theorem Proper.bind {w : Work α} {f : α → Work β} (hw : Proper asks w.run)
    (hf : ∀ a, Proper asks (f a).run) : Proper asks (w >>= f).run := by
  show Proper asks (w.run >>= ExceptT.bindCont f)
  generalize w.run = d at hw
  induction hw with
  | value a => exact hf a
  | failure own => exact .failure own
  | ask hr stops _ ih => exact .ask hr (congrArg (· >>= ExceptT.bindCont f) stops) ih

/-- A request whose failure the work looks at. -/
theorem Proper.attempt {r : Request} (hr : asks r) : Proper asks (Work.attempt r).run := by
  refine .ask hr rfl fun reply hne => ?_
  match reply, hne with
  | .ok a, _ => exact .value (Except.ok a)
  | .error (.failed e), _ => exact .value (Except.error e)
  | .error .expired, hne => exact absurd rfl hne

/-- A request whose failure ends the work. -/
theorem Proper.call {r : Request} (hr : asks r) : Proper asks (Work.call r).run :=
  (Proper.attempt hr).bind fun
    | .ok _ => .pure
    | .error _ => .throw trivial

theorem Proper.found {e : Error} (he : e.isBusiness = true) :
    ∀ {x : Option α}, Proper asks (Work.found e x).run
  | some _ => .pure
  | none => .refuse he

theorem Proper.checked {x : Except Error α} (he : ∀ e, x = .error e → e.isBusiness = true) :
    Proper asks (Work.checked x).run := by
  cases x with
  | ok a => exact .pure
  | error e => exact .refuse (he e rfl)

/-- A refusal, or what comes after it. -/
theorem Proper.guard {c : Prop} [Decidable c] {e : Error} {next : PUnit → Work α}
    (he : e.isBusiness = true) (hn : Proper asks (next ⟨⟩).run) :
    Proper asks (if c then Work.refuse e >>= next else next ⟨⟩ : Work α).run := by
  split
  · exact .failure he
  · exact hn

theorem Proper.foldlM {f : β → α → Work β} (hf : ∀ x a, Proper asks (f x a).run) (x : β)
    (as : List α) : Proper asks (as.foldlM f x).run := by
  induction as generalizing x with
  | nil => exact .pure
  | cons a as ih => exact (hf x a).bind ih

theorem OnlyReads.call {r : Request} (hr : r.isWrite = false) : (Work.call r).OnlyReads :=
  Proper.call hr

/-- Work that only reads leaves the books as they were. -/
theorem OnlyReads.reads {w : Work α} (h : w.OnlyReads) : w.Reads := fun b => by
  unfold Gives
  unfold OnlyReads at h
  generalize w.run = d at h
  induction h with
  | value => exact .done trivial fun _ _ => rfl
  | failure => exact .done trivial nofun
  | ask hr stops _ ih =>
    refine .ask trivial fun reply b' hreply => ?_
    rw [hreply.of_read hr]
    by_cases he : reply = .error .expired
    · rw [he, stops]
      exact .done trivial nofun
    · exact ih reply he

end Work

end Scrip
