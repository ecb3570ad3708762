import Scrip.Proofs.Framework.Discreet

/-!
# Units as brackets

As long as no deadline passes, what is said in a unit is bracketed (`Bracketed.of_leads`): a unit
that begins is ended once, at last, by a commit after a value and by a rollback after a failure.

* `Dialogue.transcript_bind`, `Dialogue.transcript_map`: what is said in one dialogue and then in
  the next, if there is a next one;
* `Balanced`: units that are open one at a time, and none in the end;
* `Bracketed.balanced`, `Balanced.append`: so what is said is balanced, unit after unit.
-/

namespace Scrip

/-- What is said in one dialogue and then in the next. -/
theorem Dialogue.transcript_bind {Question : Type} {Answer : Question → Type} {α β τ : Type}
    (party : Dialogue.Party Question Answer τ) (d : Dialogue Question Answer α)
    (f : α → Dialogue Question Answer β) (t : τ) :
    (d >>= f).transcript party t =
      d.transcript party t ++ (f (d.run party t).1).transcript party (d.run party t).2 := by
  induction d generalizing t with
  | done a => rfl
  | ask q next ih => exact congrArg (⟨q, (party q t).1⟩ :: ·) (ih _ _)

/-- What is done with the outcome of a dialogue is not said. -/
theorem Dialogue.transcript_map {Question : Type} {Answer : Question → Type} {α β τ : Type}
    (party : Dialogue.Party Question Answer τ) (d : Dialogue Question Answer α) (f : α → β)
    (t : τ) :
    (d >>= fun a => .done (f a)).transcript party t = d.transcript party t ∧
      ((d >>= fun a => .done (f a)).run party t).2 = (d.run party t).2 := by
  constructor
  · exact (transcript_bind party d _ t).trans (List.append_nil _)
  · rw [run_bind]
    rfl

/-- The deadline did not pass at any call. -/
def Timely (log : List Exchanged) : Prop :=
  ∀ x ∈ log, ¬ x.IsLate

/-! ## One unit -/

section Unit

variable {α : Type} {op : Operation} {limit : Option Nat} {asks : Request → Prop} {w : Work α}
  {log : List Exchanged} {yield : Except Error α} {taken : Error}

/-- What is said in a unit as long as its deadline does not pass. If the unit does not begin, that
is all. Otherwise the requests of its work follow, of which none but the last one may fail, and then
only if the work does. The end is a commit after a value and a rollback after a failure, whatever
comes back for that. -/
inductive Bracketed (limit : Option Nat) (asks : Request → Prop) (w : Work α) :
    List Exchanged → Prop
  | beginsNot (e : StoreError) : Bracketed limit asks w [⟨.begin limit, .error (.failed e)⟩]
  | ends {body : List Exchanged} {outcome : Except Failure α} {last : Exchanged}
      (works : w.exchange.Leads body (.done outcome))
      (inside : ∀ x ∈ body, ∃ r, x.1 = .within r ∧ asks r)
      (stops : ∀ before c e after, body = before ++ ⟨c, c.fail e⟩ :: after →
        after = [] ∧ ∃ failure, outcome = .error failure)
      (settles : last.1 = match outcome with
        | .ok _ => .commit
        | .error _ => .rollback) :
      Bracketed limit asks w (⟨.begin limit, .ok ()⟩ :: body ++ [last])

/-- Work that is over when the store fails is bracketed. -/
theorem Bracketed.of_leads (h : (inUnit op limit w).Leads log (.done yield))
    (proper : Work.Proper asks w.run) (discreet : Work.Discreet taken w.run)
    (timely : Timely log) : Bracketed limit asks w log := by
  have stops {body : List Exchanged} {outcome : Except Failure α}
      (hw : w.exchange.Leads body (.done outcome)) (before : List Exchanged) (c : Call)
      (e : StoreError) (after : List Exchanged) (hb : body = before ++ ⟨c, c.fail e⟩ :: after) :
      after = [] ∧ ∃ failure, outcome = .error failure := by
    obtain ⟨last, failed⟩ := discreet.failed (hb ▸ hw)
    exact ⟨last, _, failed⟩
  cases Course.of_leads h with
  | beginsNot e => exact .beginsNot e
  | beginsLate => exact absurd rfl (timely _ List.mem_cons_self)
  | commits hw => exact .ends hw (proper.asked hw) (stops hw) rfl
  | commitsNot hw => exact .ends hw (proper.asked hw) (stops hw) rfl
  | rollsBack hw => exact .ends hw (proper.asked hw) (stops hw) rfl
  | expires hw =>
    -- Work does not say by itself that the deadline passed.
    rcases proper.failed hw with own | ⟨-, x, hx, late⟩
    · exact own.elim
    · exact absurd late (timely x (List.mem_cons_of_mem _ hx))
  | rollsBackLate => exact absurd rfl (timely _ (List.mem_append_right _ List.mem_cons_self))

end Unit

/-! ## Unit after unit -/

/-- Whether a unit begins at a call. -/
def Exchanged.begins : Exchanged → Bool
  | ⟨.begin _, .ok ()⟩ => true
  | _ => false

/-- Whether a unit ends at a call. -/
def Exchanged.ends : Exchanged → Bool
  | ⟨.commit, _⟩ | ⟨.rollback, _⟩ => true
  | _ => false

/-- At no time is more than one unit open, or a unit ended that is not, and none is in the end. -/
structure Balanced (log : List Exchanged) : Prop where
  anytime : ∀ start, start <+: log →
    start.countP Exchanged.ends ≤ start.countP Exchanged.begins ∧
      start.countP Exchanged.begins ≤ start.countP Exchanged.ends + 1
  closed : log.countP Exchanged.begins = log.countP Exchanged.ends

namespace Balanced

variable {log log' body : List Exchanged}

theorem nil : Balanced [] := by
  refine ⟨fun start hs => ?_, rfl⟩
  rw [List.prefix_nil.mp hs]
  exact ⟨Nat.le_refl 0, Nat.zero_le 1⟩

/-- One unit after another. -/
theorem append (h : Balanced log) (h' : Balanced log') : Balanced (log ++ log') := by
  have closed := h.closed
  refine ⟨fun start hs => ?_, ?_⟩
  · rcases List.prefix_or_prefix_of_prefix hs (List.prefix_append log log') with hs' | ⟨rest, rfl⟩
    · exact h.anytime start hs'
    · obtain ⟨ended, apart⟩ := h'.anytime rest ((List.prefix_append_right_inj log).mp hs)
      simp only [List.countP_append]
      omega
  · simp only [List.countP_append, closed, h'.closed]

/-- Neither does a unit begin within a unit nor does one end there. -/
theorem countP_within {p : Exchanged → Bool} (hp : ∀ r reply, p ⟨.within r, reply⟩ = false)
    (inside : ∀ x ∈ body, ∃ r, x.1 = .within r) {start : List Exchanged} (hs : start <+: body) :
    start.countP p = 0 := by
  refine List.countP_eq_zero.mpr fun x hx => ?_
  obtain ⟨r, hr⟩ := inside x (hs.subset hx)
  obtain ⟨c, reply⟩ := x
  subst hr
  exact ne_true_of_eq_false (hp r reply)

/-- A unit that begins and ends. -/
theorem unit {first last : Exchanged} (inside : ∀ x ∈ body, ∃ r, x.1 = .within r)
    (opens : first.begins = true ∧ first.ends = false)
    (closes : last.begins = false ∧ last.ends = true) : Balanced (first :: body ++ [last]) := by
  have begins {start : List Exchanged} (hs : start <+: body) :=
    countP_within (p := Exchanged.begins) (fun _ _ => rfl) inside hs
  have ends {start : List Exchanged} (hs : start <+: body) :=
    countP_within (p := Exchanged.ends) (fun _ _ => rfl) inside hs
  have begun : (first :: body ++ [last]).countP Exchanged.begins = 1 := by
    simp [begins (List.prefix_refl body), opens.1, closes.1]
  have ended : (first :: body ++ [last]).countP Exchanged.ends = 1 := by
    simp [ends (List.prefix_refl body), opens.2, closes.2]
  refine ⟨fun start hs => ?_, begun.trans ended.symm⟩
  rcases List.prefix_concat_iff.mp hs with rfl | hs'
  · omega
  · rcases List.prefix_cons_iff.mp hs' with rfl | ⟨requests, rfl, hr⟩
    · exact ⟨Nat.le_refl 0, Nat.zero_le 1⟩
    · rw [List.countP_cons_of_pos opens.1, List.countP_cons_of_neg (ne_true_of_eq_false opens.2),
        begins hr, ends hr]
      exact ⟨Nat.zero_le 1, Nat.le_refl 1⟩

end Balanced

/-- One unit is balanced. -/
theorem Bracketed.balanced {α : Type} {limit : Option Nat} {asks : Request → Prop} {w : Work α}
    {log : List Exchanged} (h : Bracketed limit asks w log) : Balanced log := by
  cases h with
  | beginsNot e =>
    refine ⟨fun start hs => ?_, rfl⟩
    rcases List.prefix_cons_iff.mp hs with rfl | ⟨rest, rfl, hr⟩
    · exact ⟨Nat.le_refl 0, Nat.zero_le 1⟩
    · rw [List.prefix_nil.mp hr]
      exact ⟨Nat.le_refl 0, Nat.zero_le 1⟩
  | @ends body outcome last works inside stops settles =>
    refine .unit (fun x hx => (inside x hx).imp fun r hr => hr.1) ⟨rfl, rfl⟩ ?_
    obtain ⟨c, reply⟩ := last
    cases outcome with
    | ok a => cases settles; exact ⟨rfl, rfl⟩
    | error failure => cases settles; exact ⟨rfl, rfl⟩

end Scrip
