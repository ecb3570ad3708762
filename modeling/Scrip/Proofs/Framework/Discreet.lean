import Mathlib.Data.List.Basic
import Scrip.Proofs.Framework.Lawful
import Scrip.Proofs.Framework.Leads

/-!
# Operations that keep to themselves how a store failed

Work that is over as soon as the store fails, and of the failure only looks at whether an insertion
met a conflict (`Work.Discreet`). An operation consists of units of such work
(`Exchange.Discreet`).

* `Exchange.Discreet.blind`: it goes on in the same way after replies that are alike;
* `Exchange.Blind.run_eq`: so it tells no two surroundings apart whose replies are alike;
* `Exchange.Discreet.failed`: it is over when the store fails, and names the operation only.
-/

namespace Scrip

/-- Whether an insertion met a conflict. -/
def Request.clashes : Request → StoreError → Bool
  | .insertAccount _, .conflict _ | .insertItem _, .conflict _ => true
  | _, _ => false

/-- Whether an insertion met a conflict. -/
def Call.clashes : Call → StoreError → Bool
  | .within r, e => r.clashes e
  | _, _ => false

/-- Why an operation fails when the store fails a request. A conflict that an insertion meets is a
refusal of its own. -/
def Request.failure (taken : Error) (r : Request) (e : StoreError) : Failure :=
  if r.clashes e then .rule taken else .store e

/-- Why an operation fails when the store fails a call. -/
def Call.failure (taken : Error) (c : Call) (e : StoreError) : Failure :=
  if c.clashes e then .rule taken else .store e

/-- What was said in a dialogue with a party leads to its outcome. -/
theorem Dialogue.leads_transcript {Question : Type} {Answer : Question → Type} {α τ : Type}
    (party : Dialogue.Party Question Answer τ) (d : Dialogue Question Answer α) (t : τ) :
    d.Leads (d.transcript party t) (.done (d.run party t).1) := by
  induction d generalizing t with
  | done a => exact .refl _
  | ask q next ih => exact .ask (ih _ _)

/-! ## Work -/

namespace Work

variable {α β : Type} {taken : Error}

/-- Work that is over as soon as the store fails. A conflict that an insertion meets is refused
because a name is `taken`. -/
inductive Discreet (taken : Error) : Dialogue Request Request.Reply (Except Failure α) → Prop
  | done (outcome : Except Failure α) : Discreet taken (.done outcome)
  | ask {r : Request} {next : r.Reply → Dialogue Request Request.Reply (Except Failure α)}
      (stops : ∀ e, next (.error (.failed e)) = .done (.error (r.failure taken e)))
      (h : ∀ reply, Discreet taken (next reply)) : Discreet taken (.ask r next)

namespace Discreet

theorem pure {a : α} : Discreet taken (Pure.pure a : Work α).run :=
  .done _

theorem throw {f : Failure} : Discreet taken (MonadExcept.throw f : Work α).run :=
  .done _

theorem bind {w : Work α} {f : α → Work β} (hw : Discreet taken w.run)
    (hf : ∀ a, Discreet taken (f a).run) :
    Discreet taken (w >>= f).run := by
  show Discreet taken (w.run >>= ExceptT.bindCont f)
  generalize w.run = d at hw
  induction hw with
  | done outcome =>
    cases outcome with
    | ok a => exact hf a
    | error f => exact .done _
  | ask stops _ ih => exact .ask (fun e => congrArg (· >>= ExceptT.bindCont f) (stops e)) ih

/-- A request whose failure the work looks at, and what it makes of the reply. -/
theorem attempt {r : Request} {f : Except StoreError r.Answer → Work α}
    (stops : ∀ e, (f (.error e)).run = .done (.error (r.failure taken e)))
    (hf : ∀ x, Discreet taken (f x).run) : Discreet taken (Work.attempt r >>= f).run := by
  refine .ask stops fun reply => ?_
  match reply with
  | .ok a => exact hf (.ok a)
  | .error (.failed e) => exact hf (.error e)
  | .error .expired => exact .done _

/-- A request whose failure ends the work. -/
theorem call {r : Request} (hr : ∀ e, r.clashes e = false) : Discreet taken (Work.call r).run :=
  attempt (fun e => by rw [Request.failure, hr]; rfl) fun
    | .ok _ => .pure
    | .error _ => .throw

theorem found {e : Error} : ∀ {x : Option α}, Discreet taken (Work.found e x).run
  | some _ => .pure
  | none => .throw

theorem checked : ∀ {x : Except Error α}, Discreet taken (Work.checked x).run
  | .ok _ => .pure
  | .error _ => .throw

/-- Work without insertions never finds a name taken. -/
theorem exists_of_forall {w : Work α} (h : ∀ taken, Discreet taken w.run) :
    ∃ taken, Discreet taken w.run :=
  ⟨.invalidCredentials, h _⟩

/-- A refusal, or what comes after it. -/
theorem guard {c : Prop} [Decidable c] {e : Error} {next : PUnit → Work α}
    (hn : Discreet taken (next ⟨⟩).run) :
    Discreet taken (if c then Work.refuse e >>= next else next ⟨⟩ : Work α).run := by
  split
  · exact .done _
  · exact hn

theorem foldlM {f : β → α → Work β} (hf : ∀ x a, Discreet taken (f x a).run) (x : β) (as : List α) :
    Discreet taken (as.foldlM f x).run := by
  induction as generalizing x with
  | nil => exact .pure
  | cons a as ih => exact (hf x a).bind ih

end Discreet

open Dialogue (Leads)

variable {w : Work α} {body : List Exchanged} {outcome : Except Failure α}

/-- What was said in work are requests. -/
theorem within_of_leads (hw : w.exchange.Leads body (.done outcome)) :
    ∀ x ∈ body, ∃ r, x.1 = .within r := by
  unfold Work.exchange at hw
  generalize w.run = d at hw
  induction d generalizing body with
  | done =>
    rw [(Leads.of_done hw).1]
    exact List.forall_mem_nil _
  | ask r next ih =>
    obtain ⟨reply, rest, rfl, hn⟩ := Leads.of_ask hw
    exact List.forall_mem_cons.mpr ⟨⟨r, rfl⟩, ih reply hn⟩

/-- A request that failed was the last one, and so the work fails. -/
theorem Discreet.failed (h : Discreet taken w.run) {before after : List Exchanged} {c : Call}
    {e : StoreError}
    (hw : w.exchange.Leads (before ++ ⟨c, c.fail e⟩ :: after) (.done outcome)) :
    after = [] ∧ outcome = .error (c.failure taken e) := by
  unfold Work.exchange at hw
  generalize w.run = d at h hw
  induction h generalizing before with
  | done =>
    have nothing := (Leads.of_done hw).1
    exact absurd nothing (List.append_ne_nil_of_right_ne_nil _ (List.cons_ne_nil _ _))
  | @ask r next stops _ ih =>
    obtain ⟨reply, rest, hl, hn⟩ := Leads.of_ask hw
    cases before with
    | nil =>
      cases hl
      simp only [Call.fail, stops e] at hn
      exact ⟨(Leads.of_done hn).1, Dialogue.done.inj (Leads.of_done hn).2⟩
    | cons x before =>
      obtain ⟨-, rfl⟩ := List.cons.inj hl
      exact ih reply hn

end Work

/-! ## Replies that are alike -/

/-- Replies that operations do not tell apart: failures of the store of whatever kind and text, as
long as an insertion meets a conflict in both or in neither; and all replies to a rollback whose
deadline has not passed. -/
inductive Call.Alike : (c : Call) → c.Reply → c.Reply → Prop
  | refl {c : Call} (reply : c.Reply) : Alike c reply reply
  | fails {c : Call} {e e' : StoreError} (h : c.clashes e = c.clashes e') :
      Alike c (c.fail e) (c.fail e')
  | rollsBack {reply reply' : Call.Reply .rollback} (h : reply ≠ .error .expired)
      (h' : reply' ≠ .error .expired) : Alike .rollback reply reply'

namespace Exchange

open Dialogue (Party)

variable {α β τ : Type}

/-- An operation that goes on in the same way after replies that are alike. -/
inductive Blind : Exchange α → Prop
  | done (a : α) : Blind (.done a)
  | ask {c : Call} {next : c.Reply → Exchange α}
      (same : ∀ reply reply', c.Alike reply reply' → next reply = next reply')
      (h : ∀ reply, Blind (next reply)) : Blind (.ask c next)

namespace Blind

theorem bind {d : Exchange α} {f : α → Exchange β} (hd : d.Blind) (hf : ∀ a, (f a).Blind) :
    (d >>= f).Blind := by
  induction hd with
  | done a => exact hf a
  | ask same _ ih =>
    exact .ask (fun reply reply' h => congrArg (· >>= f) (same reply reply' h)) ih

/-- It tells no two surroundings apart whose replies are alike. -/
theorem run_eq {d : Exchange α} (hd : d.Blind) {p p' : Party Call Call.Reply τ}
    (h : ∀ c t, c.Alike (p c t).1 (p' c t).1 ∧ (p c t).2 = (p' c t).2) (t : τ) :
    d.run p t = d.run p' t := by
  induction hd generalizing t with
  | done => rfl
  | @ask c next same _ ih =>
    obtain ⟨alike, left⟩ := h c t
    rw [Dialogue.run_ask, Dialogue.run_ask, ← left, ← same _ _ alike]
    exact ih _ _

/-- How a unit ends, but for the failure of the store that ended it. -/
theorem settle (op : Operation) (outcome : Except Failure α) : (settle op outcome).Blind := by
  have ends (next : Call.Reply .rollback → Exchange (Except Error α)) (e : Error)
      (hok : next (.ok ()) = .done (.error e))
      (hfail : ∀ x, next (.error (.failed x)) = .done (.error e))
      (late : ∃ y, next (.error .expired) = .done y) : Blind (.ask .rollback next) := by
    have timely : ∀ reply, reply ≠ .error .expired → next reply = .done (.error e) := by
      rintro ((x | _) | _) hr
      · exact hfail x
      · exact absurd rfl hr
      · exact hok
    refine .ask (fun reply reply' h => ?_) fun reply => ?_
    · cases h with
      | refl => rfl
      | fails => exact (hfail _).trans (hfail _).symm
      | rollsBack h h' => rw [timely _ h, timely _ h']
    · by_cases hr : reply = .error .expired
      · obtain ⟨y, hy⟩ := late
        rw [hr, hy]
        exact .done y
      · rw [timely _ hr]
        exact .done _
  match outcome with
  | .ok a =>
    refine .ask (fun reply reply' h => ?_) fun reply => ?_
    · cases h <;> rfl
    · match reply with
      | .ok () | .error _ => exact .done _
  | .error .expired => exact .done _
  | .error (.rule e) | .error (.store e) => exact ends _ _ rfl (fun _ => rfl) ⟨_, rfl⟩

/-- A unit of discreet work. -/
theorem unit (op : Operation) (limit : Option Nat) {taken : Error} {w : Work α}
    (hw : Work.Discreet taken w.run) :
    (inUnit op limit w).Blind := by
  have work : (w.exchange >>= Scrip.settle op).Blind := by
    unfold Work.exchange
    generalize w.run = d at hw
    induction hw with
    | done outcome => exact settle op outcome
    | @ask r next stops _ ih =>
      refine .ask (fun reply reply' h => ?_) ih
      cases h with
      | refl => rfl
      | @fails _ e e' h =>
        show (next (.error (.failed e))).embed _ _ >>= _ =
          (next (.error (.failed e'))).embed _ _ >>= _
        rw [stops e, stops e', Request.failure, Request.failure,
          ← show r.clashes e = r.clashes e' from h]
        split <;> rfl
  refine .ask (fun reply reply' h => ?_) fun reply => ?_
  · cases h <;> rfl
  · match reply with
    | .ok () => exact work
    | .error (.failed _) | .error .expired => exact .done _

end Blind

/-! ## Units one after another -/

/-- Units of discreet work one after another, each for its operation. What comes after a unit
passes on that it failed. -/
inductive Discreet : List Operation → Exchange (Except Error α) → Prop
  | done {ops : List Operation} (outcome : Except Error α) : Discreet ops (.done outcome)
  | unit {β : Type} {ops : List Operation} (op : Operation) (limit : Option Nat) {w : Work β}
      {f : Except Error β → Exchange (Except Error α)} (hw : ∃ taken, Work.Discreet taken w.run)
      (stops : ∀ label, f (.error (.operationFailed label)) =
        .done (.error (.operationFailed label)))
      (hf : ∀ outcome, Discreet ops (f outcome)) : Discreet (op :: ops) (inUnit op limit w >>= f)

/-- How many units were asked for. -/
def opened (log : List Exchanged) : Nat :=
  log.countP fun x => x.1 matches .begin _

theorem opened_append (log log' : List Exchanged) :
    opened (log ++ log') = opened log + opened log' :=
  List.countP_append

theorem opened_begin (limit : Option Nat) (reply : Call.Reply (.begin limit))
    (log : List Exchanged) : opened (⟨.begin limit, reply⟩ :: log) = opened log + 1 :=
  List.countP_cons_of_pos rfl

namespace Discreet

variable {ops : List Operation} {d : Exchange (Except Error α)}

/-- What is done with the value of an operation. -/
theorem map (hd : Discreet ops d) (f : α → β) :
    Discreet ops (d >>= fun outcome => pure (outcome.map f)) := by
  induction hd with
  | done => exact .done _
  | unit op limit hw stops _ ih =>
    rw [Dialogue.bind_assoc]
    refine .unit op limit hw (fun label => ?_) ih
    rw [stops]
    rfl

theorem blind (hd : Discreet ops d) : d.Blind := by
  induction hd with
  | done outcome => exact .done outcome
  | unit op limit hw _ _ ih => exact (Blind.unit op limit hw.choose_spec).bind ih

end Discreet

end Exchange

/-! ## The store fails -/

namespace Course

variable {β : Type} {op : Operation} {limit : Option Nat} {w : Work β}
  {log before after : List Exchanged} {yield : Except Error β} {c : Call} {e : StoreError}
  {taken : Error}

theorem opened_of_leads {body : List Exchanged} {outcome : Except Failure β}
    (hw : w.exchange.Leads body (.done outcome)) : Exchange.opened body = 0 := by
  refine List.countP_eq_zero.mpr fun x hx => ?_
  obtain ⟨r, hr⟩ := Work.within_of_leads hw x hx
  rw [hr]
  exact Bool.false_ne_true

theorem ne_nil (h : Course op limit w log yield) : log ≠ [] := by
  cases h <;> exact List.cons_ne_nil _ _

/-- One unit is asked for, and at once. -/
theorem opened_eq_one {start rest : List Exchanged} (h : Course op limit w log yield)
    (hl : start ++ rest = log) (hs : start ≠ []) : Exchange.opened start = 1 := by
  have once : ∃ reply more, log = ⟨.begin limit, reply⟩ :: more ∧ Exchange.opened more = 0 := by
    have last {body : List Exchanged} {outcome : Except Failure β}
        (hw : w.exchange.Leads body (.done outcome)) (x : Exchanged)
        (hx : Exchange.opened [x] = 0) : Exchange.opened (body ++ [x]) = 0 := by
      rw [Exchange.opened_append, opened_of_leads hw, hx]
    cases h with
    | beginsNot | beginsLate => exact ⟨_, [], rfl, rfl⟩
    | expires hw => exact ⟨_, _, rfl, opened_of_leads hw⟩
    | commits hw | commitsNot hw | rollsBack hw | rollsBackLate hw =>
      exact ⟨_, _, rfl, last hw _ rfl⟩
  obtain ⟨reply, more, rfl, hmore⟩ := once
  obtain ⟨x, start, rfl⟩ := List.exists_cons_of_ne_nil hs
  obtain ⟨rfl, hrest⟩ := List.cons.inj hl
  rw [← hrest, List.append_eq, Exchange.opened_append, Nat.add_eq_zero_iff] at hmore
  rw [Exchange.opened_begin, hmore.1]

/-- When the store fails a call, but not a rollback, a unit of discreet work fails. -/
theorem failed (h : Course op limit w log yield) (hw : Work.Discreet taken w.run)
    (hl : log = before ++ ⟨c, c.fail e⟩ :: after) (hc : c ≠ .rollback)
    (timely : ⟨.rollback, .error .expired⟩ ∉ after) :
    yield = .error ((c.failure taken e).toError op) := by
  have hx : ⟨c, c.fail e⟩ ∈ log := hl ▸ List.mem_append_right _ List.mem_cons_self
  -- Inside the unit the call is a request, and was the last one.
  have inside {body : List Exchanged} {outcome : Except Failure β} (rest : List Exchanged)
      (hb : w.exchange.Leads body (.done outcome))
      (hx : ⟨c, c.fail e⟩ ∈ (⟨.begin limit, .ok ()⟩ :: body ++ rest : List Exchanged))
      (hr : ⟨c, c.fail e⟩ ∉ rest) : outcome = .error (c.failure taken e) := by
    rcases List.mem_append.mp hx with hx | hx
    · rcases List.mem_cons.mp hx with hx | hx
      · cases hx
      · obtain ⟨before, after, rfl⟩ := List.append_of_mem hx
        exact (hw.failed hb).2
    · exact absurd hx hr
  have own : c.failure taken e ≠ .expired := by
    unfold Call.failure
    split <;> exact nofun
  have aside (reply : Call.Reply .rollback) : ⟨c, c.fail e⟩ ∉ [(⟨.rollback, reply⟩ : Exchanged)] :=
    fun hx => by
      cases List.mem_singleton.mp hx
      exact hc rfl
  cases h with
  | beginsNot e' =>
    cases List.mem_singleton.mp hx
    rfl
  | beginsLate => cases List.mem_singleton.mp hx
  | commits hb => cases inside _ hb hx fun hx => by cases List.mem_singleton.mp hx
  | commitsNot hb e' =>
    rcases List.mem_append.mp hx with hx | hx
    · cases inside [] hb (by rwa [List.append_nil]) List.not_mem_nil
    · cases List.mem_singleton.mp hx
      rfl
  | expires hb =>
    have ended := inside [] hb (by rwa [List.append_nil]) List.not_mem_nil
    exact absurd (Except.error.inj ended).symm own
  | rollsBack hb => rw [Except.error.inj (inside _ hb hx (aside _))]
  | rollsBackLate =>
    -- The rollback came last, so after the call that failed.
    have last := congrArg List.getLast? hl
    rw [List.getLast?_concat, List.getLast?_append_cons] at last
    rcases List.mem_cons.mp (List.mem_of_getLast? last.symm) with hr | hr
    · cases hr
    · exact absurd hr timely

end Course

namespace Exchange

variable {α : Type} {ops : List Operation} {d : Exchange (Except Error α)}
  {log before after : List Exchanged} {outcome : Except Error α} {c : Call} {e : StoreError}

/-- An operation is over when the store fails, but for a rollback and an insertion that meets a
conflict. All that it tells is which of its units failed. -/
theorem Discreet.failed (hd : Discreet ops d) (h : d.Leads log (.done outcome))
    (hl : log = before ++ ⟨c, c.fail e⟩ :: after) (hc : c ≠ .rollback)
    (he : c.clashes e = false) (timely : ⟨.rollback, .error .expired⟩ ∉ after) :
    ∃ n op, opened (before ++ [⟨c, c.fail e⟩]) = n + 1 ∧ ops[n]? = some op ∧
      outcome = .error (.operationFailed op.label) := by
  induction hd generalizing log before with
  | done =>
    rw [h.of_done.1] at hl
    exact absurd hl.symm (List.append_ne_nil_of_right_ne_nil _ (List.cons_ne_nil _ _))
  | @unit β ops op limit w f hw stops _ ih =>
    obtain ⟨taken, hw⟩ := hw
    obtain ⟨xs, yield, ys, rfl, hx, hy⟩ := Dialogue.Leads.of_bind h
    have course := Course.of_leads hx
    have later (log' : List Exchanged) (hb : before = xs ++ log')
        (hys : ys = log' ++ ⟨c, c.fail e⟩ :: after) :
        ∃ n op', opened (before ++ [⟨c, c.fail e⟩]) = n + 1 ∧ (op :: ops)[n]? = some op' ∧
          outcome = .error (.operationFailed op'.label) := by
      obtain ⟨n, op', hn, hop, ho⟩ := ih yield hy hys
      refine ⟨n + 1, op', ?_, hop, ho⟩
      have first := course.opened_eq_one (List.append_nil xs) course.ne_nil
      rw [hb, List.append_assoc, opened_append, first, hn, Nat.add_comm]
    rcases List.append_eq_append_iff.mp hl with ⟨log', hb, hys⟩ | ⟨rest, hxs, hr⟩
    · exact later log' hb hys
    · cases rest with
      | nil => exact later [] (by simpa using hxs.symm) hr.symm
      | cons x rest =>
        obtain ⟨rfl, rfl⟩ := List.cons.inj hr
        have failed := course.failed hw hxs hc fun hr => timely (List.mem_append_left _ hr)
        rw [Call.failure, he, if_neg Bool.false_ne_true, Failure.toError] at failed
        rw [failed, stops] at hy
        refine ⟨0, op, ?_, rfl, Dialogue.done.inj hy.of_done.2⟩
        have split : (before ++ [⟨c, c.fail e⟩]) ++ rest = xs := by rw [hxs, List.append_assoc]; rfl
        exact course.opened_eq_one split
          (List.append_ne_nil_of_right_ne_nil _ (List.cons_ne_nil _ _))

end Exchange

end Scrip
