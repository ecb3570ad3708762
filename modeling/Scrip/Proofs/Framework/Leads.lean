import Scrip.Proofs.Concurrency.Serial
import Scrip.Proofs.Framework.Proper

/-!
# What was said in a dialogue

A dialogue comes to what is left of it by questions and their answers (`Dialogue.Leads`). These
lemmas read such a list backwards:

* `Leads.of_bind`: it is what was said in one dialogue and then in the next;
* `Leads.unique`: one dialogue does not end at two places of a list;
* `Work.leads_bind`, `Work.leads_call`: what was said in work, step by step;
* `Course.of_leads`: how a unit can go, from its beginning to its end.
-/

namespace Scrip

namespace Dialogue

variable {Question : Type} {Answer : Question → Type} {α β : Type}

/-- Questions and their answers lead from a dialogue to what is left of it. -/
inductive Leads : Dialogue Question Answer α → List ((q : Question) × Answer q) →
    Dialogue Question Answer α → Prop
  | refl (d : Dialogue Question Answer α) : Leads d [] d
  | ask {q : Question} {next : Answer q → Dialogue Question Answer α} {a : Answer q}
      {log : List ((q : Question) × Answer q)} {d : Dialogue Question Answer α}
      (h : Leads (next a) log d) : Leads (.ask q next) (⟨q, a⟩ :: log) d

namespace Leads

variable {d d' : Dialogue Question Answer α} {log xs ys us vs : List ((q : Question) × Answer q)}
  {a b : α}

theorem snoc {q : Question} {next : Answer q → Dialogue Question Answer α}
    (h : d.Leads log (.ask q next)) (answer : Answer q) :
    d.Leads (log ++ [⟨q, answer⟩]) (next answer) := by
  generalize hd : Dialogue.ask q next = d' at h
  induction h with
  | refl => exact hd ▸ .ask (.refl _)
  | ask _ ih => exact .ask (ih hd)

theorem of_done (h : (Dialogue.done a).Leads log d) : log = [] ∧ d = .done a := by
  cases h
  exact ⟨rfl, rfl⟩

theorem of_ask {q : Question} {next : Answer q → Dialogue Question Answer α}
    (h : (Dialogue.ask q next).Leads log (.done a)) :
    ∃ answer rest, log = ⟨q, answer⟩ :: rest ∧ (next answer).Leads rest (.done a) := by
  cases h with
  | ask h => exact ⟨_, _, rfl, h⟩

/-- What was said in one dialogue and then in the next. -/
theorem of_bind {d : Dialogue Question Answer α} {f : α → Dialogue Question Answer β} {b : β}
    (h : (d >>= f).Leads log (.done b)) : ∃ xs a ys, log = xs ++ ys ∧ d.Leads xs (.done a) ∧
      (f a).Leads ys (.done b) := by
  induction d generalizing log with
  | done a => exact ⟨[], a, log, rfl, .refl _, h⟩
  | ask q next ih =>
    obtain ⟨answer, rest, rfl, hn⟩ := of_ask h
    obtain ⟨xs, a, ys, rfl, hd, hf⟩ := ih answer hn
    exact ⟨_ :: xs, a, ys, rfl, .ask hd, hf⟩

/-- Of what was said only one part, from the beginning, is a dialogue to its end. -/
theorem unique (h : d.Leads xs (.done a)) (h' : d.Leads ys (.done b)) (he : xs ++ us = ys ++ vs) :
    xs = ys ∧ a = b := by
  induction d generalizing xs ys with
  | done c =>
    obtain ⟨rfl, ha⟩ := h.of_done
    obtain ⟨rfl, hb⟩ := h'.of_done
    exact ⟨rfl, Dialogue.done.inj (ha.trans hb.symm)⟩
  | ask q next ih =>
    obtain ⟨answer, xs, rfl, hx⟩ := h.of_ask
    obtain ⟨answer', ys, rfl, hy⟩ := h'.of_ask
    obtain ⟨same, rest⟩ := List.cons.inj he
    cases same
    obtain ⟨rfl, ha⟩ := ih answer hx hy rest
    exact ⟨rfl, ha⟩

end Leads

end Dialogue

/-! ## Units -/

/-- A call with what came back for it. -/
abbrev Exchanged : Type :=
  (c : Call) × c.Reply

/-- Whether the deadline passed at a call. -/
def Exchanged.IsLate (x : Exchanged) : Prop :=
  x.1.expired? = some x.2

namespace Work

open Dialogue (Leads)

variable {α β : Type} {asks : Request → Prop} {w : Work α} {body : List Exchanged}
  {outcome : Except Failure α}

/-- Work and what comes after it, as seen from the storage. -/
theorem exchange_bind (w : Work α) (f : α → Work β) :
    (w >>= f).exchange = w.exchange >>= fun outcome => match outcome with
      | .ok a => (f a).exchange
      | .error failure => .done (.error failure) := by
  show (w.run >>= ExceptT.bindCont f).embed _ _ = w.run.embed _ _ >>= _
  generalize w.run = d
  induction d with
  | done outcome => cases outcome <;> rfl
  | ask r next ih =>
    exact congrArg (Dialogue.ask (Call.within r)) (funext ih)

/-- What was said in work is said before it failed, or before its value and after that. -/
theorem leads_bind {f : α → Work β} {outcome : Except Failure β}
    (h : (w >>= f).exchange.Leads body (.done outcome)) :
    (∃ failure, w.exchange.Leads body (.done (.error failure)) ∧ outcome = .error failure) ∨
      ∃ a xs ys, body = xs ++ ys ∧ w.exchange.Leads xs (.done (.ok a)) ∧
        (f a).exchange.Leads ys (.done outcome) := by
  rw [exchange_bind] at h
  obtain ⟨xs, result, ys, rfl, hx, hy⟩ := Leads.of_bind h
  cases result with
  | ok a => exact .inr ⟨a, xs, ys, rfl, hx, hy⟩
  | error failure =>
    obtain ⟨rfl, hd⟩ := Leads.of_done hy
    cases hd
    exact .inl ⟨failure, (List.append_nil xs).symm ▸ hx, rfl⟩

/-- A request is asked once, and its work has a value just if it was answered. -/
theorem leads_call {r : Request} {outcome : Except Failure r.Answer}
    (h : (Work.call r).exchange.Leads body (.done outcome)) :
    ∃ reply : r.Reply, body = [⟨.within r, reply⟩] ∧
      ∀ a, outcome = .ok a ↔ reply = .ok a := by
  obtain ⟨reply, rest, rfl, hn⟩ := Leads.of_ask h
  refine ⟨reply, ?_⟩
  match reply, hn with
  | .ok a, hn | .error (.failed e), hn | .error .expired, hn =>
    obtain ⟨rfl, hd⟩ := Leads.of_done hn
    cases hd
    exact ⟨rfl, fun a' => by simp⟩

/-- What was said inside a unit are the requests of its work. -/
theorem Proper.asked (h : Proper asks w.run) (hw : w.exchange.Leads body (.done outcome)) :
    ∀ x ∈ body, ∃ r, x.1 = .within r ∧ asks r := by
  unfold Work.exchange at hw
  generalize w.run = d at h hw
  induction h generalizing body with
  | value | failure =>
    rw [(Leads.of_done hw).1]
    exact List.forall_mem_nil _
  | @ask r next hr stops _ ih =>
    obtain ⟨reply, rest, rfl, hn⟩ := Leads.of_ask hw
    refine List.forall_mem_cons.mpr ⟨⟨r, rfl, hr⟩, ?_⟩
    by_cases he : reply = .error .expired
    · rw [he, stops] at hn
      rw [(Leads.of_done hn).1]
      exact List.forall_mem_nil _
    · exact ih reply he hn

/-- Work fails for a reason of its own, or because the deadline passed at a request. -/
theorem Proper.failed {f : Failure} (h : Proper asks w.run)
    (hw : w.exchange.Leads body (.done (.error f))) :
    f.IsOwn ∨ f = .expired ∧ ∃ x ∈ body, x.IsLate := by
  unfold Work.exchange at hw
  generalize w.run = d at h hw
  induction h generalizing body with
  | value => cases (Leads.of_done hw).2
  | failure own =>
    cases (Leads.of_done hw).2
    exact .inl own
  | @ask r next hr stops _ ih =>
    obtain ⟨reply, rest, rfl, hn⟩ := Leads.of_ask hw
    by_cases he : reply = .error .expired
    · rw [he, stops] at hn
      cases (Leads.of_done hn).2
      exact .inr ⟨rfl, _, List.mem_cons_self, congrArg some he.symm⟩
    · exact (ih reply he hn).imp_right fun ⟨hf, x, hx, late⟩ =>
        ⟨hf, x, List.mem_cons_of_mem _ hx, late⟩

end Work

section Course

variable {α : Type} {op : Operation} {limit : Option Nat} {w : Work α} {log : List Exchanged}
  {yield : Except Error α}

/-- How a unit can go: what is said in it, and what it yields. -/
inductive Course (op : Operation) (limit : Option Nat) (w : Work α) :
    List Exchanged → Except Error α → Prop
  | beginsNot (e : StoreError) :
      Course op limit w [⟨.begin limit, .error (.failed e)⟩] (.error (.operationFailed op.label))
  | beginsLate :
      Course op limit w [⟨.begin limit, .error .expired⟩] (.error (.timeout op.label))
  | commits {body : List Exchanged} {a : α} (h : w.exchange.Leads body (.done (.ok a))) :
      Course op limit w (⟨.begin limit, .ok ()⟩ :: body ++ [⟨.commit, .ok ()⟩]) (.ok a)
  | commitsNot {body : List Exchanged} {a : α} (h : w.exchange.Leads body (.done (.ok a)))
      (e : StoreError) :
      Course op limit w (⟨.begin limit, .ok ()⟩ :: body ++ [⟨.commit, .error e⟩])
        (.error (.operationFailed op.label))
  | expires {body : List Exchanged} (h : w.exchange.Leads body (.done (.error .expired))) :
      Course op limit w (⟨.begin limit, .ok ()⟩ :: body) (.error (.timeout op.label))
  | rollsBack {body : List Exchanged} {f : Failure}
      (h : w.exchange.Leads body (.done (.error f))) (hf : f ≠ .expired)
      {reply : Call.Reply .rollback} (hr : reply ≠ .error .expired) :
      Course op limit w (⟨.begin limit, .ok ()⟩ :: body ++ [⟨.rollback, reply⟩])
        (.error (f.toError op))
  | rollsBackLate {body : List Exchanged} {f : Failure}
      (h : w.exchange.Leads body (.done (.error f))) (hf : f ≠ .expired) :
      Course op limit w (⟨.begin limit, .ok ()⟩ :: body ++ [⟨.rollback, .error .expired⟩])
        (.error (.timeout op.label))

/-- A unit that fails by itself is rolled back, and its deadline may pass only then. -/
theorem exists_rollback (op : Operation) {f : Failure} (hf : f ≠ .expired) :
    ∃ next, settle op (.error f : Except Failure α) = .ask .rollback next ∧
      next (.error .expired) = .done (.error (.timeout op.label)) ∧
      ∀ reply, reply ≠ .error .expired → next reply = .done (.error (f.toError op)) := by
  have replies (next : Call.Reply .rollback → Exchange (Except Error α))
      (hok : next (.ok ()) = .done (.error (f.toError op)))
      (hfail : ∀ e, next (.error (.failed e)) = .done (.error (f.toError op))) :
      ∀ reply, reply ≠ .error .expired → next reply = .done (.error (f.toError op)) := by
    rintro ((e | _) | _) hr
    · exact hfail e
    · exact absurd rfl hr
    · exact hok
  cases f with
  | expired => exact absurd rfl hf
  | rule | store => exact ⟨_, rfl, rfl, replies _ rfl fun _ => rfl⟩

/-- A failure of its own ends a unit with a rollback. -/
theorem Course.of_settle_error {body rest : List Exchanged} {f : Failure} (hf : f ≠ .expired)
    (hw : w.exchange.Leads body (.done (.error f)))
    (h : (settle op (.error f : Except Failure α)).Leads rest (.done yield)) :
    Course op limit w (⟨.begin limit, .ok ()⟩ :: (body ++ rest)) yield := by
  obtain ⟨next, asks, expired, fails⟩ := exists_rollback (α := α) op hf
  rw [asks] at h
  obtain ⟨reply, rest, rfl, hs⟩ := h.of_ask
  by_cases late : reply = .error .expired
  · rw [late, expired] at hs
    obtain ⟨rfl, hy⟩ := hs.of_done
    cases hy
    rw [late]
    exact .rollsBackLate hw hf
  · rw [fails reply late] at hs
    obtain ⟨rfl, hy⟩ := hs.of_done
    cases hy
    exact .rollsBack hw hf late

/-- There is no other way. -/
theorem Course.of_leads (h : (inUnit op limit w).Leads log (.done yield)) :
    Course op limit w log yield := by
  obtain ⟨begun, rest, rfl, hn⟩ := h.of_ask
  match begun, hn with
  | .error (.failed e), hn =>
    obtain ⟨rfl, hy⟩ := hn.of_done
    cases hy
    exact .beginsNot e
  | .error .expired, hn =>
    obtain ⟨rfl, hy⟩ := hn.of_done
    cases hy
    exact .beginsLate
  | .ok (), hn =>
    obtain ⟨body, outcome, rest, rfl, hw, hs⟩ := Dialogue.Leads.of_bind hn
    match outcome, hw, hs with
    | .error .expired, hw, hs =>
      obtain ⟨rfl, hy⟩ := hs.of_done
      cases hy
      rw [List.append_nil]
      exact .expires hw
    | .error (.rule e), hw, hs => exact .of_settle_error (f := .rule e) nofun hw hs
    | .error (.store e), hw, hs => exact .of_settle_error (f := .store e) nofun hw hs
    | .ok a, hw, hs =>
      obtain ⟨reply, rest, rfl, hr⟩ := hs.of_ask
      match reply, hr with
      | .ok (), hr =>
        obtain ⟨rfl, hy⟩ := hr.of_done
        cases hy
        exact .commits hw
      | .error e, hr =>
        obtain ⟨rfl, hy⟩ := hr.of_done
        cases hy
        exact .commitsNot hw e

end Course

end Scrip
