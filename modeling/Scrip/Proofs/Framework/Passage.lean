import Mathlib.Data.List.Basic
import Mathlib.Data.List.Induction
import Scrip.Proofs.Framework.Composed
import Scrip.Proofs.Framework.Leads

/-!
# The units that an operation went through

What was said in an operation is what was said in its units, one after another
(`Composed.through`). For each of them the deadline is all or nothing
(`Course.allOrNothing`): if it passes nothing is committed, and once the work is done only the
commit decides.

A unit that writes and is committed is the last one, and its value is what the operation yields.
So an operation that is over because a deadline passed has committed only what it read
(`Composed.untouched`).
-/

namespace Scrip

open Work (Proper)

/-- A unit that an operation went through: what was to be done in it, what was said and what it
yielded. -/
structure Passage where
  {β : Type}
  op : Operation
  work : Work β
  log : List Exchanged
  yield : Except Error β

/-- The deadline of a unit is all or nothing. -/
structure Passage.AllOrNothing (limit : Option Nat) (p : Passage) : Prop where
  /-- It passes only if there is one, and then no commit was asked for. -/
  timeout : ∀ label, p.yield = .error (.timeout label) →
    limit ≠ none ∧ label = p.op.label ∧ ∀ x ∈ p.log, x.1 ≠ .commit
  /-- Once the work has its value the commit is awaited, and decides what the unit yields. -/
  commit : ∀ body a, p.work.exchange.Leads body (.done (.ok a)) →
    ⟨.begin limit, .ok ()⟩ :: body <+: p.log → ∃ reply : Call.Reply .commit,
      p.log = ⟨.begin limit, .ok ()⟩ :: body ++ [⟨.commit, reply⟩] ∧
      p.yield = (reply.map fun _ => a).mapError fun _ => .operationFailed p.op.label

/-- A unit was opened, and nothing was written in it so far. -/
inductive Untouched : List Exchanged → Prop
  | opens (log : List Exchanged) (limit : Option Nat) : Untouched (log ++ [⟨.begin limit, .ok ()⟩])
  | reads {log : List Exchanged} {r : Request} {reply : r.Reply} (h : Untouched log)
      (hr : r.isWrite = false) : Untouched (log ++ [⟨.within r, reply⟩])

namespace Untouched

variable {log : List Exchanged}

theorem of_snoc {x : Exchanged} (h : Untouched (log ++ [x])) :
    (∃ limit, x = ⟨.begin limit, .ok ()⟩) ∨
      Untouched log ∧ ∃ r reply, x = ⟨.within r, reply⟩ ∧ r.isWrite = false := by
  generalize hl : log ++ [x] = log' at h
  cases h with
  | opens log' limit =>
    obtain ⟨-, hx⟩ := List.append_inj' hl rfl
    exact .inl ⟨limit, (List.cons.inj hx).1⟩
  | @reads log' r reply h hr =>
    obtain ⟨rfl, hx⟩ := List.append_inj' hl rfl
    exact .inr ⟨h, r, reply, (List.cons.inj hx).1, hr⟩

theorem prepend (h : Untouched log) (log' : List Exchanged) : Untouched (log' ++ log) := by
  induction h with
  | opens log limit =>
    rw [← List.append_assoc]
    exact .opens ..
  | reads _ hr ih =>
    rw [← List.append_assoc]
    exact .reads ih hr

/-- A unit that only read. -/
theorem of_reads {body : List Exchanged} (limit : Option Nat)
    (h : ∀ x ∈ body, ∃ r, x.1 = .within r ∧ r.isWrite = false) :
    Untouched (⟨.begin limit, .ok ()⟩ :: body) := by
  induction body using List.reverseRecOn with
  | nil => exact .opens [] limit
  | append_singleton body x ih =>
    obtain ⟨hbody, hx⟩ := List.forall_mem_append.mp h
    obtain ⟨c, reply⟩ := x
    obtain ⟨r, rfl, hr⟩ := List.forall_mem_singleton.mp hx
    rw [← List.cons_append]
    exact .reads (ih hbody) hr

end Untouched

/-! ## One unit -/

namespace Course

variable {β : Type} {asks : Request → Prop} {op : Operation} {limit : Option Nat} {w : Work β}
  {log before after : List Exchanged} {yield : Except Error β}

/-- No commit is among the requests of the work. -/
theorem no_commit {body : List Exchanged} {outcome : Except Failure β} (h : Proper asks w.run)
    (hw : w.exchange.Leads body (.done outcome)) (x : Exchanged) (hx : x ∈ body) :
    x.1 ≠ .commit := by
  obtain ⟨r, hr, -⟩ := h.asked hw x hx
  rw [hr]
  exact nofun

/-- No commit was asked for in a unit whose deadline passed, and a deadline did pass. -/
theorem timeout {label : String} (h : Course op limit w log yield) (proper : Proper asks w.run)
    (hy : yield = .error (.timeout label)) :
    (∃ x ∈ log, x.IsLate) ∧ label = op.label ∧ ∀ x ∈ log, x.1 ≠ .commit := by
  cases h with
  | beginsNot | commits | commitsNot => cases hy
  | beginsLate =>
    cases hy
    exact ⟨⟨_, List.mem_singleton_self _, rfl⟩, rfl, List.forall_mem_singleton.mpr nofun⟩
  | expires hw =>
    cases hy
    rcases proper.failed hw with own | ⟨-, x, hx, late⟩
    · exact own.elim
    · exact ⟨⟨x, List.mem_cons_of_mem _ hx, late⟩, rfl,
        List.forall_mem_cons.mpr ⟨nofun, no_commit proper hw⟩⟩
  | @rollsBack body f hw hf reply hr =>
    rcases proper.failed hw with own | ⟨he, -⟩
    · cases f with
      | rule e =>
        cases hy
        cases own
      | store e => cases hy
      | expired => exact own.elim
    · exact absurd he hf
  | rollsBackLate hw hf =>
    cases hy
    refine ⟨⟨_, List.mem_append_right _ (List.mem_singleton_self _), rfl⟩, rfl, ?_⟩
    refine List.forall_mem_append.mpr ⟨?_, List.forall_mem_singleton.mpr nofun⟩
    exact List.forall_mem_cons.mpr ⟨nofun, no_commit proper hw⟩

/-- Once the work has its value the commit is awaited, and decides what the unit yields. -/
theorem commit {body : List Exchanged} {a : β} (h : Course op limit w log yield)
    (hw : w.exchange.Leads body (.done (.ok a))) (hb : ⟨.begin limit, .ok ()⟩ :: body <+: log) :
    ∃ reply : Call.Reply .commit, log = ⟨.begin limit, .ok ()⟩ :: body ++ [⟨.commit, reply⟩] ∧
      yield = (reply.map fun _ => a).mapError fun _ => .operationFailed op.label := by
  obtain ⟨rest, hl⟩ := hb
  cases h with
  | beginsNot | beginsLate => cases (List.cons.inj hl).1
  | commits hw' =>
    obtain ⟨rfl, ha⟩ := hw.unique hw' (List.cons.inj hl).2
    cases ha
    exact ⟨.ok (), rfl, rfl⟩
  | commitsNot hw' e =>
    obtain ⟨rfl, ha⟩ := hw.unique hw' (List.cons.inj hl).2
    exact ⟨.error e, rfl, rfl⟩
  | expires hw' =>
    have ended := (List.cons.inj hl).2.trans (List.append_nil _).symm
    cases (hw.unique hw' ended).2
  | rollsBack hw' | rollsBackLate hw' => cases (hw.unique hw' (List.cons.inj hl).2).2

theorem allOrNothing (h : Course op limit w log yield) (proper : Proper asks w.run)
    (limited : (∃ x ∈ log, x.IsLate) → limit ≠ none) :
    Passage.AllOrNothing limit ⟨op, w, log, yield⟩ where
  timeout label hy := by
    obtain ⟨late, same, quiet⟩ := h.timeout proper hy
    exact ⟨limited late, same, quiet⟩
  commit body a hw hb := h.commit hw hb

/-- All units begin under the limit. -/
theorem limit_eq (h : Course op limit w log yield) (proper : Proper asks w.run)
    {limit' : Option Nat} {reply : Call.Reply (.begin limit')}
    (hx : ⟨.begin limit', reply⟩ ∈ log) : limit' = limit := by
  have apart {body : List Exchanged} {outcome : Except Failure β}
      (hw : w.exchange.Leads body (.done outcome)) : ⟨.begin limit', reply⟩ ∉ body := fun hx => by
    obtain ⟨r, hr, -⟩ := proper.asked hw _ hx
    cases hr
  cases h with
  | beginsNot | beginsLate =>
    cases List.mem_singleton.mp hx
    rfl
  | expires hw =>
    rcases List.mem_cons.mp hx with hx | hx
    · cases hx
      rfl
    · exact absurd hx (apart hw)
  | commits hw | commitsNot hw | rollsBack hw | rollsBackLate hw =>
    rcases List.mem_cons.mp hx with hx | hx
    · cases hx
      rfl
    · rcases List.mem_append.mp hx with hx | hx
      · exact absurd hx (apart hw)
      · cases List.mem_singleton.mp hx

/-- A unit is committed after its work. -/
theorem of_commit (h : Course op limit w (before ++ ⟨.commit, .ok ()⟩ :: after) yield)
    (proper : Proper asks w.run) : ∃ body a, before = ⟨.begin limit, .ok ()⟩ :: body ∧
      yield = .ok a ∧ w.exchange.Leads body (.done (.ok a)) := by
  generalize hl : before ++ ⟨.commit, .ok ()⟩ :: after = log at h
  have hx : ⟨.commit, .ok ()⟩ ∈ log := hl ▸ List.mem_append_right _ List.mem_cons_self
  have apart {body : List Exchanged} {outcome : Except Failure β}
      (hw : w.exchange.Leads body (.done outcome)) :
      ⟨.commit, .ok ()⟩ ∉ (⟨.begin limit, .ok ()⟩ :: body : List Exchanged) := fun hx => by
    rcases List.mem_cons.mp hx with hx | hx
    · cases hx
    · exact no_commit proper hw _ hx rfl
  cases h with
  | beginsNot | beginsLate => cases List.mem_singleton.mp hx
  | expires hw => exact absurd hx (apart hw)
  | commitsNot hw | rollsBack hw | rollsBackLate hw =>
    rcases List.mem_append.mp hx with hx | hx
    · exact absurd hx (apart hw)
    · cases List.mem_singleton.mp hx
  | @commits body a hw =>
    obtain ⟨rfl, -⟩ :=
      (List.append_cons_inj_of_notMem (apart hw) List.not_mem_nil).mp hl.symm
    exact ⟨body, a, rfl, rfl, hw⟩

end Course

/-! ## All units of an operation -/

namespace Exchange

variable {α β : Type} {limit : Option Nat} {part : (β : Type) → Work β → Prop}
  {d : Exchange (Except Error α)} {log before after : List Exchanged} {passages : List Passage}
  {outcome : Except Error α}

/-- An operation goes through units, each time on from what the unit yielded, until it has its
outcome. -/
inductive Through (limit : Option Nat) :
    Exchange (Except Error α) → List Passage → Except Error α → Prop
  | ends (outcome : Except Error α) : Through limit (.done outcome) [] outcome
  | unit {p : Passage} {f : Except Error p.β → Exchange (Except Error α)} {rest : List Passage}
      {outcome : Except Error α} (h : (inUnit p.op limit p.work).Leads p.log (.done p.yield))
      (hf : Through limit (f p.yield) rest outcome) :
      Through limit (inUnit p.op limit p.work >>= f) (p :: rest) outcome

theorem Through.leads (h : d.Through limit passages outcome) :
    ∀ p ∈ passages, (inUnit p.op limit p.work).Leads p.log (.done p.yield) := by
  induction h with
  | ends => exact List.forall_mem_nil _
  | unit h _ ih => exact List.forall_mem_cons.mpr ⟨h, ih⟩

namespace Composed

/-- What was said in an operation was said in units, and if it is over because a deadline passed
this was in the last one. -/
theorem through (hd : d.Composed limit part) (h : d.Leads log (.done outcome)) :
    ∃ passages, d.Through limit passages outcome ∧ log = passages.flatMap (·.log) ∧
      (∀ p ∈ passages, part p.β p.work) ∧ ∀ label, outcome = .error (.timeout label) →
        ∃ p ∈ passages.getLast?, p.yield = .error (.timeout label) := by
  induction hd generalizing log with
  | done timely =>
    obtain ⟨rfl, hd⟩ := h.of_done
    cases hd
    exact ⟨[], .ends _, rfl, List.forall_mem_nil _, fun label ho => absurd ho (timely label)⟩
  | @unit β op w f hw stops last _ ih =>
    obtain ⟨xs, yield, ys, rfl, hx, hy⟩ := Dialogue.Leads.of_bind h
    rcases timely_or yield with ⟨label, rfl⟩ | timely
    · rw [stops] at hy
      obtain ⟨rfl, hd⟩ := hy.of_done
      cases hd
      let p : Passage := ⟨op, w, xs, .error (.timeout label)⟩
      refine ⟨[p], .unit (p := p) hx ?_, ?_, ?_, ?_⟩
      · exact (stops label).symm ▸ .ends _
      · exact (List.flatMap_singleton (·.log) p).symm ▸ List.append_nil xs
      · exact List.forall_mem_singleton.mpr hw
      · intro label' ho
        cases ho
        exact ⟨p, rfl, rfl⟩
    · obtain ⟨passages, hthrough, rfl, hparts, hlast⟩ := ih yield timely hy
      refine ⟨⟨op, w, xs, yield⟩ :: passages, .unit (p := ⟨op, w, xs, yield⟩) hx hthrough, rfl,
        List.forall_mem_cons.mpr ⟨hw, hparts⟩, fun label ho => ?_⟩
      obtain ⟨p, hp, hyield⟩ := hlast label ho
      exact ⟨p, by rw [List.getLast?_cons, hp]; rfl, hyield⟩

/-- What was committed before the deadline passed was only read. -/
theorem untouched {label : String} (hd : d.Composed limit part)
    (proper : ∀ β (w : Work β), part β w → Proper (fun _ => True) w.run)
    (h : d.Leads (before ++ ⟨.commit, .ok ()⟩ :: after) (.done (.error (.timeout label)))) :
    Untouched before := by
  induction hd generalizing before with
  | done timely =>
    cases h.of_done.2
    exact absurd rfl (timely label)
  | @unit β op w f hw stops last _ ih =>
    obtain ⟨xs, yield, ys, hl, hx, hy⟩ := Dialogue.Leads.of_bind h
    have later (log : List Exchanged) (hb : before = xs ++ log)
        (hlog : ys = log ++ ⟨.commit, .ok ()⟩ :: after) : Untouched before := by
      subst hb hlog
      rcases timely_or yield with ⟨label', rfl⟩ | timely
      · rw [stops] at hy
        exact absurd hy.of_done.1 (List.append_ne_nil_of_right_ne_nil _ (List.cons_ne_nil _ _))
      · exact (ih yield timely hy).prepend xs
    rcases List.append_eq_append_iff.mp hl with ⟨rest, hxs, hr⟩ | ⟨log, hb, hlog⟩
    · cases rest with
      | nil => exact later [] (hxs.trans (List.append_nil _) ▸ (List.append_nil _).symm) hr.symm
      | cons _ rest =>
        -- The unit committed, and it is not the one after whose value the operation is over.
        obtain ⟨rfl, rfl⟩ := List.cons.inj hr
        subst hxs
        obtain ⟨body, a, rfl, rfl, hbody⟩ := (Course.of_leads hx).of_commit (proper _ _ hw)
        rcases last with reads | last
        · exact .of_reads limit (reads.asked hbody)
        · obtain ⟨a', ha'⟩ := last a
          rw [ha'] at hy
          cases hy.of_done.2
    · exact later log hb hlog

end Composed

end Exchange

end Scrip
