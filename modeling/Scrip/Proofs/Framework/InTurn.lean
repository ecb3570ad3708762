import Scrip.Proofs.Framework.Bracketed
import Scrip.Proofs.Framework.Composed
import Scrip.Proofs.Framework.Faults

/-!
# Units one at a time

An operation opens a unit only while it has none open, asks for something only inside of it, and
has none open in the end (`Composed.inTurn`). A storage of which no one else has opened a unit
answers such calls at once, so no deadline passes unless it is made to (`Composed.timely`).
-/

namespace Scrip

open Dialogue (Lawful)
open Work (Proper)

namespace InTurn

/-- What is called while a unit is open, and while none is. -/
def Asks (inside : Bool) : Call → Prop
  | .begin _ => inside = false
  | .within _ | .commit | .rollback => inside = true

/-- What comes back as long as no deadline passes, and whether a unit is open then. -/
inductive May : Bool → (c : Call) → c.Reply → Bool → Prop
  | begins {limit : Option Nat} : May false (.begin limit) (.ok ()) true
  | beginsNot {limit : Option Nat} (e : StoreError) :
      May false (.begin limit) (.error (.failed e)) false
  | within {r : Request} {reply : r.Reply} (timely : reply ≠ .error .expired) :
      May true (.within r) reply true
  | commits (reply : Call.Reply .commit) : May true .commit reply false
  | rollsBack {reply : Call.Reply .rollback} (timely : reply ≠ .error .expired) :
      May true .rollback reply false

theorem May.timely {inside inside' : Bool} {c : Call} {reply : c.Reply}
    (h : May inside c reply inside') : ¬ Exchanged.IsLate ⟨c, reply⟩ := by
  intro late
  cases h with
  | begins | beginsNot | commits => cases late
  | within timely | rollsBack timely => exact timely (Option.some.inj late).symm

end InTurn

open InTurn (Asks May)

/-! ## Operations -/

section Operations

variable {α : Type} {asks : Request → Prop} {w : Work α}

theorem Failure.IsOwn.toError_ne_timeout {f : Failure} (own : f.IsOwn) (op : Operation)
    (label : String) : f.toError op ≠ .timeout label := by
  intro h
  cases f with
  | rule e =>
    obtain rfl : e = .timeout label := h
    cases own
  | store => cases h
  | expired => exact own

/-- The requests of a unit are made inside of it. -/
theorem Work.Proper.inTurn (h : Proper asks w.run) :
    Lawful Asks May w.exchange true fun outcome inside =>
      inside = true ∧ ∀ f, outcome = .error f → f.IsOwn := by
  unfold Work.exchange
  generalize w.run = d at h
  induction h with
  | value => exact .done ⟨rfl, nofun⟩
  | failure own => exact .done ⟨rfl, fun f hf => Except.error.inj hf ▸ own⟩
  | ask _ _ _ ih =>
    refine .ask rfl fun reply inside hm => ?_
    cases hm with
    | within timely => exact ih reply timely

/-- A unit ends, whatever its work comes to. -/
theorem InTurn.unit (op : Operation) (limit : Option Nat) (h : Proper asks w.run) :
    Lawful Asks May (inUnit op limit w) false fun outcome inside =>
      inside = false ∧ ∀ label, outcome ≠ .error (.timeout label) := by
  refine .ask rfl fun reply inside hm => ?_
  cases hm with
  | beginsNot => exact .done ⟨rfl, nofun⟩
  | begins =>
    refine h.inTurn.bind fun outcome inside ⟨opened, own⟩ => ?_
    subst opened
    cases outcome with
    | ok a =>
      refine .ask rfl fun reply inside hm => ?_
      cases hm
      match reply with
      | .ok () | .error _ => exact .done ⟨rfl, nofun⟩
    | error f =>
      have own := own f rfl
      obtain ⟨next, rollsBack, -, fails⟩ :=
        exists_rollback (α := α) op (f := f) (by rintro rfl; exact own)
      rw [rollsBack]
      refine .ask rfl fun reply inside hm => ?_
      cases hm with
      | rollsBack timely =>
        rw [fails reply timely]
        exact .done ⟨rfl, fun label h => own.toError_ne_timeout op label (Except.error.inj h)⟩

/-- One unit after another. -/
theorem Exchange.Composed.inTurn {limit : Option Nat} {part : (β : Type) → Work β → Prop}
    {d : Exchange (Except Error α)} (h : d.Composed limit part)
    (proper : ∀ β (w : Work β), part β w → Proper (fun _ => True) w.run) :
    Lawful Asks May d false fun _ inside => inside = false := by
  induction h with
  | done => exact .done rfl
  | unit op hw _ _ _ ih =>
    refine (InTurn.unit op limit (proper _ _ hw)).bind fun outcome inside ⟨closed, timely⟩ => ?_
    subst closed
    exact ih outcome timely

end Operations

/-! ## On a storage -/

section Storages

variable {σ α : Type} {keeper : Keeper σ} {f : Faults} {s : Faulty σ}

/-- No deadline passes because the schedule says so. -/
def Faults.InTime (f : Faults) : Prop :=
  ∀ calls c, f calls c ≠ some .expired

/-- A storage answers a call in turn at once. -/
theorem Storage.may (keeper : Keeper σ) (s : Storage σ) {c : Call}
    (asked : Asks s.working.isSome c) :
    May s.working.isSome c (s.party keeper c).1 (s.party keeper c).2.working.isSome := by
  cases hw : s.working with
  | none =>
    rw [hw] at asked
    cases c with
    | begin limit =>
      rw [Storage.party_begin keeper limit s hw]
      exact .begins
    | within | commit | rollback => cases asked
  | some state =>
    rw [hw] at asked
    cases c with
    | begin => cases asked
    | within r =>
      simp only [Storage.party, Storage.request, hw]
      split
      · exact .within fun h => by cases h
      · simp only [Storage.tick, hw]
        exact .within fun h => by cases h
    | commit =>
      rw [Storage.party_commit keeper s state hw]
      exact .commits _
    | rollback => exact .rollsBack fun h => by cases h

/-- A call that fails in turn does so at once. Only the end of a unit leaves it. -/
theorem Storage.may_fail (s : Storage σ) (e : StoreError) {c : Call}
    (asked : Asks s.working.isSome c) :
    May s.working.isSome c (c.fail e) (s.leave c (.failed e)).working.isSome := by
  cases c with
  | begin =>
    show May s.working.isSome _ _ s.working.isSome
    rw [asked]
    exact .beginsNot e
  | within =>
    show May s.working.isSome _ _ s.working.isSome
    rw [asked]
    exact .within fun h => by cases h
  | commit =>
    rw [asked]
    exact .commits _
  | rollback =>
    rw [asked]
    exact .rollsBack fun h => by cases h

/-- A storage that fails on schedule, but not late, keeps to this. -/
theorem Faults.InTime.follows (h : f.InTime) (keeper : Keeper σ) :
    Dialogue.Follows Asks May (Faulty.party keeper f) fun s inside =>
      s.storage.working.isSome = inside := by
  rintro c s inside rfl asked
  refine ⟨_, ?_, rfl⟩
  match hf : f s.calls c with
  | none =>
    simp only [Faulty.party, hf]
    exact s.storage.may keeper asked
  | some .expired => exact absurd hf (h s.calls c)
  | some (.failed e) =>
    rw [Faulty.party_fails hf]
    exact s.storage.may_fail e asked

/-- As long as no schedule lets a deadline pass, none passes, and no unit is left open. -/
theorem Exchange.Composed.timely {limit : Option Nat} {part : (β : Type) → Work β → Prop}
    {d : Exchange (Except Error α)} (hd : d.Composed limit part)
    (proper : ∀ β (w : Work β), part β w → Proper (fun _ => True) w.run) (h : f.InTime)
    (keeper : Keeper σ) (closed : s.storage.working = none) :
    Timely (d.transcript (Faulty.party keeper f) s) ∧
      (d.run (Faulty.party keeper f) s).2.storage.working = none := by
  have lawful := hd.inTurn proper
  have outside : s.storage.working.isSome = false := closed ▸ Option.isSome_none
  obtain ⟨inside, left, ends⟩ := lawful.run (h.follows keeper) outside
  constructor
  · intro x hx
    obtain ⟨_, _, -, answered⟩ := lawful.transcript (h.follows keeper) outside x hx
    exact answered.timely
  · exact Option.isNone_iff_eq_none.mp (Option.isSome_eq_false_iff.mp (left.trans ends))

end Storages

end Scrip
