import Scrip.Proofs.Framework.Discreet

/-!
# Storages that fail on schedule

A storage whose calls lapse where a schedule says so (`Faulty.party`), and which notes every call.

* `Faults.Alike`: schedules that differ in what operations do not look at;
* `Faults.Alike.run_eq`: under such schedules an operation takes the same course.
-/

namespace Scrip

/-- What is to become of a call, after others: it lapses, or it reaches the storage. -/
abbrev Faults : Type :=
  List Call → Call → Option Lapse

/-- What comes back for a call that lapses. A commit is awaited however long it takes. -/
def Call.lapse? (c : Call) : Lapse → Option c.Reply
  | .failed e => some (c.fail e)
  | .expired => c.expired?

/-- What a call leaves that lapsed. The unit is over, unless a request failed. -/
def Storage.leave {σ : Type} (s : Storage σ) : Call → Lapse → Storage σ
  | .begin _, _ | .within _, .failed _ => s
  | _, _ => s.drop

/-- A storage that notes the calls. -/
structure Faulty (σ : Type) where
  calls : List Call := []
  storage : Storage σ

variable {σ α : Type}

/-- A storage whose calls lapse on schedule, as the surroundings of a dialogue. A call that lapses
does not reach the storage. -/
def Faulty.party (keeper : Keeper σ) (faults : Faults) :
    Dialogue.Party Call Call.Reply (Faulty σ) := fun c s =>
  match faults s.calls c with
  | none => ((s.storage.party keeper c).1, ⟨s.calls ++ [c], (s.storage.party keeper c).2⟩)
  | some lapse =>
    match c.lapse? lapse with
    | none => ((s.storage.party keeper c).1, ⟨s.calls ++ [c], (s.storage.party keeper c).2⟩)
    | some reply => (reply, ⟨s.calls ++ [c], s.storage.leave c lapse⟩)

/-! ## Schedules that are alike -/

/-- What may become of a call, if operations are not to see the difference: another failure, as
long as an insertion meets a conflict in both or in neither; and for a rollback anything but that
the deadline passes. -/
inductive Lapse.Alike : Call → Option Lapse → Option Lapse → Prop
  | refl {c : Call} (lapse : Option Lapse) : Alike c lapse lapse
  | fails {c : Call} {e e' : StoreError} (h : c.clashes e = c.clashes e') :
      Alike c (some (.failed e)) (some (.failed e'))
  | rollsBack {lapse lapse' : Option Lapse} (h : lapse ≠ some .expired)
      (h' : lapse' ≠ some .expired) : Alike .rollback lapse lapse'

/-- Schedules that differ in what operations do not look at. -/
def Faults.Alike (f g : Faults) : Prop :=
  ∀ calls c, Lapse.Alike c (f calls c) (g calls c)

namespace Faulty

variable {keeper : Keeper σ} {f g : Faults}

theorem party_fails {c : Call} {s : Faulty σ} {e : StoreError}
    (h : f s.calls c = some (.failed e)) :
    party keeper f c s = (c.fail e, ⟨s.calls ++ [c], s.storage.leave c (.failed e)⟩) := by
  simp only [party, h]
  rfl

/-- A rollback leaves the unit, whether it fails or not. -/
theorem party_rollback (keeper : Keeper σ) {s : Faulty σ}
    (h : f s.calls .rollback ≠ some .expired) :
    ∃ reply : Call.Reply .rollback, reply ≠ .error .expired ∧
      party keeper f .rollback s = (reply, ⟨s.calls ++ [.rollback], s.storage.drop⟩) := by
  match hf : f s.calls .rollback with
  | none => exact ⟨.ok (), nofun, by simp only [party, hf]; rfl⟩
  | some (.failed e) => exact ⟨.error (.failed e), nofun, party_fails hf⟩
  | some .expired => exact absurd hf h

end Faulty

namespace Faults.Alike

variable {f g : Faults}

/-- Replies are alike, and what a call leaves is the same. -/
theorem party (h : f.Alike g) (keeper : Keeper σ) (c : Call) (s : Faulty σ) :
    c.Alike (Faulty.party keeper f c s).1 (Faulty.party keeper g c s).1 ∧
      (Faulty.party keeper f c s).2 = (Faulty.party keeper g c s).2 := by
  have hc := h s.calls c
  generalize hf : f s.calls c = lapse at hc
  generalize hg : g s.calls c = lapse' at hc
  cases hc with
  | refl =>
    have same : Faulty.party keeper f c s = Faulty.party keeper g c s := by
      simp only [Faulty.party, hf, hg]
    rw [same]
    exact ⟨.refl _, rfl⟩
  | @fails c e e' clash =>
    rw [Faulty.party_fails hf, Faulty.party_fails hg]
    refine ⟨.fails clash, ?_⟩
    cases c <;> rfl
  | rollsBack timely timely' =>
    obtain ⟨reply, hr, he⟩ := Faulty.party_rollback keeper (hf ▸ timely)
    obtain ⟨reply', hr', he'⟩ := Faulty.party_rollback keeper (hg ▸ timely')
    rw [he, he']
    exact ⟨.rollsBack hr hr', rfl⟩

/-- Under such schedules an operation takes the same course. -/
theorem run_eq (h : f.Alike g) {d : Exchange α} (hd : d.Blind) (keeper : Keeper σ)
    (s : Faulty σ) : d.run (Faulty.party keeper f) s = d.run (Faulty.party keeper g) s :=
  hd.run_eq (h.party keeper) s

end Faults.Alike

end Scrip
