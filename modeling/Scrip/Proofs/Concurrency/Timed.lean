import Scrip.Proofs.Concurrency.Shared

/-!
# Deadlines of some clients

Runs of clients that share a storage, in which deadlines pass for some of them only
(`Shared.TimedRun`). All other clients are answered in their own time.

* `TimedRun.run`: such a run is one in which any deadline may pass;
* `Run.timed`: and so is the other way round, if all clients are among those.
-/

namespace Scrip.Shared

variable {ι σ α : Type} [DecidableEq ι] {keeper : Keeper σ} {late late' : ι → Prop}
  {S₀ S₁ S S' : Shared ι σ α} {ended : Option (ι × Ending)} {log log' : List (ι × Ending)}

/-- One step of one client. Its deadline passes only if it is one of those that may be late. -/
inductive TimedStep (keeper : Keeper σ) (late : ι → Prop) :
    Shared ι σ α → Option (ι × Ending) → Shared ι σ α → Prop
  | call {S : Shared ι σ α} {i : ι} {c : Call} {next : c.Reply → Exchange α} (now : Instant)
      (hc : S.client i = some (.ask c next)) (turn : S.Turn i c) :
      TimedStep keeper late S ((ending? c).map fun ending => (i, ending))
        (S.answered i ((S.view i now).party keeper c).2 (next ((S.view i now).party keeper c).1))
  | expires {S : Shared ι σ α} {i : ι} {c : Call} {next : c.Reply → Exchange α} {reply : c.Reply}
      (hc : S.client i = some (.ask c next)) (hr : c.expired? = some reply) (hl : late i) :
      TimedStep keeper late S (S.abandoned? i) (S.abandoned i (some (next reply)))
  | leaves {S : Shared ι σ α} {i : ι} {d : Exchange α} (hc : S.client i = some d) :
      TimedStep keeper late S (S.abandoned? i) (S.abandoned i none)

/-- Steps one after another, with the units in the order in which they ended. -/
inductive TimedRun (keeper : Keeper σ) (late : ι → Prop) (S₀ : Shared ι σ α) :
    List (ι × Ending) → Shared ι σ α → Prop
  | refl : TimedRun keeper late S₀ [] S₀
  | step {log : List (ι × Ending)} {ended : Option (ι × Ending)} {S S' : Shared ι σ α}
      (h : TimedRun keeper late S₀ log S) (hs : TimedStep keeper late S ended S') :
      TimedRun keeper late S₀ (log ++ ended.toList) S'

theorem TimedStep.step (h : TimedStep keeper late S ended S') : Step keeper S ended S' := by
  cases h with
  | call now hc turn => exact .call now hc turn
  | expires hc hr => exact .expires hc hr
  | leaves hc => exact .leaves hc

theorem Step.timed (h : Step keeper S ended S') :
    TimedStep keeper (fun _ => True) S ended S' := by
  cases h with
  | call now hc turn => exact .call now hc turn
  | expires hc hr => exact .expires hc hr trivial
  | leaves hc => exact .leaves hc

theorem TimedStep.mono (h : TimedStep keeper late S ended S') (hl : ∀ i, late i → late' i) :
    TimedStep keeper late' S ended S' := by
  cases h with
  | call now hc turn => exact .call now hc turn
  | expires hc hr late => exact .expires hc hr (hl _ late)
  | leaves hc => exact .leaves hc

namespace TimedRun

theorem run (h : TimedRun keeper late S₀ log S) : Run keeper S₀ log S := by
  induction h with
  | refl => exact .refl
  | step _ hs ih => exact ih.step hs.step

theorem mono (h : TimedRun keeper late S₀ log S) (hl : ∀ i, late i → late' i) :
    TimedRun keeper late' S₀ log S := by
  induction h with
  | refl => exact .refl
  | step _ hs ih => exact ih.step (hs.mono hl)

theorem trans (h : TimedRun keeper late S₀ log S₁) (h' : TimedRun keeper late S₁ log' S) :
    TimedRun keeper late S₀ (log ++ log') S := by
  induction h' with
  | refl => exact (List.append_nil _).symm ▸ h
  | step _ hs ih => exact List.append_assoc .. ▸ ih.step hs

theorem cons (hs : TimedStep keeper late S₀ ended S₁) (h : TimedRun keeper late S₁ log S) :
    TimedRun keeper late S₀ (ended.toList ++ log) S :=
  (TimedRun.refl.step hs).trans h

end TimedRun

theorem Run.timed (h : Run keeper S₀ log S) : TimedRun keeper (fun _ => True) S₀ log S := by
  induction h with
  | refl => exact .refl
  | step _ hs ih => exact ih.step hs.timed

end Scrip.Shared
