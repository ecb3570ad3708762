import Scrip.Admin
import Scrip.Proofs.Terminal.Prompt

/-!
# Accounts made by an operator

An account is registered with a password that was typed twice in one of three rounds, and with
nothing else (`registered_with_confirmed_password`). Where no such password is typed, the store
stays as the migrations leave it (`Declines`).
-/

namespace Scrip.Admin

open Crypt (Salt)
open Terminal (Chosen Event Exhausted PromptFault newPassword)

variable {username : String} {coins : Option Int} {events : Option (List Event)} {salt : Salt}

/-- What is shown once a registration was tried. -/
def registered : Except Error Account → Run
  | .ok account => .success (createdReport account)
  | .error (.accountAlreadyExists username) =>
    .failure (lines ["user already exists: " ++ username])
  | .error e => .ofError e

/-- Making the account is to register it with a password, once, and to show what came of it. -/
def Registers (username : String) (coins : Option Int) (events : Option (List Event)) (salt : Salt)
    (engine : Engine) (password : String) : Prop :=
  createUser username coins events salt = do
    let result ← engine.register username password salt
    return (registered result).after (newPassword events).shown

/-- Making the account fails before anything is asked of the store. -/
def Declines (username : String) (coins : Option Int) (events : Option (List Event)) (salt : Salt) :
    Prop :=
  ∃ run : Run, run.code = 1 ∧ createUser username coins events salt = pure run ∧
    ∀ s, (runOn events salt (.createUser username coins) s).2 = (s.migrate (.up none)).2

theorem declines_of_pure {run : Run} (failed : run.code = 1)
    (h : createUser username coins events salt = pure run) :
    Declines username coins events salt := by
  refine ⟨run, failed, h, fun s => ?_⟩
  rw [runOn]
  match s.migrate (.up none) with
  | (false, s) => rfl
  | (true, s) => rw [perform, h]; rfl

/-- A grant that is refused is refused first. -/
theorem declines_of_grant {e : Error} (h : Engine.of? (coins.getD defaultGrant) none = .error e) :
    Declines username coins events salt := by
  have run : createUser username coins events salt = pure (.ofError e) := by rw [createUser, h]
  exact declines_of_pure rfl run

/-- Without a password nothing is registered. -/
theorem declines_of_fault {fault : PromptFault} (h : (newPassword events).answer = .error fault) :
    Declines username coins events salt := by
  cases hg : Engine.of? (coins.getD defaultGrant) none with
  | error e => exact declines_of_grant hg
  | ok engine =>
    have run : createUser username coins events salt = pure ((Run.failure (failureReport
        (inspectPrompt fault))).after (newPassword events).shown) := by
      simp only [createUser, hg, h]
    exact declines_of_pure rfl run

theorem declines_of_not_ok (h : ∀ p, (newPassword events).answer ≠ .ok p) :
    Declines username coins events salt := by
  cases ha : (newPassword events).answer with
  | error fault => exact declines_of_fault ha
  | ok p => exact absurd ha (h p)

/-- With a password the account is registered. -/
theorem registers_of_answer {engine : Engine} {p : String}
    (hg : Engine.of? (coins.getD defaultGrant) none = .ok engine)
    (h : (newPassword events).answer = .ok p) : Registers username coins events salt engine p := by
  rw [Registers, createUser, hg]
  simp only [h]
  rfl

/-- An account is registered with a password of at least six characters that was typed and typed
again in a round, after at most two rounds that gave none, and with no other. It is not when the
question is taken back before, nor when three rounds fail. No more than six lines are read, and
what is behind the last of them is left. -/
theorem registered_with_confirmed_password (username : String) (coins : Option Int)
    (events : List Event) (salt : Salt) :
    let asked := newPassword (some events)
    ((∃ engine consumed p, Engine.of? (coins.getD defaultGrant) none = .ok engine ∧
        Chosen consumed p ∧ consumed <+: events ∧
        Registers username coins (some events) salt engine p) ∨
      Declines username coins (some events) salt) ∧
    (∀ engine consumed p, Engine.of? (coins.getD defaultGrant) none = .ok engine →
      Chosen consumed p → consumed <+: events →
        Registers username coins (some events) salt engine p) ∧
    (∀ before e after, events = before ++ e :: after → e.interrupts = true →
      (∀ consumed p, Chosen consumed p → ¬ consumed <+: before) →
        Declines username coins (some events) salt) ∧
    (∀ consumed, Exhausted consumed → consumed <+: events →
      Declines username coins (some events) salt) ∧
    ∃ consumed, events = consumed ++ asked.events ∧ consumed.countP Event.isEnter ≤ 6 ∧
      (∀ p, asked.answer = .ok p → Chosen consumed p) ∧
      (asked.answer = .error .tooManyAttempts → Exhausted consumed) ∧
      (asked.answer ≠ .error .closed →
        ∀ more, newPassword (some (consumed ++ more)) = { asked with events := more }) := by
  intro asked
  refine ⟨?_, ?_, ?_, ?_, ?_⟩
  · cases hg : Engine.of? (coins.getD defaultGrant) none with
    | error e => exact .inr (declines_of_grant hg)
    | ok engine =>
      cases ha : asked.answer with
      | error fault => exact .inr (declines_of_fault ha)
      | ok p =>
        obtain ⟨consumed, chosen, split⟩ :=
          Terminal.newPassword_ok_iff.mp (Prod.ext_iff.mpr ⟨ha, rfl⟩)
        exact .inl ⟨engine, consumed, p, rfl, chosen, ⟨_, split.symm⟩, registers_of_answer hg ha⟩
  · rintro engine consumed p hg chosen ⟨rest, split⟩
    have ok := Terminal.newPassword_ok_iff.mpr ⟨consumed, chosen, split.symm⟩
    exact registers_of_answer hg (congrArg Prod.fst ok)
  · rintro before e after rfl interrupts early
    exact declines_of_not_ok fun p => Terminal.newPassword_interrupted interrupts early
  · rintro consumed exhausted ⟨rest, split⟩
    have failed := Terminal.newPassword_tooManyAttempts_iff.mpr ⟨consumed, exhausted, split.symm⟩
    exact declines_of_fault (congrArg Prod.fst failed)
  · obtain ⟨consumed, split, lines, alike⟩ := Terminal.reads_choosePassword 3 events
    refine ⟨consumed, split, lines, fun p ha => ?_, fun ha => ?_, alike⟩
    · obtain ⟨consumed', chosen, split'⟩ :=
        Terminal.newPassword_ok_iff.mp (Prod.ext_iff.mpr ⟨ha, rfl⟩)
      exact List.append_cancel_right (split.symm.trans split') ▸ chosen
    · obtain ⟨consumed', exhausted, split'⟩ :=
        Terminal.newPassword_tooManyAttempts_iff.mp (Prod.ext_iff.mpr ⟨ha, rfl⟩)
      exact List.append_cancel_right (split.symm.trans split') ▸ exhausted

/-- A line that is too short and one that is mended do not keep a password from being chosen. -/
theorem registered_after_mended_line :
    let events := "abc\rsecreu\x7ft\rsecret\rlater".toList.map Event.ofChar
    let rest := "later".toList.map Event.ofChar
    ∃ consumed, Chosen consumed "secret" ∧ events = consumed ++ rest ∧
      Registers "ann" none (some events) (.replicate 7) {} "secret" := by
  intro events rest
  obtain ⟨-, registers, -, -, consumed, split, -, chosen, -⟩ :=
    registered_with_confirmed_password "ann" none events (.replicate 7)
  have answer : (newPassword (some events)).answer = .ok "secret" := rfl
  have left : (newPassword (some events)).events = rest := rfl
  exact ⟨consumed, chosen _ answer, left ▸ split,
    registers {} consumed "secret" rfl (chosen _ answer) ⟨_, split.symm⟩⟩

end Scrip.Admin
