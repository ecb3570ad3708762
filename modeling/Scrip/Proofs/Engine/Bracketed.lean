import Scrip.Proofs.Engine.Discreet
import Scrip.Proofs.Framework.InTurn

/-!
# Operations as brackets

As long as no deadline passes, a command that is not refused at once is one bracketed unit
(`perform_bracketed`): what it says begins the unit, and last of all commits it or rolls it back.
No deadline passes on a storage that has no unit open, unless its schedule says so.

Signing in says what four such commands say, one after another, or fewer of them
(`signIn_transcripts`). So it has never two units open at a time.
-/

namespace Scrip.Engine

open Credential Work
open Crypt (Salt)

variable {τ : Type} (e : Engine) (party : Dialogue.Party Call Call.Reply τ)

/-- What is said in each of some commands that are carried out one after another. -/
def transcripts : List Command → τ → List (List Exchanged)
  | [], _ => []
  | c :: cs, t => (e.perform c).transcript party t :: transcripts cs ((e.perform c).run party t).2

/-- What signing in consists of, at the most. -/
def signInSteps (username password : String) (salt : Salt) : List Command :=
  [.authenticate username password, .accountByName (canonicalUsername username),
    .register username password salt, .authenticate username password]

variable {e party}

/-- A job that is carried out without a deadline is bracketed. -/
theorem bracketed_of_job {c : Command} {job : Job} {t : τ} (h : e.job? c = some (.ok job))
    (timely : Timely ((e.perform c).transcript party t)) :
    Bracketed job.limit (fun r => c.isRead = true → r.isWrite = false) job.work
      ((e.perform c).transcript party t) := by
  rw [perform_of_job h] at timely ⊢
  have said : (Job.carryOut (.ok job)).transcript party t =
      (inUnit job.op job.limit job.work).transcript party t :=
    (Dialogue.transcript_map party _ job.finish t).1
  rw [said] at timely ⊢
  obtain ⟨-, taken, discreet⟩ := job_discreet h
  exact .of_leads (Dialogue.leads_transcript party _ t) (job_proper h) discreet timely

/-- The calls of a command other than signing in. -/
theorem balanced_of_job {c : Command} {x : Except Error Job} {t : τ} (h : e.job? c = some x)
    (timely : Timely ((e.perform c).transcript party t)) :
    Balanced ((e.perform c).transcript party t) := by
  cases x with
  | error refusal =>
    rw [perform_of_job h]
    exact .nil
  | ok job => exact (bracketed_of_job h timely).balanced

/-- One command after another. -/
theorem balanced_transcripts {cs : List Command} {t : τ} (single : ∀ c ∈ cs, e.job? c ≠ none)
    (timely : Timely (e.transcripts party cs t).flatten) :
    Balanced (e.transcripts party cs t).flatten := by
  induction cs generalizing t with
  | nil => exact .nil
  | cons c cs ih =>
    obtain ⟨hc, single⟩ := List.forall_mem_cons.mp single
    obtain ⟨x, hx⟩ := Option.ne_none_iff_exists'.mp hc
    rw [transcripts, List.flatten_cons] at timely ⊢
    obtain ⟨now, later⟩ := List.forall_mem_append.mp timely
    exact (balanced_of_job hx now).append (ih single later)

/-! ## Signing in -/

variable {α β : Type}

variable (e party) in
/-- Whatever state it finds, a dialogue says what some of these commands say, from the first one
on. -/
def SaysOf (cs : List Command) (d : Exchange (Except Error α)) : Prop :=
  ∀ t, ∃ n, n ≤ cs.length ∧
    d.transcript party t = (e.transcripts party (cs.take n) t).flatten

theorem SaysOf.done {cs : List Command} {outcome : Except Error α} :
    SaysOf e party cs (.done outcome) :=
  fun _ => ⟨0, Nat.zero_le _, rfl⟩

/-- The first command, whose outcome is all that is looked at afterwards. -/
theorem transcript_step {c : Command} {cs : List Command} {d : Exchange (Except Error α)}
    {g : Except Error α → Exchange (Except Error β)} (f : α → Outcome)
    (hc : e.perform c = perform.wrap f d) (hg : ∀ outcome, SaysOf e party cs (g outcome)) (t : τ) :
    ∃ n, 1 ≤ n ∧ n ≤ (c :: cs).length ∧
      (d >>= g).transcript party t = (e.transcripts party ((c :: cs).take n) t).flatten := by
  obtain ⟨n, hn, said⟩ := hg (d.run party t).1 (d.run party t).2
  refine ⟨n + 1, Nat.le_add_left 1 n, Nat.succ_le_succ hn, ?_⟩
  obtain ⟨first, left⟩ : (e.perform c).transcript party t = d.transcript party t ∧
      ((e.perform c).run party t).2 = (d.run party t).2 :=
    hc ▸ Dialogue.transcript_map party d (·.map f) t
  rw [Dialogue.transcript_bind, said, List.take_succ_cons, transcripts, List.flatten_cons, first,
    left]

theorem SaysOf.step {c : Command} {cs : List Command} {d : Exchange (Except Error α)}
    {g : Except Error α → Exchange (Except Error β)} (f : α → Outcome)
    (hc : e.perform c = perform.wrap f d) (hg : ∀ outcome, SaysOf e party cs (g outcome)) :
    SaysOf e party (c :: cs) (d >>= g) := fun t => by
  obtain ⟨n, -, hn, said⟩ := transcript_step f hc hg t
  exact ⟨n, hn, said⟩

variable (e party) in
/-- Signing in says what some of its steps say, from the first one on. -/
theorem signIn_transcripts (username password : String) (salt : Salt) (t : τ) :
    ∃ n, 1 ≤ n ∧ n ≤ (signInSteps username password salt).length ∧
      (e.perform (.signIn username password salt)).transcript party t =
        (e.transcripts party ((signInSteps username password salt).take n) t).flatten := by
  have said : (e.perform (.signIn username password salt)).transcript party t =
      (e.signIn username password salt).transcript party t :=
    (Dialogue.transcript_map party _ _ t).1
  rw [said]
  unfold signIn signInSteps
  refine transcript_step .account rfl (fun outcome => ?_) t
  split
  · refine .step .account rfl fun outcome => ?_
    split
    · exact .done
    · unfold registerOrAuthenticate
      refine .step .account rfl fun outcome => ?_
      split
      · rw [← Dialogue.bind_done (e.authenticate username password)]
        exact .step .account rfl fun _ => .done
      · exact .done
    · exact .done
  · exact .done

/-- Whatever a storage replies, as long as no deadline passes: what a command says, if it is not
refused at once, is a bracketed unit of its work, in which nothing is written if the command only
looks. Signing in says what the first one to four of its steps say, one after another, and has
never two units open.

On a storage that has no unit open no deadline passes unless the schedule says so, however calls
fail, and no unit is left open. -/
theorem perform_bracketed (e : Engine) {τ : Type} (party : Dialogue.Party Call Call.Reply τ)
    (t : τ) :
    (∀ c, (∀ username password salt, c ≠ .signIn username password salt) →
      let said := (e.perform c).transcript party t
      ∃ x, e.job? c = some x ∧ match x with
        | .error _ => said = []
        | .ok job => Timely said →
          Bracketed job.limit (fun r => c.isRead = true → r.isWrite = false) job.work said) ∧
    (∀ username password salt,
      let said := (e.perform (.signIn username password salt)).transcript party t
      (∃ n, 1 ≤ n ∧ n ≤ 4 ∧ said =
        (e.transcripts party ((signInSteps username password salt).take n) t).flatten) ∧
      (Timely said → Balanced said)) ∧
    ∀ {σ : Type} (keeper : Keeper σ) (f : Faults) (s : Faulty σ) (c : Command),
      f.InTime → s.storage.working = none →
      Timely ((e.perform c).transcript (Faulty.party keeper f) s) ∧
        ((e.perform c).run (Faulty.party keeper f) s).2.storage.working = none := by
  refine ⟨fun c single => ?_, fun username password salt => ?_,
    fun keeper f s c inTime closed => ?_⟩
  · intro said
    have known : e.job? c ≠ none := fun h => by
      obtain ⟨username, password, salt, hc⟩ := job?_eq_none.mp h
      exact single username password salt hc
    obtain ⟨x, hx⟩ := Option.ne_none_iff_exists'.mp known
    refine ⟨x, hx, ?_⟩
    cases x with
    | error refusal =>
      show (e.perform c).transcript party t = []
      rw [perform_of_job hx]
      rfl
    | ok job => exact bracketed_of_job hx
  · intro said
    obtain ⟨n, hn, hn', steps⟩ :=
      signIn_transcripts e party username password salt t
    refine ⟨⟨n, hn, hn', steps⟩, fun timely => ?_⟩
    show Balanced ((e.perform (.signIn username password salt)).transcript party t)
    rw [steps]
    refine balanced_transcripts (fun c hc => ?_) (steps ▸ timely)
    have step := List.mem_of_mem_take hc
    simp only [signInSteps, List.mem_cons, List.not_mem_nil, or_false] at step
    rcases step with rfl | rfl | rfl | rfl <;> exact Option.some_ne_none _
  · exact (perform_composed e c).timely (fun _ _ body => body.proper) inTime keeper closed

/-- The store fails when the cup is looked for, and at the rollback too. Nobody is signed in when
no unit can be opened. -/
theorem perform_bracketed_cup :
    let nobody : Faulty Books := ⟨[], ⟨{}, none, default⟩⟩
    let unfound := lookupFails .database
    let unopened : Faults := fun _ _ => some (.failed .database)
    let offered := (Engine.perform {} (.addItem "cup" 5)).transcript
      (Faulty.party Books.answer unfound) nobody
    let asked := (Engine.perform {} (.signIn "alice" "secret" (.replicate 7))).transcript
      (Faulty.party Books.answer unopened) nobody
    nobody.storage.working = none ∧ unfound.InTime ∧ unopened.InTime ∧
      Timely offered ∧ Timely asked ∧ Balanced asked ∧
      offered = [⟨.begin none, .ok ()⟩,
        ⟨.within (.itemByName "cup"), .error (.failed .database)⟩,
        ⟨.rollback, .error (.failed .database)⟩] ∧
      Bracketed none (fun r => Command.isRead (.addItem "cup" 5) = true → r.isWrite = false)
        (insertNewItem ⟨"cup", 5⟩) offered := by
  intro nobody unfound unopened offered asked
  have item : NewItem.of? "cup" 5 = .ok ⟨"cup", 5⟩ := by decide +kernel
  have unfoundInTime : unfound.InTime := fun calls c => by
    simp only [unfound, lookupFails]
    split <;> simp
  have unopenedInTime : unopened.InTime := fun calls c h => by cases h
  obtain ⟨units, -, inTime⟩ := perform_bracketed {} (Faulty.party Books.answer unfound) nobody
  obtain ⟨-, signsIn, -⟩ := perform_bracketed {} (Faulty.party Books.answer unopened) nobody
  have offeredTimely := (inTime Books.answer unfound nobody (.addItem "cup" 5) unfoundInTime rfl).1
  have askedTimely := (inTime Books.answer unopened nobody
    (.signIn "alice" "secret" (.replicate 7)) unopenedInTime rfl).1
  refine ⟨rfl, unfoundInTime, unopenedInTime, offeredTimely, askedTimely,
    (signsIn "alice" "secret" (.replicate 7)).2 askedTimely, ?_, ?_⟩
  · show (perform {} (.addItem "cup" 5)).transcript _ _ = _
    rw [perform, Engine.addItem, item]
    rfl
  · obtain ⟨x, hx, said⟩ := units (.addItem "cup" 5) fun username password salt h => by cases h
    rw [job?, item] at hx
    obtain rfl := Option.some.inj hx
    exact said offeredTimely

end Scrip.Engine
