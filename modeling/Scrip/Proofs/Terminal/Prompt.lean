import Scrip.Terminal.Prompt

/-!
# Passwords typed twice

What a sequence of events gives when a password is asked for. The events are cut into lines and the
lines into rounds, and what comes of asking is read off that (`Round.course`): a password that was
confirmed, or why there is none.

* `Event.edit`: a line so far after one more event;
* `Line.Typed`, `Round.Confirms`, `Round.Fails`: the events of a line and of a round;
* `Chosen`, `Exhausted`: the events after which the asking ends;
* `reads_choosePassword`: how much is read, and that the rest is left.
-/

namespace Scrip.Terminal

namespace Event

/-- A line so far, after one more event. -/
def edit (typed : List Char) : Event → List Char
  | key (.char c) held => if held.control then typed else typed ++ [c]
  | key .backspace _ => typed.dropLast
  | _ => typed

/-- Whether a line ends with the event. -/
def isEnter : Event → Bool
  | key .enter _ => true
  | _ => false

/-- Whether the event takes the question back. -/
def interrupts : Event → Bool
  | key (.char c) held => held.control && c == 'c'
  | _ => false

/-- Whether a line goes on after the event. -/
def goesOn (e : Event) : Bool :=
  !e.isEnter && !e.interrupts

theorem eq_interrupt {e : Event} (h : e.interrupts = true) :
    ∃ held : Modifiers, held.control = true ∧ e = key (.char 'c') held := by
  match e, h with
  | key (.char c) held, h =>
    rw [interrupts, Bool.and_eq_true, beq_iff_eq] at h
    exact ⟨held, h.1, by rw [h.2]⟩

/-- What a line does not go on after takes the question back or ends the line. -/
theorem interrupts_or_enter {e : Event} (h : ¬ e.goesOn = true) :
    e.interrupts = true ∨ ∃ held, e = key .enter held := by
  cases interrupts : e.interrupts with
  | true => exact .inl rfl
  | false =>
    have enter : e.isEnter = true := by simpa [goesOn, interrupts] using h
    match e, enter with
    | key .enter held, _ => exact .inr ⟨held, rfl⟩

theorem not_isEnter_of_goesOn {e : Event} (h : e.goesOn = true) : e.isEnter = false := by
  rw [goesOn, Bool.and_eq_true, Bool.not_eq_true'] at h
  exact h.1

theorem not_interrupts_of_goesOn {e : Event} (h : e.goesOn = true) : e.interrupts = false := by
  rw [goesOn, Bool.and_eq_true, Bool.not_eq_true', Bool.not_eq_true'] at h
  exact h.2

end Event

namespace Asked

variable {α β : Type}

/-- What came of asking, apart from what was shown. -/
def outcome (a : Asked α) : Except PromptFault α × List Event :=
  (a.answer, a.events)

@[simp] theorem outcome_after (shown : String) (a : Asked α) :
    (a.after shown).outcome = a.outcome :=
  rfl

@[simp] theorem after_empty (a : Asked α) : a.after "" = a := by
  rw [after, String.empty_append]

theorem andThen_of_ok {a : Asked α} {x : α} (h : a.answer = .ok x)
    (next : α → List Event → Asked β) : a.andThen next = (next x a.events).after a.shown := by
  rw [andThen, h]

theorem andThen_of_error {a : Asked α} {fault : PromptFault} (h : a.answer = .error fault)
    (next : α → List Event → Asked β) : a.andThen next = { a with answer := .error fault } := by
  rw [andThen, h]

theorem outcome_andThen_of_ok {a : Asked α} {x : α} {rest : List Event}
    (h : a.outcome = (.ok x, rest)) (next : α → List Event → Asked β) :
    (a.andThen next).outcome = (next x rest).outcome := by
  rw [andThen_of_ok (congrArg Prod.fst h), outcome_after]
  exact congrArg (fun rest => (next x rest).outcome) (congrArg Prod.snd h)

theorem outcome_andThen_of_error {a : Asked α} {fault : PromptFault} {rest : List Event}
    (h : a.outcome = (.error fault, rest)) (next : α → List Event → Asked β) :
    (a.andThen next).outcome = (.error fault, rest) := by
  rw [andThen_of_error (congrArg Prod.fst h)]
  exact congrArg (Prod.mk _) (congrArg Prod.snd h)

end Asked

/-! ## Lines -/

namespace Line

/-- The events of a line with a text: some that it goes on after, then one that ends it. -/
def Typed (line : List Event) (text : String) : Prop :=
  ∃ keys held, (∀ e ∈ keys, e.goesOn = true) ∧ line = keys ++ [.key .enter held] ∧
    text = String.ofList (keys.foldl Event.edit [])

/-- What comes of a line: its text, or that there is none. -/
inductive Course : List Event → Except PromptFault String × List Event → Prop
  | entered {line : List Event} {text : String} (h : Typed line text) (rest : List Event) :
    Course (line ++ rest) (.ok text, rest)
  | interrupted {keys : List Event} (h : ∀ e ∈ keys, e.goesOn = true) {e : Event}
    (he : e.interrupts = true) (rest : List Event) :
    Course (keys ++ e :: rest) (.error .interrupted, rest)
  | closed {keys : List Event} (h : ∀ e ∈ keys, e.goesOn = true) : Course keys (.error .closed, [])

/-- One event that a line goes on after. -/
theorem typeLine_goesOn {e : Event} (h : e.goesOn = true) (typed : List Char) :
    ∃ shown, ∀ events, typeLine typed (e :: events) =
      (typeLine (e.edit typed.reverse).reverse events).after shown := by
  match e with
  | .key .enter _ => exact absurd h Bool.false_ne_true
  | .key .backspace _ =>
    cases typed with
    | nil => exact ⟨"", fun events => by simp [typeLine, Event.edit]⟩
    | cons c typed => exact ⟨eraseMark, fun events => by simp [typeLine, Event.edit]⟩
  | .key (.char c) held =>
    cases hc : held.control with
    | true =>
      have other : c ≠ 'c' := by simpa [Event.goesOn, Event.isEnter, Event.interrupts, hc] using h
      exact ⟨"", fun events => by simp [typeLine, Event.edit, hc, other]⟩
    | false => exact ⟨"*", fun events => by simp [typeLine, Event.edit, hc]⟩
  | .key .other _ => exact ⟨"", fun events => by simp [typeLine, Event.edit]⟩
  | .other => exact ⟨"", fun events => by simp [typeLine, Event.edit]⟩

/-- Events that a line goes on after. -/
theorem outcome_append {keys : List Event} (h : ∀ e ∈ keys, e.goesOn = true)
    (typed : List Char) (events : List Event) :
    (typeLine typed (keys ++ events)).outcome =
      (typeLine (keys.foldl Event.edit typed.reverse).reverse events).outcome := by
  induction keys generalizing typed with
  | nil => rw [List.foldl_nil, List.reverse_reverse, List.nil_append]
  | cons e keys ih =>
    obtain ⟨goesOn, others⟩ := List.forall_mem_cons.mp h
    obtain ⟨shown, step⟩ := typeLine_goesOn goesOn typed
    rw [List.cons_append, step, Asked.outcome_after, ih others, List.reverse_reverse,
      List.foldl_cons]

/-- There is a first event that a line does not go on after, or none. -/
theorem exists_course (events : List Event) : ∃ o, Course events o := by
  induction events with
  | nil => exact ⟨_, .closed (List.forall_mem_nil _)⟩
  | cons e events ih =>
    -- an event that the line goes on after only comes in front of what the others come to
    by_cases goesOn : e.goesOn = true
    · have more {keys : List Event} (h : ∀ e ∈ keys, e.goesOn = true) :
          ∀ e' ∈ e :: keys, e'.goesOn = true :=
        List.forall_mem_cons.mpr ⟨goesOn, h⟩
      obtain ⟨o, course⟩ := ih
      cases course with
      | entered h rest =>
        obtain ⟨keys, held, h, rfl, -⟩ := h
        exact ⟨_, .entered ⟨e :: keys, held, more h, rfl, rfl⟩ rest⟩
      | interrupted h he rest => exact ⟨_, .interrupted (more h) he rest⟩
      | closed h => exact ⟨_, .closed (more h)⟩
    · rcases Event.interrupts_or_enter goesOn with interrupts | ⟨held, rfl⟩
      · exact ⟨_, .interrupted (List.forall_mem_nil _) interrupts events⟩
      · exact ⟨_, .entered ⟨[], held, List.forall_mem_nil _, rfl, rfl⟩ events⟩

/-- Asking for a line comes to what its events say. -/
theorem Course.outcome {events : List Event} {o : Except PromptFault String × List Event}
    (h : Course events o) (question : String) : (askHidden question events).outcome = o := by
  have asked : (askHidden question events).outcome =
      (typeLine [] events).outcome.map (Except.map String.ofList) id := rfl
  rw [asked]
  cases h with
  | entered h rest =>
    obtain ⟨keys, held, goesOn, rfl, rfl⟩ := h
    rw [List.append_assoc, outcome_append goesOn, List.reverse_nil]
    simp [typeLine, Asked.outcome, Except.map]
  | interrupted goesOn interrupts rest =>
    obtain ⟨held, control, rfl⟩ := Event.eq_interrupt interrupts
    rw [outcome_append goesOn]
    simp [typeLine, Asked.outcome, Except.map, control]
  | closed goesOn =>
    rw [← List.append_nil events, outcome_append goesOn]
    rfl

end Line

/-! ## Rounds -/

namespace Round

/-- The events of a round in which a password was typed and typed again. -/
def Confirms (round : List Event) (p : String) : Prop :=
  ∃ first second, Line.Typed first p ∧ Line.Typed second p ∧ round = first ++ second ∧
    6 ≤ p.length

/-- The events of a round that gives no password: a line that is too short, or two lines that
differ. -/
inductive Fails : List Event → Prop
  | tooShort {line : List Event} {text : String} (h : Line.Typed line text)
    (short : text.length < 6) : Fails line
  | mismatch {first second : List Event} {p q : String} (h : Line.Typed first p)
    (again : Line.Typed second q) (long : 6 ≤ p.length) (differ : p ≠ q) : Fails (first ++ second)

/-- What comes of some rounds: a password, or that there is none. -/
inductive Course : Nat → List Event → Except PromptFault String × List Event → Prop
  | confirmed {n : Nat} {round : List Event} {p : String} (h : Confirms round p)
    (rest : List Event) : Course (n + 1) (round ++ rest) (.ok p, rest)
  | failed {n : Nat} {round events : List Event} {o : Except PromptFault String × List Event}
    (h : Fails round) (next : Course n events o) : Course (n + 1) (round ++ events) o
  | exhausted (events : List Event) : Course 0 events (.error .tooManyAttempts, events)
  | noFirst {n : Nat} {events rest : List Event} {fault : PromptFault}
    (h : Line.Course events (.error fault, rest)) : Course (n + 1) events (.error fault, rest)
  | noSecond {n : Nat} {first events rest : List Event} {p : String} {fault : PromptFault}
    (h : Line.Typed first p) (long : 6 ≤ p.length)
    (again : Line.Course events (.error fault, rest)) :
    Course (n + 1) (first ++ events) (.error fault, rest)

/-- There is a round that decides, or as many as there may be fail. -/
theorem exists_course (n : Nat) (events : List Event) : ∃ o, Course n events o := by
  induction n generalizing events with
  | zero => exact ⟨_, .exhausted events⟩
  | succ n ih =>
    obtain ⟨⟨answer, rest⟩, first⟩ := Line.exists_course events
    cases answer with
    | error fault => exact ⟨_, .noFirst first⟩
    | ok p =>
      cases first with
      | @entered line _ typed =>
        by_cases long : 6 ≤ p.length
        · obtain ⟨⟨answer, rest'⟩, second⟩ := Line.exists_course rest
          cases answer with
          | error fault => exact ⟨_, .noSecond typed long second⟩
          | ok q =>
            cases second with
            | @entered line' _ typed' =>
              rw [← List.append_assoc]
              by_cases same : p = q
              · subst same
                exact ⟨_, .confirmed ⟨line, line', typed, typed', rfl, long⟩ rest'⟩
              · obtain ⟨o, next⟩ := ih rest'
                exact ⟨o, .failed (.mismatch typed typed' long same) next⟩
        · obtain ⟨o, next⟩ := ih rest
          exact ⟨o, .failed (.tooShort typed (Nat.lt_of_not_le long)) next⟩

/-- A first line that is long enough is asked for again. -/
theorem outcome_long {line rest : List Event} {p : String} (h : Line.Typed line p)
    (long : 6 ≤ p.length) (n : Nat) :
    (choosePassword (n + 1) (line ++ rest)).outcome =
      ((askHidden "Confirm password: " rest).andThen fun second events =>
        if p = second then ⟨.ok p, "", events⟩
        else (choosePassword n events).after
          (clearLine ++ "Passwords do not match. Try again." ++ lineEnd)).outcome := by
  have valid : Credential.validatePassword p = .ok () := if_neg (Nat.not_lt_of_le long)
  rw [choosePassword, Asked.outcome_andThen_of_ok ((Line.Course.entered h rest).outcome _), valid]

/-- Asking for a password comes to what the rounds say. -/
theorem Course.outcome {n : Nat} {events : List Event}
    {o : Except PromptFault String × List Event} (h : Course n events o) :
    (choosePassword n events).outcome = o := by
  induction h with
  | confirmed h rest =>
    obtain ⟨first, second, typed, again, rfl, long⟩ := h
    rw [List.append_assoc, outcome_long typed long,
      Asked.outcome_andThen_of_ok ((Line.Course.entered again rest).outcome _), if_pos rfl]
    rfl
  | @failed n round events o h next ih =>
    cases h with
    | tooShort typed short =>
      have refused : Credential.validatePassword _ = .error _ := if_pos short
      rw [choosePassword,
        Asked.outcome_andThen_of_ok ((Line.Course.entered typed events).outcome _), refused,
        Asked.outcome_after, ih]
    | mismatch typed again long differ =>
      rw [List.append_assoc, outcome_long typed long,
        Asked.outcome_andThen_of_ok ((Line.Course.entered again events).outcome _), if_neg differ,
        Asked.outcome_after, ih]
  | exhausted events => rfl
  | noFirst h => exact Asked.outcome_andThen_of_error (h.outcome _) _
  | noSecond typed long again =>
    rw [outcome_long typed long, Asked.outcome_andThen_of_error (again.outcome _)]

/-- Asking for a password comes to what the rounds say, and nothing else. -/
theorem course (n : Nat) (events : List Event) :
    Course n events (choosePassword n events).outcome := by
  obtain ⟨o, h⟩ := exists_course n events
  exact h.outcome ▸ h

end Round

/-! ## All rounds -/

/-- The events of rounds of which the last confirms a password, after less than so many that
fail. -/
def ChosenWithin (n : Nat) (consumed : List Event) (p : String) : Prop :=
  ∃ (failed : List (List Event)) (last : List Event), failed.length < n ∧
    (∀ round ∈ failed, Round.Fails round) ∧ Round.Confirms last p ∧
    consumed = failed.flatten ++ last

/-- The events of so many rounds that fail. -/
def ExhaustedAfter (n : Nat) (consumed : List Event) : Prop :=
  ∃ failed : List (List Event), failed.length = n ∧ (∀ round ∈ failed, Round.Fails round) ∧
    consumed = failed.flatten

/-- The events after which a password is chosen. -/
def Chosen : List Event → String → Prop :=
  ChosenWithin 3

/-- The events after which no password is asked for any more. -/
def Exhausted : List Event → Prop :=
  ExhaustedAfter 3

namespace Round

variable {n : Nat} {events rest consumed : List Event} {p : String}

/-- Rounds that fail in front. -/
theorem Course.failedAll {failed : List (List Event)} (h : ∀ round ∈ failed, Fails round)
    {o : Except PromptFault String × List Event} (next : Course n events o) :
    Course (failed.length + n) (failed.flatten ++ events) o := by
  induction failed with
  | nil => rwa [List.length_nil, Nat.zero_add]
  | cons round failed ih =>
    obtain ⟨first, others⟩ := List.forall_mem_cons.mp h
    rw [List.length_cons, Nat.add_right_comm, List.flatten_cons, List.append_assoc]
    exact .failed first (ih others)

/-- What a password was chosen with. -/
theorem Course.ok_iff : Course n events (.ok p, rest) ↔
    ∃ consumed, ChosenWithin n consumed p ∧ events = consumed ++ rest := by
  constructor
  · intro h
    generalize ho : (Except.ok p, rest) = o at h
    induction h with
    | @confirmed n round q h rest' =>
      cases ho
      exact ⟨round, ⟨[], round, n.succ_pos, List.forall_mem_nil _, h, rfl⟩, rfl⟩
    | @failed n round events o h next ih =>
      obtain ⟨consumed, ⟨failed, last, few, fails, confirms, rfl⟩, rfl⟩ := ih ho
      refine ⟨round ++ (failed.flatten ++ last), ⟨round :: failed, last, Nat.succ_lt_succ few,
        List.forall_mem_cons.mpr ⟨h, fails⟩, confirms, ?_⟩, (List.append_assoc ..).symm⟩
      rw [List.flatten_cons, List.append_assoc]
    | exhausted => cases ho
    | noFirst => cases ho
    | noSecond => cases ho
  · rintro ⟨_, ⟨failed, last, few, fails, confirms, rfl⟩, rfl⟩
    obtain ⟨m, rfl⟩ := Nat.exists_eq_add_of_lt few
    rw [List.append_assoc, Nat.add_assoc]
    exact .failedAll fails (.confirmed confirms rest)

/-- What no password was chosen with, for all that was asked. -/
theorem Course.tooManyAttempts_iff : Course n events (.error .tooManyAttempts, rest) ↔
    ∃ consumed, ExhaustedAfter n consumed ∧ events = consumed ++ rest := by
  constructor
  · intro h
    generalize ho : (Except.error PromptFault.tooManyAttempts, rest) = o at h
    induction h with
    | confirmed => cases ho
    | @failed n round events o h next ih =>
      obtain ⟨consumed, ⟨failed, all, fails, rfl⟩, rfl⟩ := ih ho
      refine ⟨round ++ failed.flatten, ⟨round :: failed, congrArg Nat.succ all,
        List.forall_mem_cons.mpr ⟨h, fails⟩, ?_⟩, (List.append_assoc ..).symm⟩
      rw [List.flatten_cons]
    | exhausted events =>
      cases ho
      exact ⟨[], ⟨[], rfl, List.forall_mem_nil _, rfl⟩, rfl⟩
    | noFirst h =>
      cases ho
      nomatch h
    | noSecond _ _ again =>
      cases ho
      nomatch again
  · rintro ⟨_, ⟨failed, rfl, fails, rfl⟩, rfl⟩
    exact .failedAll fails (.exhausted rest)

/-- No event of a line takes the question back. -/
theorem interrupts_typed {line : List Event} {text : String} (h : Line.Typed line text) :
    ∀ e ∈ line, e.interrupts = false := by
  obtain ⟨keys, held, goesOn, rfl, -⟩ := h
  intro e he
  rcases List.mem_append.mp he with he | he
  · exact Event.not_interrupts_of_goesOn (goesOn e he)
  · rw [List.mem_singleton.mp he]
    rfl

/-- No event of rounds that end with a password takes the question back. -/
theorem interrupts_chosen (h : ChosenWithin n consumed p) :
    ∀ e ∈ consumed, e.interrupts = false := by
  obtain ⟨failed, last, -, fails, ⟨first, second, typed, again, rfl, -⟩, rfl⟩ := h
  have round_fails {round : List Event} (h : Fails round) : ∀ e ∈ round, e.interrupts = false := by
    cases h with
    | tooShort typed => exact interrupts_typed typed
    | mismatch typed again =>
      exact List.forall_mem_append.mpr ⟨interrupts_typed typed, interrupts_typed again⟩
  refine List.forall_mem_append.mpr ⟨fun e he => ?_,
    List.forall_mem_append.mpr ⟨interrupts_typed typed, interrupts_typed again⟩⟩
  obtain ⟨round, mem, he⟩ := List.mem_flatten.mp he
  exact round_fails (fails round mem) e he

end Round

/-! ## What is read -/

/-- What asking takes from the events: at most so many lines. What it comes to does not depend on
the events behind. -/
structure Consumes {α : Type} (ask : List Event → Asked α) (n : Nat)
    (events consumed : List Event) : Prop where
  split : events = consumed ++ (ask events).events
  lines : consumed.countP Event.isEnter ≤ n
  alike : (ask events).answer ≠ .error .closed →
    ∀ more, ask (consumed ++ more) = { ask events with events := more }

/-- Asking takes at most so many lines, whatever the events. -/
def Reads {α : Type} (ask : List Event → Asked α) (n : Nat) : Prop :=
  ∀ events, ∃ consumed, Consumes ask n events consumed

namespace Reads

variable {α β : Type} {m n : Nat} {ask : List Event → Asked α}

/-- A question whose answer is known reads nothing. -/
theorem known (answer : Except PromptFault α) (shown : String) :
    Reads (fun events => ⟨answer, shown, events⟩) n :=
  fun _ => ⟨[], rfl, Nat.zero_le n, fun _ _ => rfl⟩

theorem mono (h : Reads ask m) (hmn : m ≤ n) : Reads ask n := fun events =>
  let ⟨consumed, h⟩ := h events
  ⟨consumed, h.split, Nat.le_trans h.lines hmn, h.alike⟩

theorem after (h : Reads ask n) (shown : String) :
    Reads (fun events => (ask events).after shown) n := fun events =>
  let ⟨consumed, h⟩ := h events
  ⟨consumed, h.split, h.lines, fun still more => congrArg (Asked.after shown) (h.alike still more)⟩

/-- One question after another. -/
theorem andThen {next : α → List Event → Asked β} (h : Reads ask m) (hn : ∀ x, Reads (next x) n) :
    Reads (fun events => (ask events).andThen next) (m + n) := by
  intro events
  obtain ⟨consumed, split, few, alike⟩ := h events
  cases ha : (ask events).answer with
  | error fault =>
    refine ⟨consumed, ?_, Nat.le_add_right_of_le few, fun still more => ?_⟩
    · rw [Asked.andThen_of_error ha]
      exact split
    · rw [Asked.andThen_of_error ha] at still ⊢
      have still' : (ask events).answer ≠ .error .closed := fun h =>
        still (by rw [Except.error.inj (ha.symm.trans h)])
      have moved : ({ ask events with events := more } : Asked α).answer = .error fault := ha
      rw [alike still']
      exact Asked.andThen_of_error moved next
  | ok x =>
    obtain ⟨consumed', split', few', alike'⟩ := hn x (ask events).events
    have still' : (ask events).answer ≠ .error .closed := by
      rw [ha]
      exact nofun
    refine ⟨consumed ++ consumed', ?_, ?_, fun still more => ?_⟩
    · rw [Asked.andThen_of_ok ha, List.append_assoc]
      exact split.trans (congrArg (consumed ++ ·) split')
    · rw [List.countP_append]
      exact Nat.add_le_add few few'
    · rw [Asked.andThen_of_ok ha] at still ⊢
      have moved : ({ ask events with events := consumed' ++ more } : Asked α).answer = .ok x := ha
      rw [List.append_assoc, alike still']
      exact (Asked.andThen_of_ok moved next).trans (congrArg (Asked.after _) (alike' still more))

end Reads

/-- A line is read up to its first Enter. -/
theorem reads_typeLine (typed : List Char) : Reads (typeLine typed) 1 := by
  intro events
  induction events generalizing typed with
  | nil => exact ⟨[], rfl, Nat.zero_le 1, fun still => absurd rfl still⟩
  | cons e events ih =>
    by_cases goesOn : e.goesOn = true
    · obtain ⟨shown, step⟩ := Line.typeLine_goesOn goesOn typed
      obtain ⟨consumed, split, lines, alike⟩ := ih (e.edit typed.reverse).reverse
      have quiet : e.isEnter = false := Event.not_isEnter_of_goesOn goesOn
      refine ⟨e :: consumed, ?_, ?_, fun still more => ?_⟩
      · rw [step, List.cons_append]
        exact congrArg (e :: ·) split
      · rw [List.countP_cons_of_neg (by rw [quiet]; exact Bool.false_ne_true)]
        exact lines
      · rw [step] at still ⊢
        rw [List.cons_append, step, alike still more]
        rfl
    · rcases Event.interrupts_or_enter goesOn with interrupts | ⟨held, rfl⟩
      · obtain ⟨held, control, rfl⟩ := Event.eq_interrupt interrupts
        have stops (events : List Event) : typeLine typed (.key (.char 'c') held :: events) =
            ⟨.error .interrupted, lineEnd, events⟩ := by
          rw [typeLine, if_pos control, if_pos rfl]
        refine ⟨[.key (.char 'c') held], ?_, Nat.zero_le 1, fun _ more => ?_⟩
        · rw [stops]
          rfl
        · rw [stops]
          exact stops more
      · exact ⟨[.key .enter held], rfl, Nat.le_refl 1, fun _ _ => rfl⟩

theorem reads_askHidden (question : String) : Reads (askHidden question) 1 := by
  intro events
  obtain ⟨consumed, split, lines, alike⟩ := (reads_typeLine []).after (clearLine ++ question) events
  refine ⟨consumed, split, lines, fun still more => ?_⟩
  have still' : (typeLine [] events).answer ≠ .error .closed := fun h =>
    still (congrArg (Except.map String.ofList) h)
  unfold askHidden
  rw [alike still' more]

/-- Two lines are read for a round. -/
theorem reads_choosePassword (rounds : Nat) : Reads (choosePassword rounds) (2 * rounds) := by
  induction rounds with
  | zero => exact .known _ _
  | succ rounds ih =>
    -- a line, then another one unless the first was too short
    have reads : Reads (choosePassword (rounds + 1)) (1 + (1 + 2 * rounds)) := by
      refine (reads_askHidden "Password: ").andThen fun first => ?_
      cases Credential.validatePassword first with
      | error refusal => exact (ih.after _).mono (Nat.le_add_left _ 1)
      | ok _ =>
        refine (reads_askHidden "Confirm password: ").andThen fun second => ?_
        by_cases same : first = second
        · simp only [if_pos same]
          exact .known _ _
        · simp only [if_neg same]
          exact ih.after _
    exact reads.mono (by omega)

/-! ## A new password -/

section NewPassword

variable {events rest : List Event} {p : String}

/-- A password is chosen by the events that end with its confirmation. -/
theorem newPassword_ok_iff : (newPassword (some events)).outcome = (.ok p, rest) ↔
    ∃ consumed, Chosen consumed p ∧ events = consumed ++ rest := by
  refine ⟨fun h => Round.Course.ok_iff.mp (h ▸ Round.course passwordRounds events), fun h => ?_⟩
  exact Round.Course.outcome (Round.Course.ok_iff.mpr h)

/-- No password is chosen by the events of three rounds that fail. -/
theorem newPassword_tooManyAttempts_iff :
    (newPassword (some events)).outcome = (.error .tooManyAttempts, rest) ↔
      ∃ consumed, Exhausted consumed ∧ events = consumed ++ rest := by
  refine ⟨fun h => Round.Course.tooManyAttempts_iff.mp (h ▸ Round.course passwordRounds events),
    fun h => ?_⟩
  exact Round.Course.outcome (Round.Course.tooManyAttempts_iff.mpr h)

/-- No password is chosen that was not confirmed before the question was taken back. -/
theorem newPassword_interrupted {before after : List Event} {e : Event}
    (he : e.interrupts = true) (h : ∀ consumed p, Chosen consumed p → ¬ consumed <+: before) :
    (newPassword (some (before ++ e :: after))).answer ≠ .ok p := by
  intro ok
  obtain ⟨consumed, chosen, split⟩ := newPassword_ok_iff.mp (Prod.ext_iff.mpr ⟨ok, rfl⟩)
  refine h consumed p chosen ?_
  rcases List.append_eq_append_iff.mp split with ⟨more, hc, hm⟩ | ⟨more, hb, -⟩
  · cases more with
    | nil => exact ⟨[], by rw [hc, List.append_nil, List.append_nil]⟩
    | cons e' more =>
      -- the event that takes the question back would be one of those that chose the password
      have same : e = e' := (List.cons.inj hm).1
      have quiet : e.interrupts = false := by
        refine Round.interrupts_chosen chosen e ?_
        rw [hc, same]
        exact List.mem_append_right _ List.mem_cons_self
      exact absurd (he.symm.trans quiet) Bool.true_eq_false.mp
  · exact ⟨more, hb.symm⟩

end NewPassword

end Scrip.Terminal
