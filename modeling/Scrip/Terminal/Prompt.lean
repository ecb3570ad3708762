import Scrip.Credential.Password
import Scrip.Terminal.Event

/-!
# Prompts

A password typed twice on a terminal, without being shown.

* `typeLine`: what a line of keys gives, what is shown meanwhile, and the events after it.
* `choosePassword`: a password that is acceptable and was typed the same again, within so many
  rounds.
-/

namespace Scrip.Terminal

/-- Why no password was chosen. -/
inductive PromptFault where
  /-- There is no terminal to ask on. -/
  | noTerminal
  | interrupted
  | tooManyAttempts
  /-- Nothing more is typed. -/
  | closed
  deriving DecidableEq, Repr

/-- What came of asking: an answer or why there is none, what was shown, and the events that are
left. -/
structure Asked (α : Type) where
  answer : Except PromptFault α
  shown : String
  events : List Event

namespace Asked

/-- More shown in front. -/
def after {α : Type} (shown : String) (a : Asked α) : Asked α :=
  { a with shown := shown ++ a.shown }

/-- What is asked next, when there was an answer. -/
def andThen {α β : Type} (a : Asked α) (next : α → List Event → Asked β) : Asked β :=
  match a.answer with
  | .ok answer => (next answer a.events).after a.shown
  | .error fault => { a with answer := .error fault }

end Asked

/-- Moves to the start of the line and clears it. -/
def clearLine : String := "\x1b[1G\x1b[2K"

/-- Removes the mark before the cursor. -/
def eraseMark : String := "\x1b[1D \x1b[1D"

/-- Ends a line. -/
def lineEnd : String := "\r\n"

/-- A line of keys, of which the last characters typed are given in reverse. A mark is shown for
each character; characters with the control key do not count, but one of them interrupts. -/
def typeLine (typed : List Char) : List Event → Asked (List Char)
  | [] => ⟨.error .closed, "", []⟩
  | .key .enter _ :: events => ⟨.ok typed.reverse, lineEnd, events⟩
  | .key .backspace _ :: events =>
    match typed with
    | [] => typeLine [] events
    | _ :: typed => (typeLine typed events).after eraseMark
  | .key (.char c) held :: events =>
    if held.control then
      if c = 'c' then ⟨.error .interrupted, lineEnd, events⟩ else typeLine typed events
    else (typeLine (c :: typed) events).after "*"
  | _ :: events => typeLine typed events

/-- A line typed after a text that asks for it. -/
def askHidden (question : String) (events : List Event) : Asked String :=
  let line := (typeLine [] events).after (clearLine ++ question)
  { line with answer := line.answer.map String.ofList }

/-- A password that is acceptable and was typed the same again, within so many rounds. -/
def choosePassword : (rounds : Nat) → List Event → Asked String
  | 0, events => ⟨.error .tooManyAttempts, "", events⟩
  | rounds + 1, events =>
    (askHidden "Password: " events).andThen fun first events =>
      match Credential.validatePassword first with
      | .error refusal =>
        (choosePassword rounds events).after (clearLine ++ refusal.message ++ lineEnd)
      | .ok () =>
        (askHidden "Confirm password: " events).andThen fun second events =>
          if first = second then ⟨.ok first, "", events⟩
          else
            (choosePassword rounds events).after
              (clearLine ++ "Passwords do not match. Try again." ++ lineEnd)

/-- How often a password may be asked for. -/
def passwordRounds : Nat := 3

/-- A password chosen on a terminal, if there is one. -/
def newPassword : Option (List Event) → Asked String
  | none => ⟨.error .noTerminal, "", []⟩
  | some events => choosePassword passwordRounds events

end Scrip.Terminal
