import Scrip.Number.Numeral

/-!
# Events of a terminal

What a terminal sends for the keys that are pressed, when it passes everything on as it is: one
character for most, a sequence that begins with an escape for the others.

* `Event.read?`: the first event of a text. A sequence that stands for nothing counts as one.
* `Event.readAll`: the events of a text. A sequence that does not end gives none.
-/

namespace Scrip.Terminal

/-- Which key it is, as far as it matters when a line is typed. -/
inductive KeyCode where
  | enter
  | backspace
  | char (c : Char)
  | other
  deriving DecidableEq, Repr

/-- Which keys are held with another one. -/
structure Modifiers where
  shift : Bool := false
  alt : Bool := false
  control : Bool := false
  deriving DecidableEq, Repr

/-- Something that a terminal tells: a key was pressed, or anything else. -/
inductive Event where
  | key (code : KeyCode) (held : Modifiers)
  | other
  deriving DecidableEq, Repr

namespace Event

/-- The event with the alternate key held as well. -/
def withAlt : Event → Event
  | key code held => key code { held with alt := true }
  | other => other

/-! ## Sequences -/

/-- The text after the first character of a kind. -/
def after? (isLast : Char → Bool) : List Char → Option (List Char)
  | [] => none
  | c :: cs => if isLast c then some cs else after? isLast cs

/-- The text after the first place at which some text stands. -/
def afterText? (text : List Char) : List Char → Option (List Char)
  | [] => none
  | c :: cs =>
    if text.isPrefixOf (c :: cs) then some ((c :: cs).drop text.length) else afterText? text cs

/-- The text after a number of bytes. A character that these end in is passed as a whole. -/
def afterBytes? : Nat → List Char → Option (List Char)
  | 0, cs => some cs
  | _ + 1, [] => none
  | n + 1, c :: cs => afterBytes? (n + 1 - c.utf8Size) cs

/-- The parts of a text between marks. -/
def parts (mark : Char) (cs : List Char) : List (List Char) :=
  cs.foldr (fun c parts =>
    match parts with
    | [] => [[c]]
    | part :: parts => if c = mark then [] :: part :: parts else (c :: part) :: parts) [[]]

/-- What the keys beside the letters are known by. -/
def keypad : List (Nat × Char) := [
  (57399, '0'), (57400, '1'), (57401, '2'), (57402, '3'), (57403, '4'), (57404, '5'),
  (57405, '6'), (57406, '7'), (57407, '8'), (57408, '9'), (57409, '.'), (57410, '/'),
  (57411, '*'), (57412, '-'), (57413, '+'), (57415, '='), (57416, ',')]

/-- Whether a number is that of a key without a character. -/
def isFunction (n : Nat) : Bool :=
  (57358 ≤ n && n ≤ 57363) || (57376 ≤ n && n ≤ 57398) || (57417 ≤ n && n ≤ 57454)

/-- The key of a number: one of those beside the letters, or that of a character. -/
def codeOfNumber? (n : Nat) : Option KeyCode :=
  if n = 57414 then some .enter
  else if isFunction n then some .other
  else
    match keypad.lookup n with
    | some c => some (.char c)
    | none =>
      if !n.isValidChar then none
      else
        match Char.ofNat n with
        | '\r' => some .enter
        | '\x7f' => some .backspace
        | '\t' | '\x1b' => some .other
        | c => some (.char c)

/-- The key of a sequence that gives it by numbers: the key, after a colon the character that it
becomes with the shift key, and after a semicolon which keys are held, counted from one. -/
def ofNumbers? (cs : List Char) : Option Event := do
  let sections := (parts ';' cs).map (parts ':')
  let codes ← sections[0]?
  let code ← codeOfNumber? (← codes[0]?.bind (Numeral.natural? 32))
  let mask := ((sections[1]?.bind (·[0]?)).bind (Numeral.natural? 8)).getD 1 - 1
  let held : Modifiers :=
    { shift := mask.testBit 0, alt := mask.testBit 1, control := mask.testBit 2 }
  let shifted := (codes[1]?.bind (Numeral.natural? 32)).filter fun n => held.shift && n.isValidChar
  return match shifted with
    | some n => key (.char (Char.ofNat n)) { held with shift := false }
    | none => key code held

/-- Whether a character ends a sequence that begins with a number. -/
def isFinal (c : Char) : Bool :=
  64 ≤ c.toNat && c.toNat ≤ 126

/-- The event of a sequence that begins with a number, and the text after it. Text that is pasted
stands between two of them. -/
def readNumbered? (cs : List Char) : Option (Event × List Char) :=
  match cs.takeWhile (!isFinal ·), cs.dropWhile (!isFinal ·) with
  | _, [] => none
  | ['2', '0', '0'], '~' :: rest =>
    (afterText? "\x1b[201~".toList rest).map fun rest => (other, rest)
  | numbers, 'u' :: rest => some ((ofNumbers? numbers).getD other, rest)
  | _, _ :: rest => some (other, rest)

/-- The event of a sequence after its escape and bracket, and the text after it. -/
def readSequence? : List Char → Option (Event × List Char)
  | [] => none
  | '[' :: cs => (after? (fun _ => true) cs).map fun rest => (other, rest)
  | 'M' :: cs => (afterBytes? 3 cs).map fun rest => (other, rest)
  | '<' :: cs => (after? (fun c => c == 'm' || c == 'M') cs).map fun rest => (other, rest)
  | '?' :: 'u' :: cs | '?' :: cs =>
    (after? (fun c => c == 'u' || c == 'c') cs).map fun rest => (other, rest)
  | c :: cs => if c.isDigit then readNumbered? (c :: cs) else some (other, cs)

/-- The event of a single character. The first ones are those of the letters with the control
key. -/
def ofChar (c : Char) : Event :=
  match c with
  | '\r' => key .enter {}
  | '\x7f' => key .backspace {}
  | '\t' => key .other {}
  | c =>
    if 32 ≤ c.toNat then key (.char c) {}
    else if 1 ≤ c.toNat ∧ c.toNat ≤ 26 then
      key (.char (Char.ofNat (c.toNat + 96))) { control := true }
    else key .other { control := true }

/-- The first event of a text, and the text after it. A key after an escape is that key with the
alternate key held. -/
def read? : List Char → Option (Event × List Char)
  | [] => none
  | '\x1b' :: '[' :: cs => readSequence? cs
  | '\x1b' :: 'O' :: cs => (after? (fun _ => true) cs).map fun rest => (other, rest)
  | '\x1b' :: '\x1b' :: cs => some (other, cs)
  | '\x1b' :: c :: cs => some ((ofChar c).withAlt, cs)
  | ['\x1b'] => some (other, [])
  | c :: cs => some (ofChar c, cs)

/-- At most `fuel` events of a text. -/
def readMany : (fuel : Nat) → List Char → List Event
  | 0, _ => []
  | fuel + 1, cs =>
    match read? cs with
    | some (event, rest) => event :: readMany fuel rest
    | none => []

/-- The events of a text. -/
def readAll (typed : String) : List Event :=
  readMany typed.length typed.toList

end Event

end Scrip.Terminal
