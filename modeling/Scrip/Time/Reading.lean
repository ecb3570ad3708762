import Scrip.Number.Rounding
import Scrip.Time.Instant

/-!
# Reading stored times

The spellings of an instant that a table column may hold. A time without an offset is taken at
the offset zero.

* `Layout`: a form of timestamp, as a list of the fields it consists of.
* `Instant.ofRfc3339?`: the form in which instants are stored.
* `Instant.ofStored?`: that form first, then the other spellings that databases write.
-/

namespace Scrip

/-- A part of a written timestamp. -/
inductive TimeField where
  | year
  | month
  | day
  | hour
  | minute
  | second
  /-- A point and up to nine digits, or nothing. -/
  | fraction
  /-- A sign, hours and minutes. -/
  | offset
  | mark (c : Char)
  deriving DecidableEq, Repr

/-- What has been read of a timestamp. -/
structure TimeParts where
  year : Int := 0
  month : Nat := 0
  day : Nat := 0
  hour : Nat := 0
  minute : Nat := 0
  second : Nat := 0
  nanosecond : Nat := 0
  /-- Seconds that the written time is ahead of the offset zero. -/
  offset : Int := 0

namespace TimeField

/-- At most `limit` digits in front of the text, as a number with its count of digits. -/
def takeDigits : Nat → List Char → Nat × Nat × List Char
  | 0, cs => (0, 0, cs)
  | _ + 1, [] => (0, 0, [])
  | limit + 1, c :: cs =>
    if c.isDigit then
      let (value, count, rest) := takeDigits limit cs
      ((c.toNat - 48) * tenPow count + value, count + 1, rest)
    else (0, 0, c :: cs)

/-- A number of one digit up to `limit` digits. -/
def number? (limit : Nat) (cs : List Char) : Option (Nat × List Char) :=
  match takeDigits limit cs with
  | (_, 0, _) => none
  | (value, _, rest) => some (value, rest)

/-- A number of exactly two digits. -/
def twoDigits? (cs : List Char) : Option (Nat × List Char) :=
  match takeDigits 2 cs with
  | (value, 2, rest) => some (value, rest)
  | _ => none

/-- A year of up to four digits, or of any number of digits after a sign. -/
def year? (cs : List Char) : Option (Int × List Char) :=
  match cs with
  | '-' :: cs => (number? cs.length cs).map fun (n, rest) => (-(n : Int), rest)
  | '+' :: cs => (number? cs.length cs).map fun (n, rest) => ((n : Int), rest)
  | cs => (number? 4 cs).map fun (n, rest) => ((n : Int), rest)

/-- The nanoseconds after a point; digits past the ninth are dropped. -/
def fraction? (cs : List Char) : Option (Nat × List Char) :=
  match cs with
  | '.' :: cs =>
    match takeDigits 9 cs with
    | (_, 0, _) => none
    | (value, count, rest) => some (value * tenPow (9 - count), rest.dropWhile Char.isDigit)
  | cs => some (0, cs)

/-- An offset in seconds: a sign, two digits, an optional colon, two digits. -/
def offset? (cs : List Char) : Option (Int × List Char) :=
  match cs with
  | [] => none
  | sign :: cs =>
    let negative := sign == '-' || sign == '−'
    if !negative && sign != '+' then none
    else do
      let (hours, cs) ← twoDigits? cs
      let cs := match cs with
        | ':' :: cs => cs
        | cs => cs
      let (minutes, cs) ← twoDigits? cs
      if 60 ≤ minutes || 24 ≤ hours then none
      else
        let size : Int := hours * 3600 + minutes * 60
        some (if negative then -size else size, cs)

/-- Reads one field into the parts. -/
def read? (field : TimeField) (parts : TimeParts) (cs : List Char) :
    Option (TimeParts × List Char) :=
  let spaceless := cs.dropWhile (· == ' ')
  match field with
  | year => (year? spaceless).map fun (v, rest) => ({ parts with year := v }, rest)
  | month => (number? 2 spaceless).map fun (v, rest) => ({ parts with month := v }, rest)
  | day => (number? 2 spaceless).map fun (v, rest) => ({ parts with day := v }, rest)
  | hour => (number? 2 spaceless).map fun (v, rest) => ({ parts with hour := v }, rest)
  | minute => (number? 2 spaceless).map fun (v, rest) => ({ parts with minute := v }, rest)
  | second => (number? 2 spaceless).map fun (v, rest) => ({ parts with second := v }, rest)
  | fraction => (fraction? cs).map fun (v, rest) => ({ parts with nanosecond := v }, rest)
  | offset => (offset? cs).map fun (v, rest) => ({ parts with offset := v }, rest)
  | mark c =>
    match cs with
    | d :: rest => if d = c then some (parts, rest) else none
    | [] => none

/-- Reads a whole text as the fields of a layout. -/
def readAll? : List TimeField → TimeParts → List Char → Option TimeParts
  | [], parts, cs => if cs.isEmpty then some parts else none
  | field :: fields, parts, cs =>
    match field.read? parts cs with
    | none => none
    | some (parts, rest) => readAll? fields parts rest

end TimeField

namespace TimeParts

/-- The instant of the parts, when they name a day and a time of day. Second 60 is the leap
second after second 59. -/
def toInstant? (p : TimeParts) : Option Instant :=
  match Date.ofParts? p.year p.month p.day with
  | none => none
  | some date =>
    if 24 ≤ p.hour ∨ 60 ≤ p.minute ∨ 60 < p.second then none
    else
      let second := min p.second 59
      let leap := p.second - second
      let secondOfDay : Int := p.hour * 3600 + p.minute * 60 + second
      some ⟨date.toDays * 86400 + secondOfDay - p.offset, p.nanosecond + leap * 1000000000⟩

end TimeParts

namespace Instant

open TimeField

/-- A timestamp with all fields at full width and an offset. -/
def ofRfc3339? (cs : List Char) : Option Instant := do
  let (y, count, cs) := takeDigits 4 cs
  if count ≠ 4 then none
  let (parts, cs) ← read? (.mark '-') {} cs
  let (m, cs) ← twoDigits? cs
  let (parts, cs) ← read? (.mark '-') { parts with year := y, month := m } cs
  let (d, cs) ← twoDigits? cs
  let cs ← match cs with
    | c :: cs => if c = 'T' ∨ c = 't' ∨ c = ' ' then some cs else none
    | [] => none
  let (h, cs) ← twoDigits? cs
  let (parts, cs) ← read? (.mark ':') { parts with day := d, hour := h } cs
  let (mi, cs) ← twoDigits? cs
  let (parts, cs) ← read? (.mark ':') { parts with minute := mi } cs
  let (s, cs) ← twoDigits? cs
  let (parts, cs) ← read? .fraction { parts with second := s } cs
  match cs with
  | ['Z'] | ['z'] => parts.toInstant?
  | cs =>
    if (cs.drop 3).head? = some ':' then
      match offset? cs with
      | some (ahead, []) => TimeParts.toInstant? { parts with offset := ahead }
      | _ => none
    else none

/-- The date in every layout. -/
def dateFields : List TimeField :=
  [.year, .mark '-', .month, .mark '-', .day]

/-- The time of day to the minute. -/
def minuteFields : List TimeField :=
  [.hour, .mark ':', .minute]

/-- The time of day with seconds and a fraction. -/
def secondFields : List TimeField :=
  minuteFields ++ [.mark ':', .second, .fraction]

/-- The layouts that are tried in turn when the fields of a text are not all at full width. -/
def storedLayouts : List (List TimeField) :=
  [dateFields ++ [.mark ' '] ++ secondFields,
   dateFields ++ [.mark ' '] ++ minuteFields,
   dateFields ++ [.mark ' '] ++ minuteFields ++ [.mark 'Z'],
   dateFields ++ [.mark ' '] ++ minuteFields ++ [.offset],
   dateFields ++ [.mark ' '] ++ secondFields ++ [.mark 'Z'],
   dateFields ++ [.mark ' '] ++ secondFields ++ [.offset],
   dateFields ++ [.mark 'T'] ++ minuteFields,
   dateFields ++ [.mark 'T'] ++ minuteFields ++ [.mark 'Z'],
   dateFields ++ [.mark 'T'] ++ minuteFields ++ [.offset],
   dateFields ++ [.mark 'T'] ++ secondFields,
   dateFields ++ [.mark 'T'] ++ secondFields ++ [.mark 'Z'],
   dateFields ++ [.mark 'T'] ++ secondFields ++ [.offset]]

/-- The instant that a stored text names. -/
def ofStored? (s : String) : Option Instant :=
  match ofRfc3339? s.toList with
  | some t => some t
  | none =>
    storedLayouts.findSome? fun layout =>
      (readAll? layout {} s.toList).bind TimeParts.toInstant?

end Instant

end Scrip
