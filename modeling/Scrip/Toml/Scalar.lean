import Scrip.Number.Rounding
import Scrip.Settings.Value
import Scrip.Time.Rfc3339

/-!
# Scalars of TOML

Strings, numbers, times and truth values, read from the front of a text.

* `readString?`: the four kinds of strings.
* `ofWord?`: what an unquoted word stands for. Times stay text, in one spelling.
-/

namespace Scrip.Toml

open Settings (Value)
open Numeral (takeSign)

/-- Reads something from the front of a text and gives the rest. -/
abbrev Reader (α : Type) : Type :=
  List Char → Option (α × List Char)

/-- Whether a character must not stand in strings and comments. A tab may. -/
def isControl (c : Char) : Bool :=
  (c.toNat < 32 && c != '\t') || c.toNat == 127

/-! ## Strings -/

/-- The value of hexadecimal digits. -/
def readHex? (cs : List Char) : Option Nat :=
  cs.foldlM (fun n c =>
    if c.isDigit then some (16 * n + (c.toNat - 48))
    else if 'a' ≤ c.toLower ∧ c.toLower ≤ 'f' then some (16 * n + (c.toLower.toNat - 87))
    else none) 0

/-- A character by its number in some hexadecimal digits. -/
def hexChar (width : Nat) (cs : List Char) : Option (Char × List Char) :=
  if cs.length < width then none
  else do
    let n ← readHex? (cs.take width)
    if n.isValidChar then some (Char.ofNat n, cs.drop width) else none

/-- What stands after a backslash. -/
def escaped : Reader Char
  | 'b' :: cs => some ('\x08', cs)
  | 't' :: cs => some ('\t', cs)
  | 'n' :: cs => some ('\n', cs)
  | 'f' :: cs => some ('\x0c', cs)
  | 'r' :: cs => some ('\r', cs)
  | 'e' :: cs => some ('\x1b', cs)
  | '"' :: cs => some ('"', cs)
  | '\\' :: cs => some ('\\', cs)
  | 'x' :: cs => hexChar 2 cs
  | 'u' :: cs => hexChar 4 cs
  | 'U' :: cs => hexChar 8 cs
  | _ => none

/-- A line break in front of the text passed. -/
def lineBreak? : List Char → Option (List Char)
  | '\n' :: cs => some cs
  | '\r' :: '\n' :: cs => some cs
  | _ => none

/-- Whether a character is a space within a line. -/
def isSpace (c : Char) : Bool :=
  c == ' ' || c == '\t'

/-- The text after a backslash at the end of a line: spaces and line breaks are passed. The line
break has to come after spaces only. -/
def joinedLine? (cs : List Char) : Option (List Char) :=
  (lineBreak? (cs.dropWhile isSpace)).map fun rest =>
    rest.dropWhile fun c => isSpace c || c == '\n' || c == '\r'

/-- How a string is delimited and whether a backslash means something in it. -/
structure StringKind where
  quote : Char
  escapes : Bool
  lines : Bool

/-- The closing quotes of a string over several lines. Up to two more quotes belong to the text. -/
def closing? (quote : Char) (cs : List Char) : Option (List Char × List Char) :=
  let quotes := (cs.takeWhile (· == quote)).length
  if quotes < 3 ∨ 5 < quotes then none
  else some (List.replicate (quotes - 3) quote, cs.drop quotes)

/-- At most `fuel` characters of a string, up to its end. -/
def stringChars (kind : StringKind) : (fuel : Nat) → Reader (List Char)
  | 0, _ => none
  | _ + 1, [] => none
  | fuel + 1, c :: cs =>
    if c = kind.quote ∧ !kind.lines then some ([], cs)
    else
      match if c = kind.quote then closing? kind.quote (c :: cs) else none with
      | some found => some found
      | none =>
        if c = '\\' ∧ kind.escapes then
          match if kind.lines then joinedLine? cs else none with
          | some rest => stringChars kind fuel rest
          | none => do
            let (d, rest) ← escaped cs
            let (ds, rest) ← stringChars kind fuel rest
            some (d :: ds, rest)
        else
          match if kind.lines then lineBreak? (c :: cs) else none with
          | some rest => do
            let (ds, rest) ← stringChars kind fuel rest
            some ('\n' :: ds, rest)
          | none =>
            if isControl c then none
            else do
              let (ds, rest) ← stringChars kind fuel cs
              some (c :: ds, rest)

/-- The text of a string after its opening quotes. A line break right after three quotes does not
count. -/
def stringBody (kind : StringKind) (cs : List Char) : Option (String × List Char) := do
  let cs := if kind.lines then (lineBreak? cs).getD cs else cs
  let (chars, rest) ← stringChars kind (cs.length + 1) cs
  some (String.ofList chars, rest)

/-- A string on one line. -/
def readLineString? : Reader String
  | '"' :: cs => stringBody ⟨'"', true, false⟩ cs
  | '\'' :: cs => stringBody ⟨'\'', false, false⟩ cs
  | _ => none

/-- A string of any kind. -/
def readString? : Reader String
  | '"' :: '"' :: '"' :: cs => stringBody ⟨'"', true, true⟩ cs
  | '\'' :: '\'' :: '\'' :: cs => stringBody ⟨'\'', false, true⟩ cs
  | cs => readLineString? cs

/-! ## Numbers -/

/-- Digits without the underscores between them. Each underscore has to stand between two
digits. -/
def joinDigits? (isDigit : Char → Bool) : List Char → Option (List Char)
  | [] => none
  | [c] => if isDigit c then some [c] else none
  | c :: '_' :: cs => if isDigit c then (joinDigits? isDigit cs).map (c :: ·) else none
  | c :: cs => if isDigit c then (joinDigits? isDigit cs).map (c :: ·) else none

/-- Decimal digits of which the first is no zero, unless it is the only one. -/
def wholeDigits? (cs : List Char) : Option (List Char) :=
  match joinDigits? Char.isDigit cs with
  | some ('0' :: _ :: _) => none
  | digits => digits

/-- The value of digits in a base. -/
def ofDigits (base : Nat) (cs : List Char) : Nat :=
  cs.foldl (fun n c =>
    base * n + if c.isDigit then c.toNat - 48 else c.toLower.toNat - 87) 0

/-- A whole number that fits 64 bits. -/
def fitting? (n : Int) : Option Value :=
  if -(twoPow 63 : Int) ≤ n ∧ n < twoPow 63 then some (.integer n) else none

/-- A whole number, in base ten or with a mark of its base in front. -/
def ofInteger? (cs : List Char) : Option Value :=
  match cs with
  | '0' :: 'x' :: ds =>
    (joinDigits? (fun c => c.isDigit || ('a' ≤ c.toLower && c.toLower ≤ 'f')) ds).bind fun ds =>
      fitting? (ofDigits 16 ds)
  | '0' :: 'o' :: ds =>
    (joinDigits? (fun c => '0' ≤ c && c ≤ '7') ds).bind fun ds => fitting? (ofDigits 8 ds)
  | '0' :: 'b' :: ds =>
    (joinDigits? (fun c => c == '0' || c == '1') ds).bind fun ds => fitting? (ofDigits 2 ds)
  | cs =>
    let (negative, ds) := takeSign cs
    (wholeDigits? ds).bind fun ds =>
      let n : Int := ofDigits 10 ds
      fitting? (if negative then -n else n)

/-- The digits of an exponent, with a sign or not. -/
def exponent? (cs : List Char) : Option Int :=
  let (negative, ds) := takeSign cs
  (joinDigits? Char.isDigit ds).map fun ds =>
    let n : Int := ofDigits 10 ds
    if negative then -n else n

/-- A number with a fraction or an exponent, or one of the words for what is no number. -/
def ofFloating? (cs : List Char) : Option Value :=
  let (negative, cs) := takeSign cs
  if cs = "inf".toList then some (.floating (.infinite negative))
  else if cs = "nan".toList then some (.floating .nan)
  else
    let isMark (c : Char) : Bool := c == 'e' || c == 'E'
    let significand := cs.takeWhile (!isMark ·)
    let fraction : Option (List Char) := match significand.dropWhile (· != '.') with
      | [] => some []
      | _ :: ds => joinDigits? Char.isDigit ds
    let exponent : Option Int := match cs.dropWhile (!isMark ·) with
      | [] => if significand.contains '.' then some 0 else none
      | _ :: ds => exponent? ds
    match wholeDigits? (significand.takeWhile (· != '.')), fraction, exponent with
    | some whole, some fraction, some e =>
      some (.floating (.ofDecimal negative (ofDigits 10 (whole ++ fraction))
        (e - fraction.length)))
    | _, _, _ => none

/-! ## Times -/

/-- A number of exactly so many digits. -/
def fixedDigits? (width : Nat) (cs : List Char) : Option (Nat × List Char) :=
  if cs.length < width then none
  else (Numeral.digits? (cs.take width)).map fun n => (n, cs.drop width)

/-- A date as `year-month-day`. -/
def readDate? (cs : List Char) : Option (String × List Char) := do
  let (year, cs) ← fixedDigits? 4 cs
  let '-' :: cs := cs | none
  let (month, cs) ← fixedDigits? 2 cs
  let '-' :: cs := cs | none
  let (day, cs) ← fixedDigits? 2 cs
  let date ← Date.ofParts? year month day
  some (date.render, cs)

/-- The fraction of a second without zeros at its end, cut to nine digits. -/
def renderFraction (digits : List Char) : String :=
  match ((digits.take 9).reverse.dropWhile (· == '0')).reverse with
  | [] => ""
  | digits => "." ++ String.ofList digits

/-- The seconds of a time of day, if it has any, with their fraction. -/
def readSeconds? : Reader String
  | ':' :: cs => do
    let (second, cs) ← fixedDigits? 2 cs
    if 60 < second then none
    else match cs with
      | '.' :: cs =>
        let digits := cs.takeWhile Char.isDigit
        if digits.isEmpty then none
        else
          some (":" ++ paddedNat 2 second ++ renderFraction digits, cs.dropWhile Char.isDigit)
      | cs => some (":" ++ paddedNat 2 second, cs)
  | cs => some ("", cs)

/-- Hours and minutes. -/
def readMinutes? (cs : List Char) : Option (String × List Char) := do
  let (hour, cs) ← fixedDigits? 2 cs
  let ':' :: cs := cs | none
  let (minute, cs) ← fixedDigits? 2 cs
  if 24 ≤ hour ∨ 60 ≤ minute then none
  else some (paddedNat 2 hour ++ ":" ++ paddedNat 2 minute, cs)

/-- A time of day. -/
def readTime? (cs : List Char) : Option (String × List Char) := do
  let (minutes, cs) ← readMinutes? cs
  let (seconds, cs) ← readSeconds? cs
  some (minutes ++ seconds, cs)

/-- An offset at the end of a text, or nothing. -/
def offset? : List Char → Option String
  | [] => some ""
  | ['Z'] | ['z'] => some "Z"
  | sign :: cs =>
    match readMinutes? cs with
    | some (minutes, []) =>
      if sign = '+' then some ("+" ++ minutes)
      else if sign = '-' then some ((if minutes = "00:00" then "+" else "-") ++ minutes)
      else none
    | _ => none

/-- A date, a time of day, or both with an offset or without one. -/
def ofTime? (cs : List Char) : Option Value :=
  match readDate? cs with
  | some (date, []) => some (.text date)
  | some (date, c :: cs) =>
    if c = 'T' ∨ c = 't' ∨ c = ' ' then do
      let (time, cs) ← readTime? cs
      let offset ← offset? cs
      some (.text (date ++ "T" ++ time ++ offset))
    else none
  | none =>
    match readTime? cs with
    | some (time, []) => some (.text time)
    | _ => none

/-- What an unquoted word stands for. -/
def ofWord? (cs : List Char) : Option Value :=
  if cs = "true".toList then some (.boolean true)
  else if cs = "false".toList then some (.boolean false)
  else ofInteger? cs <|> ofTime? cs <|> ofFloating? cs

/-- Whether a character may stand in an unquoted word. -/
def isWordChar (c : Char) : Bool :=
  c.isAlphanum || c == '+' || c == '-' || c == '_' || c == '.' || c == ':'

/-- An unquoted word. A date and a time of day may have a space between them. -/
def takeWord (cs : List Char) : List Char × List Char :=
  let word := cs.takeWhile isWordChar
  match readDate? word, cs.dropWhile isWordChar with
  | some (_, []), ' ' :: rest =>
    let second := rest.takeWhile isWordChar
    if (readMinutes? second).isSome then (word ++ ' ' :: second, rest.dropWhile isWordChar)
    else (word, ' ' :: rest)
  | _, rest => (word, rest)

end Scrip.Toml
