import Scrip.Number.Rounding

/-!
# Reading JSON

Scalars of JSON, read from the front of a text. Reading stops at the first thing that is wrong, and
tells in which of three ways it is.

* `Flaw`: the text ends too early, is no JSON, or is JSON of another shape than wanted.
* `readString`, `readInteger`: the scalars that are wanted.
* `otherKind`: what is wrong with a value of another kind than wanted. Its scalars are read to
  their end first, so that a text that is no JSON is told from one of another shape.
-/

namespace Scrip.Json

/-- What is wrong with a text. -/
inductive Flaw where
  /-- The text ends too early. -/
  | cutOff
  /-- The text is no JSON. -/
  | malformed
  /-- The text is JSON, as far as it was read, but of another shape. -/
  | mismatch
  deriving DecidableEq, Repr

/-- Reads a value from the front of a text and gives the rest. -/
abbrev Reader (α : Type) : Type :=
  List Char → Except Flaw (α × List Char)

/-- The four characters that may stand between tokens. -/
def isSpace (c : Char) : Bool :=
  c == ' ' || c == '\n' || c == '\t' || c == '\r'

/-- The text without spaces in front. -/
def skipSpace (cs : List Char) : List Char :=
  cs.dropWhile isSpace

/-- Passes a word letter by letter. -/
def word : List Char → Reader Unit
  | [], cs => .ok ((), cs)
  | _ :: _, [] => .error .cutOff
  | c :: letters, d :: cs => if c = d then word letters cs else .error .malformed

/-! ## Strings -/

/-- The value of a hexadecimal digit. -/
def hexValue? (c : Char) : Option Nat :=
  if '0' ≤ c ∧ c ≤ '9' then some (c.toNat - 48)
  else if 'a' ≤ c ∧ c ≤ 'f' then some (c.toNat - 87)
  else if 'A' ≤ c ∧ c ≤ 'F' then some (c.toNat - 55)
  else none

/-- Four hexadecimal digits. A text of fewer than four bytes is cut off. -/
def hexUnit : Reader Nat
  | a :: b :: c :: d :: cs =>
    match hexValue? a, hexValue? b, hexValue? c, hexValue? d with
    | some a, some b, some c, some d => .ok (((a * 16 + b) * 16 + c) * 16 + d, cs)
    | _, _, _, _ => .error .malformed
  | cs => .error (if (String.ofList cs).utf8ByteSize < 4 then .cutOff else .malformed)

/-- The second half of a surrogate pair, as an escape of its own. -/
def secondSurrogate (first : Nat) : Reader Char
  | [] => .error .cutOff
  | '\\' :: [] => .error .cutOff
  | '\\' :: 'u' :: cs => do
    let (second, rest) ← hexUnit cs
    if 0xDC00 ≤ second ∧ second ≤ 0xDFFF then
      .ok (Char.ofNat (0x10000 + (first - 0xD800) * 0x400 + (second - 0xDC00)), rest)
    else .error .malformed
  | _ => .error .malformed

/-- A character by number: one escape, or two for a character past 16 bits. -/
def numbered (cs : List Char) : Except Flaw (Char × List Char) := do
  let (unit, rest) ← hexUnit cs
  if 0xDC00 ≤ unit ∧ unit ≤ 0xDFFF then .error .malformed
  else if 0xD800 ≤ unit ∧ unit ≤ 0xDBFF then secondSurrogate unit rest
  else .ok (Char.ofNat unit, rest)

/-- The characters that one letter after a backslash stands for. -/
def lettered? : Char → Option Char
  | '"' => some '"'
  | '\\' => some '\\'
  | '/' => some '/'
  | 'b' => some '\x08'
  | 'f' => some '\x0c'
  | 'n' => some '\n'
  | 'r' => some '\r'
  | 't' => some '\t'
  | _ => none

/-- What stands after a backslash. -/
def escaped : Reader Char
  | [] => .error .cutOff
  | 'u' :: cs => numbered cs
  | c :: cs =>
    match lettered? c with
    | some d => .ok (d, cs)
    | none => .error .malformed

/-- At most `fuel` characters of a string, up to its closing quote. -/
def stringChars : (fuel : Nat) → Reader (List Char)
  | 0, _ => .error .cutOff
  | _ + 1, [] => .error .cutOff
  | fuel + 1, c :: cs =>
    if c = '"' then .ok ([], cs)
    else if c = '\\' then do
      let (d, rest) ← escaped cs
      let (ds, rest) ← stringChars fuel rest
      .ok (d :: ds, rest)
    else if c.toNat < 32 then .error .malformed
    else do
      let (ds, rest) ← stringChars fuel cs
      .ok (c :: ds, rest)

/-- The text of a string whose opening quote was passed. -/
def stringBody (cs : List Char) : Except Flaw (String × List Char) := do
  let (chars, rest) ← stringChars (cs.length + 1) cs
  .ok (String.ofList chars, rest)

/-! ## Numbers -/

/-- The largest number of 64 bits without a sign. -/
def maxWord : Nat := twoPow 64 - 1

/-- The value of a decimal digit. -/
def digitValue (c : Char) : Nat :=
  c.toNat - 48

/-- A number with more digits at its end, as many as fit 64 bits, and how many that are. -/
def accumulate : Nat → List Char → Nat × Nat
  | n, [] => (n, 0)
  | n, d :: ds =>
    if 10 * n + digitValue d ≤ maxWord then
      let (value, count) := accumulate (10 * n + digitValue d) ds
      (value, count + 1)
    else (n, 0)

/-- Whether `significand · 10 ^ exponent` is too large for floating point: factors and product
are rounded, and the product reaches what rounds past the largest number. -/
def isTooLarge (significand : Nat) (exponent : Int) : Bool :=
  significand != 0 && 0 ≤ exponent &&
    (308 < exponent ||
      twoPow 1024 - twoPow 970 ≤ roundBits significand * roundBits (tenPow exponent.toNat))

/-- A number without its sign: a whole one of 64 bits, or another one. -/
inductive Magnitude where
  | whole (n : Nat)
  | other
  deriving DecidableEq, Repr

/-- A number of floating point, unless it is too large. -/
def floating (significand : Nat) (exponent : Int) (rest : List Char) :
    Except Flaw (Magnitude × List Char) :=
  if isTooLarge significand exponent then .error .malformed else .ok (.other, rest)

/-- The number that decimal digits stand for. -/
def ofDigits (ds : List Char) : Nat :=
  ds.foldl (fun n d => 10 * n + digitValue d) 0

/-- The exponent of a number, after its mark. -/
def exponentPart (significand : Nat) (exponent : Int) (cs : List Char) :
    Except Flaw (Magnitude × List Char) :=
  let (sign, cs) : Int × List Char := match cs with
    | '+' :: cs => (1, cs)
    | '-' :: cs => (-1, cs)
    | cs => (1, cs)
  match cs with
  | [] => .error .cutOff
  | d :: _ =>
    if d.isDigit then
      floating significand (exponent + sign * ofDigits (cs.takeWhile Char.isDigit))
        (cs.dropWhile Char.isDigit)
    else .error .malformed

/-- Whether a character marks an exponent. -/
def isExponentMark (c : Char) : Bool :=
  c == 'e' || c == 'E'

/-- The fraction of a number, after the point, and its exponent. -/
def fractionPart (significand : Nat) (exponent : Int) (cs : List Char) :
    Except Flaw (Magnitude × List Char) :=
  let digits := cs.takeWhile Char.isDigit
  let rest := cs.dropWhile Char.isDigit
  if digits.isEmpty then .error (if cs.isEmpty then .cutOff else .malformed)
  else
    let (significand, used) := accumulate significand digits
    match rest with
    | c :: cs =>
      if isExponentMark c then exponentPart significand (exponent - used) cs
      else floating significand (exponent - used) rest
    | [] => floating significand (exponent - used) rest

/-- A number without its sign. -/
def magnitude (cs : List Char) : Except Flaw (Magnitude × List Char) :=
  let digits := cs.takeWhile Char.isDigit
  let rest := cs.dropWhile Char.isDigit
  match digits with
  | [] => .error (if cs.isEmpty then .cutOff else .malformed)
  | d :: ds =>
    if d = '0' ∧ !ds.isEmpty then .error .malformed
    else
      let (significand, used) := accumulate 0 digits
      let exponent : Int := digits.length - used
      match rest with
      | '.' :: cs => fractionPart significand exponent cs
      | c :: cs =>
        if isExponentMark c then exponentPart significand exponent cs
        else if exponent = 0 then .ok (.whole significand, rest)
        else floating significand exponent rest
      | [] =>
        if exponent = 0 then .ok (.whole significand, rest)
        else floating significand exponent rest

/-! ## Values of a wanted kind -/

/-- The flaw of something that was read to its end and is of another kind than wanted. -/
def mismatchAfter {α : Type} : Except Flaw (α × List Char) → Flaw
  | .ok _ => .mismatch
  | .error flaw => flaw

/-- What is wrong with a value of another kind than wanted. -/
def otherKind : List Char → Flaw
  | [] => .malformed
  | 'n' :: cs => mismatchAfter (word ['u', 'l', 'l'] cs)
  | 't' :: cs => mismatchAfter (word ['r', 'u', 'e'] cs)
  | 'f' :: cs => mismatchAfter (word ['a', 'l', 's', 'e'] cs)
  | '-' :: cs => mismatchAfter (magnitude cs)
  | '"' :: cs => mismatchAfter (stringBody cs)
  | '[' :: _ => .mismatch
  | '{' :: _ => .mismatch
  | c :: cs => if c.isDigit then mismatchAfter (magnitude (c :: cs)) else .malformed

/-- A string. -/
def readString (cs : List Char) : Except Flaw (String × List Char) :=
  match skipSpace cs with
  | [] => .error .cutOff
  | '"' :: cs => stringBody cs
  | cs => .error (otherKind cs)

/-- A whole number of 64 bits with a sign. A zero must not have one. -/
def readInteger (cs : List Char) : Except Flaw (Int × List Char) :=
  match skipSpace cs with
  | [] => .error .cutOff
  | '-' :: cs =>
    match magnitude cs with
    | .ok (.whole n, rest) =>
      if n = 0 ∨ twoPow 63 < n then .error .mismatch else .ok (-(n : Int), rest)
    | .ok (.other, _) => .error .mismatch
    | .error flaw => .error flaw
  | c :: cs =>
    if c.isDigit then
      match magnitude (c :: cs) with
      | .ok (.whole n, rest) => if twoPow 63 ≤ n then .error .mismatch else .ok ((n : Int), rest)
      | .ok (.other, _) => .error .mismatch
      | .error flaw => .error flaw
    else .error (otherKind (c :: cs))

/-- The absent value, or one of the wanted kind. -/
def readOption {α : Type} (r : Reader α) (cs : List Char) : Except Flaw (Option α × List Char) :=
  match skipSpace cs with
  | 'n' :: cs => do
    let (_, rest) ← word ['u', 'l', 'l'] cs
    .ok (none, rest)
  | cs => do
    let (a, rest) ← r cs
    .ok (some a, rest)

/-- A value that is all of a text. -/
def readAll {α : Type} (r : Reader α) (cs : List Char) : Except Flaw α := do
  let (a, rest) ← r cs
  if (skipSpace rest).isEmpty then .ok a else .error .malformed

end Scrip.Json
