import Scrip.Json.Reader

/-!
# Passing over JSON

A value that nobody wants, of any kind and nested to any depth. It has to be JSON all the same.

* `skipValue`: the text after a value. Strings may hold halves of surrogate pairs here, and
  numbers may be of any size.
-/

namespace Scrip.Json

/-- The characters of a string, up to and with its closing quote. -/
def skipString : List Char → Except Flaw (List Char)
  | [] | ['\\'] => .error .cutOff
  | '"' :: cs => .ok cs
  | '\\' :: 'u' :: a :: b :: c :: d :: cs =>
    if [a, b, c, d].all fun digit => (hexValue? digit).isSome then skipString cs
    else .error .malformed
  | '\\' :: 'u' :: cs => (hexUnit cs).map (·.2)
  | '\\' :: c :: cs => if (lettered? c).isSome then skipString cs else .error .malformed
  | c :: cs => if c.toNat < 32 then .error .malformed else skipString cs

/-- Digits, at least one. -/
def skipDigits (cs : List Char) : Except Flaw (List Char) :=
  if (cs.takeWhile Char.isDigit).isEmpty then .error .malformed
  else .ok (cs.dropWhile Char.isDigit)

/-- The exponent of a number, if there is one. -/
def skipExponent : List Char → Except Flaw (List Char)
  | c :: cs =>
    if isExponentMark c then
      skipDigits (match cs with
        | '+' :: cs => cs
        | '-' :: cs => cs
        | cs => cs)
    else .ok (c :: cs)
  | [] => .ok []

/-- A number without its sign. -/
def skipMagnitude (cs : List Char) : Except Flaw (List Char) :=
  let digits := cs.takeWhile Char.isDigit
  let rest := cs.dropWhile Char.isDigit
  match digits with
  | [] => .error .malformed
  | d :: ds =>
    if d = '0' ∧ !ds.isEmpty then .error .malformed
    else
      match rest with
      | '.' :: cs => skipDigits cs >>= skipExponent
      | rest => skipExponent rest

/-- A value that holds no other values. -/
def skipScalar : List Char → Except Flaw (List Char)
  | [] => .error .cutOff
  | 'n' :: cs => (word ['u', 'l', 'l'] cs).map (·.2)
  | 't' :: cs => (word ['r', 'u', 'e'] cs).map (·.2)
  | 'f' :: cs => (word ['a', 'l', 's', 'e'] cs).map (·.2)
  | '"' :: cs => skipString cs
  | '-' :: cs => skipMagnitude cs
  | c :: cs => if c.isDigit then skipMagnitude (c :: cs) else .error .malformed

/-- The key of a member and the colon after it. -/
def skipKey (cs : List Char) : Except Flaw (List Char) :=
  match skipSpace cs with
  | [] => .error .cutOff
  | '"' :: cs => do
    let rest ← skipString cs
    match skipSpace rest with
    | [] => .error .cutOff
    | ':' :: rest => .ok rest
    | _ => .error .malformed
  | _ => .error .malformed

/-- What encloses a value: a list or an object. -/
inductive Enclosure where
  | list
  | object
  deriving DecidableEq, Repr

/-- The bracket that ends an enclosure. -/
def Enclosure.closing : Enclosure → Char
  | list => ']'
  | object => '}'

/-- Where a value begins inside an enclosure: in an object its key comes first. -/
def Enclosure.enter : Enclosure → List Char → Except Flaw (List Char)
  | list, cs => .ok cs
  | object, cs => skipKey cs

mutual

/-- A value and all that follows it inside the enclosures around it. -/
def skipFrom (fuel : Nat) (around : List Enclosure) (cs : List Char) :
    Except Flaw (List Char) :=
  match fuel with
  | 0 => .error .cutOff
  | fuel + 1 =>
    match skipSpace cs with
    | '[' :: cs => skipInto fuel .list around cs
    | '{' :: cs => skipInto fuel .object around cs
    | cs => skipScalar cs >>= skipOut fuel around

/-- What follows the opening bracket of an enclosure. -/
def skipInto (fuel : Nat) (enclosure : Enclosure) (around : List Enclosure) (cs : List Char) :
    Except Flaw (List Char) :=
  match fuel with
  | 0 => .error .cutOff
  | fuel + 1 =>
    match skipSpace cs with
    | [] => .error .cutOff
    | c :: cs =>
      if c = enclosure.closing then skipOut fuel around cs
      else enclosure.enter (c :: cs) >>= skipFrom fuel (enclosure :: around)

/-- What follows a value inside the enclosures around it. -/
def skipOut (fuel : Nat) (around : List Enclosure) (cs : List Char) :
    Except Flaw (List Char) :=
  match fuel with
  | 0 => .error .cutOff
  | fuel + 1 =>
    match around with
    | [] => .ok cs
    | enclosure :: outer =>
      match skipSpace cs with
      | [] => .error .cutOff
      | c :: cs =>
        if c = ',' then enclosure.enter cs >>= skipFrom fuel around
        else if c = enclosure.closing then skipOut fuel outer cs
        else .error .malformed

end

/-- The text after a value. Every two steps of the way pass a character, so the length of the
text bounds them. -/
def skipValue (cs : List Char) : Except Flaw (List Char) :=
  skipFrom (3 * cs.length + 3) [] cs

end Scrip.Json
