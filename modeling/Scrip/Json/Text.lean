/-!
# Writing JSON

Compact JSON text: no blanks, members in the order given.

* `string`: quotes, backslashes and control characters are escaped, everything else stands for
  itself.
* `integer`, `array`, `object`, `null`: the other values that occur.
-/

namespace Scrip.Json

/-- A piece of JSON. -/
abbrev Text := List Char

/-- A digit of a hexadecimal number, in lower case. -/
def hexDigit (n : Nat) : Char :=
  if n < 10 then Char.ofNat (48 + n) else Char.ofNat (87 + n)

/-- A character as it stands inside a string. Control characters have a letter of their own or
are written by number. -/
def escape (c : Char) : Text :=
  if c = '"' then ['\\', '"']
  else if c = '\\' then ['\\', '\\']
  else if c = '\x08' then ['\\', 'b']
  else if c = '\x0c' then ['\\', 'f']
  else if c = '\n' then ['\\', 'n']
  else if c = '\r' then ['\\', 'r']
  else if c = '\t' then ['\\', 't']
  else if c.toNat < 32 then
    ['\\', 'u', '0', '0', hexDigit (c.toNat / 16), hexDigit (c.toNat % 16)]
  else [c]

/-- A string. -/
def string (s : String) : Text :=
  '"' :: s.toList.flatMap escape ++ ['"']

/-- A whole number. -/
def integer (n : Int) : Text :=
  (toString n).toList

/-- The absent value. -/
def null : Text := ['n', 'u', 'l', 'l']

/-- A list of values. -/
def array (values : List Text) : Text :=
  '[' :: [','].intercalate values ++ [']']

/-- One member of an object. -/
def member (field : String × Text) : Text :=
  string field.1 ++ ':' :: field.2

/-- An object. -/
def object (fields : List (String × Text)) : Text :=
  '{' :: [','].intercalate (fields.map member) ++ ['}']

end Scrip.Json
