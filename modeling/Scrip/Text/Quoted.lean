import Scrip.Text.Visible

/-!
# Quoted text

Text between double quotes, in which what does not stand for itself is written with a backslash.

* `quote`: the quoted form.
-/

namespace Scrip.Text

/-- The number of a character in hexadecimal digits. -/
def hexadecimal (c : Char) : List Char :=
  Nat.toDigits 16 c.toNat

/-- How a character is written between quotes. -/
def quoteChar (c : Char) : List Char :=
  match c with
  | '\x00' => ['\\', '0']
  | '\t' => ['\\', 't']
  | '\r' => ['\\', 'r']
  | '\n' => ['\\', 'n']
  | '\\' => ['\\', '\\']
  | '"' => ['\\', '"']
  | c => if isVisible c then [c] else ['\\', 'u', '\x7b'] ++ hexadecimal c ++ ['\x7d']

/-- Text in quotes. -/
def quote (s : String) : String :=
  String.ofList ('"' :: s.toList.flatMap quoteChar ++ ['"'])

end Scrip.Text
