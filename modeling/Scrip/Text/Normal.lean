import Scrip.Text.Normal.CombiningClass
import Scrip.Text.Normal.Decomposition
import Scrip.Text.Normal.Composite

/-!
# Normalization form C

Canonical decomposition, canonical ordering and canonical composition of text.

* `decompose`: every character replaced by its full canonical decomposition.
* `order`: marks sorted by combining class between starters, equal classes in their order.
* `compose`: each starter joined with the marks after it that are not blocked from it.
* `nfc`: the three in this order.
-/

namespace Scrip.Text.Normal

/-- The numbers that Hangul syllables are made of: the first code point of the syllables, of the
leading consonants, of the vowels and of the trailing consonants (one before it), and how many
vowels and trailing consonants there are. -/
structure HangulBases where
  syllables : Nat
  leads : Nat
  vowels : Nat
  trails : Nat
  leadCount : Nat
  vowelCount : Nat
  trailCount : Nat

/-- Hangul as encoded. -/
def hangul : HangulBases := ⟨0xAC00, 0x1100, 0x1161, 0x11A7, 19, 21, 28⟩

/-- The decomposition of a Hangul syllable into two or three letters. -/
def hangulLetters? (c : Char) : Option (List Char) :=
  let index := c.toNat - hangul.syllables
  if hangul.syllables ≤ c.toNat ∧
      index < hangul.leadCount * hangul.vowelCount * hangul.trailCount then
    let lead := Char.ofNat (hangul.leads + index / (hangul.vowelCount * hangul.trailCount))
    let vowel := Char.ofNat (hangul.vowels + index / hangul.trailCount % hangul.vowelCount)
    let trail := index % hangul.trailCount
    if trail = 0 then some [lead, vowel]
    else some [lead, vowel, Char.ofNat (hangul.trails + trail)]
  else none

/-- The Hangul syllable of a leading consonant and a vowel, or of such a syllable and a trailing
consonant. -/
def hangulSyllable? (first second : Char) : Option Char :=
  let lead := first.toNat - hangul.leads
  let vowel := second.toNat - hangul.vowels
  let index := first.toNat - hangul.syllables
  let trail := second.toNat - hangul.trails
  if hangul.leads ≤ first.toNat ∧ lead < hangul.leadCount ∧
      hangul.vowels ≤ second.toNat ∧ vowel < hangul.vowelCount then
    some (Char.ofNat
      (hangul.syllables + (lead * hangul.vowelCount + vowel) * hangul.trailCount))
  else if hangul.syllables ≤ first.toNat ∧
      index < hangul.leadCount * hangul.vowelCount * hangul.trailCount ∧
      index % hangul.trailCount = 0 ∧
      hangul.trails < second.toNat ∧ trail < hangul.trailCount then
    some (Char.ofNat (first.toNat + trail))
  else none

/-- The full canonical decomposition of one character. -/
def decomposeChar (c : Char) : List Char :=
  if c.toNat < 0xC0 then [c]
  else match hangulLetters? c with
    | some letters => letters
    | none => (decomposition? c).getD [c]

/-- Every character replaced by its full canonical decomposition. -/
def decompose (cs : List Char) : List Char :=
  cs.flatMap decomposeChar

/-- Puts a character in front of ordered text, past the marks of a lower class. -/
def place (c : Char) : List Char → List Char
  | [] => [c]
  | d :: ds =>
    if 0 < combiningClass d ∧ combiningClass d < combiningClass c then d :: place c ds
    else c :: d :: ds

/-- The marks after each starter sorted by combining class, equal classes in their order. -/
def order (cs : List Char) : List Char :=
  cs.foldr place []

/-- The character that two characters compose to. -/
def composePair? (first second : Char) : Option Char :=
  match hangulSyllable? first second with
  | some c => some c
  | none => composite? first second

/-- Composition after a starter. `kept` holds the marks met so far that did not compose with
it, the last one first, and `last` the class of the last of them: a character is blocked from
the starter when a kept mark has the same or a higher class. -/
def composeAfter (starter : Char) (kept : List Char) (last : Nat) : List Char → List Char
  | [] => starter :: kept.reverse
  | c :: cs =>
    let joined :=
      if kept.isEmpty || last < combiningClass c then composePair? starter c else none
    match joined with
    | some composite => composeAfter composite kept last cs
    | none =>
      if combiningClass c = 0 then starter :: kept.reverse ++ composeAfter c [] 0 cs
      else composeAfter starter (c :: kept) (combiningClass c) cs

/-- Canonical composition of ordered text; marks before the first starter stay as they are. -/
def compose : List Char → List Char
  | [] => []
  | c :: cs => if combiningClass c = 0 then composeAfter c [] 0 cs else c :: compose cs

/-- Normalization form C of a list of characters. -/
def nfcChars (cs : List Char) : List Char :=
  compose (order (decompose cs))

/-- Normalization form C. -/
def nfc (s : String) : String :=
  String.ofList (nfcChars s.toList)

end Scrip.Text.Normal
