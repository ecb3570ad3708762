import Mathlib.Tactic.Ring
import Scrip.Json.Reader
import Scrip.Json.Text
import Scrip.Proofs.Time.Digits

/-!
# Scalars of JSON, written and read

A string is read from its own text (`reads_string`), and so is a whole number of 64 bits
(`reads_integer`).

* `Stops`: what may follow a value;
* `Reads`: a reader takes a text for a value, whatever follows.
-/

namespace Scrip.Json

/-- The text goes on with what may follow a value: a comma or a bracket that closes. -/
def Stops (rest : List Char) : Prop :=
  ∀ c ∈ rest.head?, c = ',' ∨ c = ']' ∨ c = '}'

theorem stops_nil : Stops [] :=
  nofun

theorem stops_cons {c : Char} (h : c = ',' ∨ c = ']' ∨ c = '}') (rest : List Char) :
    Stops (c :: rest) := by
  rintro d ⟨⟩
  exact h

/-- The text begins with neither a blank nor the bracket that ends a list. -/
def Begins (t : Text) : Prop :=
  ∃ c cs, t = c :: cs ∧ isSpace c = false ∧ c ≠ ']'

/-- A reader takes a text for a value, whatever follows. -/
structure Reads {α : Type} (r : Reader α) (t : Text) (a : α) : Prop where
  begins : Begins t
  read : ∀ rest, Stops rest → r (t ++ rest) = .ok (a, rest)

theorem skipSpace_cons {c : Char} (h : isSpace c = false) (cs : List Char) :
    skipSpace (c :: cs) = c :: cs :=
  List.dropWhile_cons_of_neg (by rw [h]; exact Bool.false_ne_true)

theorem Begins.skipSpace {t : Text} (h : Begins t) (rest : List Char) :
    skipSpace (t ++ rest) = t ++ rest := by
  obtain ⟨c, cs, rfl, hc, -⟩ := h
  exact skipSpace_cons hc _

theorem Begins.length_pos {t : Text} (h : Begins t) : 0 < t.length := by
  obtain ⟨c, cs, rfl, -⟩ := h
  exact Nat.succ_pos _

/-! ## Strings -/

theorem hexValue?_hexDigit : ∀ n < 16, hexValue? (hexDigit n) = some n := by
  decide

/-- Two hexadecimal digits of a number of eight bits, behind two zeros. -/
theorem hexUnit_hexDigits {n : Nat} (h : n < 256) (rest : List Char) :
    hexUnit ('0' :: '0' :: hexDigit (n / 16) :: hexDigit (n % 16) :: rest) = .ok (n, rest) := by
  have zero : hexValue? '0' = some 0 := by decide
  have value : ((0 * 16 + 0) * 16 + n / 16) * 16 + n % 16 = n := by omega
  simp only [hexUnit, zero, hexValue?_hexDigit (n / 16) (by omega),
    hexValue?_hexDigit (n % 16) (by omega), value]

/-- A control character by number. -/
theorem escaped_control {c : Char} (h : c.toNat < 32) (rest : List Char) :
    escaped ('u' :: '0' :: '0' :: hexDigit (c.toNat / 16) :: hexDigit (c.toNat % 16) :: rest) =
      .ok (c, rest) := by
  simp only [escaped, numbered, hexUnit_hexDigits (show c.toNat < 256 by omega)]
  have low : ¬ (0xDC00 ≤ c.toNat ∧ c.toNat ≤ 0xDFFF) := by omega
  have high : ¬ (0xD800 ≤ c.toNat ∧ c.toNat ≤ 0xDBFF) := by omega
  simp only [bind, Except.bind, if_neg low, if_neg high, Char.ofNat_toNat]

/-- A letter after a backslash. -/
theorem escaped_letter {l c : Char} (h : lettered? l = some c) (rest : List Char) :
    escaped (l :: rest) = .ok (c, rest) := by
  have other : l ≠ 'u' := by
    rintro rfl
    exact nomatch h
  rw [escaped.eq_3 _ _ other, h]

/-- How a character stands inside a string: as a letter after a backslash, by number, or for
itself. -/
theorem escape_cases (c : Char) :
    (∃ l, lettered? l = some c ∧ escape c = ['\\', l]) ∨
      (c.toNat < 32 ∧ escape c =
        ['\\', 'u', '0', '0', hexDigit (c.toNat / 16), hexDigit (c.toNat % 16)]) ∨
      (c ≠ '"' ∧ c ≠ '\\' ∧ ¬ c.toNat < 32 ∧ escape c = [c]) := by
  unfold escape
  split
  · next h => exact .inl ⟨'"', by rw [h]; rfl, rfl⟩
  split
  · next h => exact .inl ⟨'\\', by rw [h]; rfl, rfl⟩
  split
  · next h => exact .inl ⟨'b', by rw [h]; rfl, rfl⟩
  split
  · next h => exact .inl ⟨'f', by rw [h]; rfl, rfl⟩
  split
  · next h => exact .inl ⟨'n', by rw [h]; rfl, rfl⟩
  split
  · next h => exact .inl ⟨'r', by rw [h]; rfl, rfl⟩
  split
  · next h => exact .inl ⟨'t', by rw [h]; rfl, rfl⟩
  split
  · next h => exact .inr (.inl ⟨h, rfl⟩)
  · next quote backslash _ _ _ _ _ control =>
    exact .inr (.inr ⟨quote, backslash, control, rfl⟩)

theorem escape_ne_nil (c : Char) : escape c ≠ [] := by
  rcases escape_cases c with ⟨l, -, h⟩ | ⟨-, h⟩ | ⟨-, -, -, h⟩ <;>
  · rw [h]
    exact List.cons_ne_nil _ _

/-- A character is read from its text inside a string. -/
theorem stringChars_escape (c : Char) (fuel : Nat) (rest : List Char) :
    stringChars (fuel + 1) (escape c ++ rest) =
      (stringChars fuel rest).map fun (ds, rest) => (c :: ds, rest) := by
  have escape_read {cs : List Char} (h : escaped (cs ++ rest) = .ok (c, rest)) :
      stringChars (fuel + 1) ('\\' :: cs ++ rest) =
        (stringChars fuel rest).map fun (ds, rest) => (c :: ds, rest) := by
    rw [List.cons_append, stringChars, if_neg (by decide), if_pos rfl, h]
    simp only [bind, Except.bind]
    cases stringChars fuel rest <;> rfl
  rcases escape_cases c with ⟨l, hl, h⟩ | ⟨low, h⟩ | ⟨quote, backslash, low, h⟩
  · rw [h]
    exact escape_read (escaped_letter hl rest)
  · rw [h]
    exact escape_read (escaped_control low rest)
  · rw [h, List.singleton_append, stringChars, if_neg quote, if_neg backslash, if_neg low]
    cases stringChars fuel rest <;> rfl

/-- The characters of a string up to its closing quote. -/
theorem stringChars_flatMap (cs : List Char) {fuel : Nat} (h : cs.length < fuel)
    (rest : List Char) : stringChars fuel (cs.flatMap escape ++ '"' :: rest) = .ok (cs, rest) := by
  obtain ⟨fuel, rfl⟩ := Nat.exists_eq_add_one_of_ne_zero (Nat.ne_zero_of_lt h)
  induction cs generalizing fuel with
  | nil => rfl
  | cons c cs ih =>
    obtain ⟨fuel, rfl⟩ := Nat.exists_eq_add_one_of_ne_zero
      (Nat.ne_zero_of_lt (Nat.lt_of_succ_lt_succ h))
    rw [List.flatMap_cons, List.append_assoc, stringChars_escape,
      ih fuel (Nat.lt_of_succ_lt_succ h)]
    rfl

theorem length_le_flatMap_escape (cs : List Char) : cs.length ≤ (cs.flatMap escape).length := by
  induction cs with
  | nil => exact Nat.le_refl 0
  | cons c cs ih =>
    rw [List.flatMap_cons, List.length_append, List.length_cons]
    have := List.length_pos_iff.mpr (escape_ne_nil c)
    omega

/-- The text of a string after its opening quote. -/
theorem stringBody_escape (s : String) (rest : List Char) :
    stringBody (s.toList.flatMap escape ++ '"' :: rest) = .ok (s, rest) := by
  have enough : s.toList.length < (s.toList.flatMap escape ++ '"' :: rest).length + 1 := by
    rw [List.length_append]
    have := length_le_flatMap_escape s.toList
    omega
  rw [stringBody, stringChars_flatMap _ enough]
  simp only [bind, Except.bind, String.ofList_toList]

theorem string_append (s : String) (rest : List Char) :
    string s ++ rest = '"' :: (s.toList.flatMap escape ++ '"' :: rest) := by
  rw [string, List.append_assoc]
  rfl

theorem begins_string (s : String) : Begins (string s) :=
  ⟨'"', _, rfl, by decide, by decide⟩

/-- A string is read from its text. -/
theorem readString_string (s : String) (rest : List Char) :
    readString (string s ++ rest) = .ok (s, rest) := by
  rw [readString, (begins_string s).skipSpace, string_append]
  exact stringBody_escape s rest

theorem reads_string (s : String) : Reads readString (string s) s :=
  ⟨begins_string s, fun rest _ => readString_string s rest⟩

/-! ## Numbers -/

/-- A whole number that fits 64 bits with a sign. -/
def IsWord (n : Int) : Prop :=
  -2 ^ 63 ≤ n ∧ n < 2 ^ 63

theorem isDigit_toDigits (n : Nat) : ∀ c ∈ Nat.toDigits 10 n, c.isDigit = true :=
  fun _ hc => Nat.isDigit_of_mem_toDigits (by decide) (by decide) hc

/-- A zero comes first only by itself. -/
theorem exists_head_toDigits (n : Nat) :
    ∃ d ds, Nat.toDigits 10 n = d :: ds ∧ (d = '0' → n = 0 ∧ ds = []) := by
  induction n using Nat.strongRecOn with
  | ind n ih =>
    rcases Nat.lt_or_ge n 10 with hn | hn
    · have zero : ∀ n < 10, Nat.digitChar n = '0' → n = 0 := by decide
      exact ⟨_, [], Nat.toDigits_of_lt_base hn, fun h => ⟨zero n hn h, rfl⟩⟩
    · obtain ⟨d, ds, heq, hd⟩ := ih (n / 10) (by omega)
      refine ⟨d, ds ++ [Nat.digitChar (n % 10)], ?_, fun h => absurd (hd h).1 (by omega)⟩
      rw [Nat.toDigits_of_base_le (by decide) hn, heq, List.cons_append]

/-- The first digit of a number, which no zero in front of others is. -/
theorem exists_toDigits (n : Nat) : ∃ d ds, Nat.toDigits 10 n = d :: ds ∧ d.isDigit = true ∧
    ¬ (d = '0' ∧ !ds.isEmpty) := by
  obtain ⟨d, ds, heq, zero⟩ := exists_head_toDigits n
  refine ⟨d, ds, heq, isDigit_toDigits n d (heq ▸ List.mem_cons_self), fun ⟨hz, more⟩ => ?_⟩
  rw [(zero hz).2] at more
  exact absurd more (by decide)

theorem Stops.not_isDigit {rest : List Char} (h : Stops rest) :
    ∀ c ∈ rest.head?, c.isDigit = false := by
  intro c hc
  rcases h c hc with rfl | rfl | rfl <;> rfl

/-- Digits are told from what follows them. -/
theorem span_isDigit {ds rest : List Char} (hd : ∀ c ∈ ds, c.isDigit = true)
    (h : ∀ c ∈ rest.head?, c.isDigit = false) :
    (ds ++ rest).takeWhile Char.isDigit = ds ∧ (ds ++ rest).dropWhile Char.isDigit = rest := by
  rw [List.takeWhile_append_of_pos hd, List.dropWhile_append_of_pos hd]
  cases rest with
  | nil => exact ⟨List.append_nil ds, rfl⟩
  | cons c rest =>
    have hc : ¬ c.isDigit = true := by
      rw [h c rfl]
      exact Bool.false_ne_true
    rw [List.takeWhile_cons_of_neg hc, List.dropWhile_cons_of_neg hc, List.append_nil]
    exact ⟨rfl, rfl⟩

/-- Digits in a row, as long as the number fits. -/
theorem accumulate_digits {m : Nat} (width n : Nat)
    (h : m * 10 ^ width + n % 10 ^ width ≤ maxWord) :
    accumulate m (digits width n) = (m * 10 ^ width + n % 10 ^ width, width) := by
  induction width generalizing m with
  | zero =>
    rw [Nat.pow_zero, Nat.mod_one, Nat.mul_one]
    rfl
  | succ width ih =>
    have digit : digitValue (Nat.digitChar (n / 10 ^ width % 10)) = n / 10 ^ width % 10 :=
      toNat_digitChar _ (Nat.mod_lt _ (by decide))
    have value : (10 * m + n / 10 ^ width % 10) * 10 ^ width + n % 10 ^ width =
        m * 10 ^ (width + 1) + n % 10 ^ (width + 1) := by
      rw [Nat.mod_pow_succ, Nat.pow_succ]
      ring
    have fits : 10 * m + n / 10 ^ width % 10 ≤ maxWord := by
      have grows : 10 * m + n / 10 ^ width % 10 ≤ (10 * m + n / 10 ^ width % 10) * 10 ^ width :=
        Nat.le_mul_of_pos_right _ (Nat.pow_pos (by decide))
      omega
    rw [digits, accumulate, digit, if_pos fits, ih (value ▸ h), value]

/-- A number without its sign is read from its digits. -/
theorem magnitude_toDigits {n : Nat} (h : n ≤ maxWord) {rest : List Char} (hr : Stops rest) :
    magnitude (Nat.toDigits 10 n ++ rest) = .ok (.whole n, rest) := by
  obtain ⟨hd, hrest⟩ := span_isDigit (isDigit_toDigits n) hr.not_isDigit
  have value : accumulate 0 (Nat.toDigits 10 n) = (n, (Nat.toDigits 10 n).length) := by
    have lt : n < 10 ^ (Nat.toDigits 10 n).length :=
      (Nat.length_toDigits_le_iff (by decide) Nat.length_toDigits_pos).mp (Nat.le_refl _)
    have same : 0 * 10 ^ (Nat.toDigits 10 n).length + n % 10 ^ (Nat.toDigits 10 n).length = n := by
      rw [Nat.zero_mul, Nat.zero_add, Nat.mod_eq_of_lt lt]
    rw [toDigits_eq, accumulate_digits _ _ (same.symm ▸ h), same, length_digits]
  obtain ⟨d, ds, heq, -, lead⟩ := exists_toDigits n
  unfold magnitude
  simp only [hd, hrest]
  rw [heq] at value ⊢
  simp only [value, if_neg lead, Int.sub_self]
  cases rest with
  | nil => rfl
  | cons c rest => rcases hr c rfl with rfl | rfl | rfl <;> rfl

/-- A digit is none of the other characters. -/
theorem isDigit_ne {d c : Char} (h : d.isDigit = true) (hc : c.isDigit = false) : d ≠ c := by
  rintro rfl
  exact absurd (h.symm.trans hc) (by decide)

theorem isSpace_isDigit {d : Char} (h : d.isDigit = true) : isSpace d = false := by
  have other {c : Char} (hc : c.isDigit = false) : (d == c) = false :=
    beq_eq_false_iff_ne.mpr (isDigit_ne h hc)
  rw [isSpace, other rfl, other rfl, other rfl, other rfl]
  rfl

theorem integer_ofNat (n : Nat) : integer n = Nat.toDigits 10 n := by
  have text : toString (n : Int) = toString n := rfl
  rw [integer, text, Nat.toString_eq_ofList_toDigits, String.toList_ofList]

theorem integer_negSucc (n : Nat) : integer (Int.negSucc n) = '-' :: Nat.toDigits 10 (n + 1) := by
  have text : toString (Int.negSucc n) = "-" ++ toString (n + 1) := rfl
  have sign : "-".toList = ['-'] := rfl
  rw [integer, text, Nat.toString_eq_ofList_toDigits, String.toList_append, sign,
    String.toList_ofList, List.singleton_append]

/-- A whole number of 64 bits is read from its text. -/
theorem reads_integer {n : Int} (h : IsWord n) : Reads readInteger (integer n) n := by
  obtain ⟨low, high⟩ := h
  have power : twoPow 63 = 2 ^ 63 := rfl
  have most : maxWord = 2 ^ 64 - 1 := rfl
  cases n with
  | ofNat n =>
    obtain ⟨d, ds, heq, digit, -⟩ := exists_toDigits n
    have begins : Begins (integer n) := by
      rw [integer_ofNat, heq]
      exact ⟨d, ds, rfl, isSpace_isDigit digit, isDigit_ne digit rfl⟩
    have unsigned : d ≠ '-' := isDigit_ne digit rfl
    have small : ¬ twoPow 63 ≤ n := by
      rw [Int.ofNat_eq_natCast] at high
      omega
    refine ⟨begins, fun rest hr => ?_⟩
    have value := magnitude_toDigits (n := n) (by omega) hr
    rw [readInteger, Int.ofNat_eq_natCast, begins.skipSpace, integer_ofNat]
    rw [heq, List.cons_append] at value ⊢
    simp only [digit, if_true, value, if_neg small]
  | negSucc n =>
    have begins : Begins (integer (Int.negSucc n)) := by
      rw [integer_negSucc]
      exact ⟨'-', _, rfl, by decide, by decide⟩
    have small : ¬ (n + 1 = 0 ∨ twoPow 63 < n + 1) := by omega
    refine ⟨begins, fun rest hr => ?_⟩
    have value := magnitude_toDigits (n := n + 1) (by omega) hr
    rw [readInteger, begins.skipSpace, integer_negSucc, List.cons_append]
    simp only [value, if_neg small]
    rfl

/-- What is read as a whole number fits 64 bits. -/
theorem isWord_of_readInteger {cs rest : List Char} {n : Int}
    (h : readInteger cs = .ok (n, rest)) : IsWord n := by
  have power : twoPow 63 = 2 ^ 63 := rfl
  unfold readInteger at h
  split at h
  · cases h
  · split at h
    · next n _ _ =>
      split at h
      · cases h
      · next bound =>
        cases h
        constructor <;> omega
    · cases h
    · cases h
  · split at h
    · split at h
      · split at h
        · cases h
        · next bound =>
          cases h
          constructor <;> omega
      · cases h
      · cases h
    · cases h

end Scrip.Json
