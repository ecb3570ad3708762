import Mathlib.Algebra.Order.Group.Nat
import Scrip.Time.Reading
import Scrip.Time.Rfc3339

/-!
# Decimal digits

A number as text of a fixed width (`digits`). What is padded to a width is such a text
(`toList_paddedNat`), which is read as the number again (`takeDigits_digits`), and numbers of
one width are in the order of their texts (`digits_lt`).
-/

namespace Scrip

/-- The last decimal digits of a number, the highest first. -/
def digits : Nat → Nat → List Char
  | 0, _ => []
  | width + 1, n => Nat.digitChar (n / 10 ^ width % 10) :: digits width n

@[simp] theorem length_digits (width n : Nat) : (digits width n).length = width := by
  induction width with
  | zero => rfl
  | succ width ih => rw [digits, List.length_cons, ih]

/-- The last digit by itself. -/
theorem digits_succ (width n : Nat) :
    digits (width + 1) n = digits width (n / 10) ++ [Nat.digitChar (n % 10)] := by
  induction width with
  | zero => simp [digits]
  | succ width ih =>
    rw [digits, ih, digits, List.cons_append, Nat.div_div_eq_div_mul, Nat.pow_succ, Nat.mul_comm]

/-- The digits of a number, as many as it has. -/
theorem toDigits_eq (n : Nat) : Nat.toDigits 10 n = digits (Nat.toDigits 10 n).length n := by
  induction n using Nat.strongRecOn with
  | ind n ih =>
    rcases Nat.lt_or_ge n 10 with hn | hn
    · rw [Nat.toDigits_of_lt_base hn]
      simp [digits, Nat.mod_eq_of_lt hn]
    · rw [Nat.toDigits_of_base_le (by decide) hn, List.length_append, List.length_singleton,
        digits_succ, ← ih (n / 10) (by omega)]

/-- Digits in front of all that a number has are zeros. -/
theorem digits_add {width n : Nat} (h : n < 10 ^ width) (k : Nat) :
    digits (k + width) n = List.replicate k '0' ++ digits width n := by
  induction k with
  | zero => simp
  | succ k ih =>
    have hlt : n < 10 ^ (k + width) := h.trans_le (Nat.pow_le_pow_right (by decide) (by omega))
    rw [Nat.add_right_comm, digits, ih, Nat.div_eq_of_lt hlt]
    rfl

/-- A padded number is written with all its digits, and with no fewer than the width. -/
theorem exists_toList_paddedNat (width n : Nat) :
    ∃ k, k = max width (Nat.toDigits 10 n).length ∧ n < 10 ^ k ∧
      (paddedNat width n).toList = digits k n := by
  have hlt : n < 10 ^ (Nat.toDigits 10 n).length :=
    (Nat.length_toDigits_le_iff (by decide) Nat.length_toDigits_pos).mp (Nat.le_refl _)
  refine ⟨width - (Nat.toDigits 10 n).length + (Nat.toDigits 10 n).length, by omega,
    hlt.trans_le (Nat.pow_le_pow_right (by decide) (by omega)), ?_⟩
  rw [digits_add hlt, ← toDigits_eq]
  simp only [paddedNat, Nat.toString_eq_ofList_toDigits, String.toList_append,
    String.toList_ofList, String.length_ofList]

theorem toList_paddedNat {width n : Nat} (hw : 0 < width) (h : n < 10 ^ width) :
    (paddedNat width n).toList = digits width n := by
  obtain ⟨k, hk, -, heq⟩ := exists_toList_paddedNat width n
  have hle := (Nat.length_toDigits_le_iff (b := 10) (by decide) hw).mpr h
  rwa [hk, Nat.max_eq_left hle] at heq

/-! ## Reading -/

theorem isDigit_digitChar {d : Nat} (h : d < 10) : (Nat.digitChar d).isDigit = true := by
  simpa using h

theorem toNat_digitChar : ∀ d < 10, (Nat.digitChar d).toNat - 48 = d := by
  decide

/-- Digits are read as the number, if they are not too many and no digit follows that could
belong to them. -/
theorem takeDigits_digits {width limit : Nat} (n : Nat) {rest : List Char} (hw : width ≤ limit)
    (hrest : width = limit ∨ ∀ c ∈ rest.head?, c.isDigit = false) :
    TimeField.takeDigits limit (digits width n ++ rest) = (n % 10 ^ width, width, rest) := by
  induction width generalizing limit with
  | zero =>
    rw [Nat.pow_zero, Nat.mod_one, digits, List.nil_append]
    match limit, rest, hrest with
    | 0, _, _ | _ + 1, [], _ => rfl
    | limit + 1, c :: rest, hrest =>
      have hc : c.isDigit = false := by simpa using hrest
      simp only [TimeField.takeDigits, hc, Bool.false_eq_true, if_false]
  | succ width ih =>
    obtain ⟨limit, rfl⟩ : ∃ l, limit = l + 1 := ⟨limit - 1, by omega⟩
    have hd : n / 10 ^ width % 10 < 10 := Nat.mod_lt _ (by decide)
    rw [digits, List.cons_append, TimeField.takeDigits, if_pos (isDigit_digitChar hd),
      ih (by omega) (by simpa using hrest), toNat_digitChar _ hd, Nat.mod_pow_succ, Nat.add_comm,
      Nat.mul_comm]
    rfl

theorem number?_digits {width limit : Nat} (n : Nat) {rest : List Char} (h0 : 0 < width)
    (hw : width ≤ limit) (hrest : width = limit ∨ ∀ c ∈ rest.head?, c.isDigit = false) :
    TimeField.number? limit (digits width n ++ rest) = some (n % 10 ^ width, rest) := by
  obtain ⟨width, rfl⟩ : ∃ w, width = w + 1 := ⟨width - 1, by omega⟩
  simp only [TimeField.number?, takeDigits_digits n hw hrest]

theorem twoDigits?_digits (n : Nat) {rest : List Char} :
    TimeField.twoDigits? (digits 2 n ++ rest) = some (n % 100, rest) := by
  simp only [TimeField.twoDigits?, takeDigits_digits n (Nat.le_refl 2) (.inl rfl)]
  rfl

/-! ## Order -/

theorem digitChar_lt : ∀ e < 10, ∀ d < e, Nat.digitChar d < Nat.digitChar e := by
  decide

/-- Numbers of one width are in the order of their digits, whatever comes after them. -/
theorem digits_lt {width m n : Nat} {rest rest' : List Char}
    (h : m % 10 ^ width < n % 10 ^ width) :
    digits width m ++ rest < digits width n ++ rest' := by
  induction width with
  | zero => simp [Nat.mod_one] at h
  | succ width ih =>
    rw [Nat.mod_pow_succ, Nat.mod_pow_succ] at h
    have hm := Nat.mod_lt m (Nat.pow_pos (n := width) (show 0 < 10 by decide))
    have hn := Nat.mod_lt n (Nat.pow_pos (n := width) (show 0 < 10 by decide))
    rw [digits, digits, List.cons_append, List.cons_append, List.cons_lt_cons_iff]
    rcases Nat.lt_trichotomy (m / 10 ^ width % 10) (n / 10 ^ width % 10) with hd | hd | hd
    · exact .inl (digitChar_lt _ (Nat.mod_lt _ (by decide)) _ hd)
    · rw [hd] at h ⊢
      exact .inr ⟨rfl, ih (by omega)⟩
    · have := Nat.mul_le_mul_left (10 ^ width) (Nat.succ_le_of_lt hd)
      rw [Nat.mul_succ] at this
      omega

end Scrip
