import Mathlib.Algebra.Group.Nat.Defs
import Scrip.Proofs.Credential.Password

/-!
# The key of a password

Of a password in UTF-8, followed by a zero byte and repeated for ever, 72 bytes take part in its
digest (`schedule`). Passwords that share them have the same digest (`digest_eq_of_schedule_eq`),
and nothing else is lost on the way to the words that the cipher mixes in
(`cycleWords_key_eq_iff`). Where keys that differ do not collide (`Apart`), a password is verified
by exactly those bytes (`verifyPassword_iff_schedule`).

* `schedule_eq_iff`: what that is for passwords without a zero character. Those of less than 72
  bytes are told apart from every other, and longer ones as far as their first 72 bytes go.
-/

namespace Scrip.Crypt

/-! ## The words of a key -/

/-- A word of four bytes, the high byte first. -/
def word (w x y z : UInt8) : UInt32 :=
  (w.toUInt32 <<< 24) ||| (x.toUInt32 <<< 16) ||| (y.toUInt32 <<< 8) ||| z.toUInt32

theorem toNat_word (w x y z : UInt8) : (word w x y z).toNat =
    2 ^ 8 * (2 ^ 8 * (2 ^ 8 * w.toNat + x.toNat) + y.toNat) + z.toNat := by
  have hw := w.toNat_lt
  have hx := x.toNat_lt
  have hy := y.toNat_lt
  have hz := z.toNat_lt
  have top : 2 ^ 24 * w.toNat ||| 2 ^ 16 * x.toNat = 2 ^ 24 * w.toNat + 2 ^ 16 * x.toNat :=
    (Nat.two_pow_add_eq_or_of_lt (by omega) _).symm
  have middle : 2 ^ 16 * (2 ^ 8 * w.toNat + x.toNat) ||| 2 ^ 8 * y.toNat =
      2 ^ 16 * (2 ^ 8 * w.toNat + x.toNat) + 2 ^ 8 * y.toNat :=
    (Nat.two_pow_add_eq_or_of_lt (by omega) _).symm
  have bottom : 2 ^ 8 * (2 ^ 8 * (2 ^ 8 * w.toNat + x.toNat) + y.toNat) ||| z.toNat =
      2 ^ 8 * (2 ^ 8 * (2 ^ 8 * w.toNat + x.toNat) + y.toNat) + z.toNat :=
    (Nat.two_pow_add_eq_or_of_lt hz _).symm
  have shifted : (word w x y z).toNat =
      2 ^ 24 * w.toNat ||| 2 ^ 16 * x.toNat ||| 2 ^ 8 * y.toNat ||| z.toNat := by
    simp only [word, UInt32.toNat_or, UInt32.toNat_shiftLeft, UInt8.toNat_toUInt32,
      Nat.shiftLeft_eq, UInt32.reduceToNat, Nat.reduceMod]
    rw [Nat.mod_eq_of_lt (by omega), Nat.mod_eq_of_lt (by omega), Nat.mod_eq_of_lt (by omega),
      Nat.mul_comm w.toNat, Nat.mul_comm x.toNat, Nat.mul_comm y.toNat]
  rw [shifted, top, ← bottom, show 2 ^ 24 * w.toNat + 2 ^ 16 * x.toNat =
    2 ^ 16 * (2 ^ 8 * w.toNat + x.toNat) by omega, middle]
  congr 1
  omega

/-- Words are equal exactly if their bytes are. -/
theorem word_inj {w x y z w' x' y' z' : UInt8} :
    word w x y z = word w' x' y' z' ↔ w = w' ∧ x = x' ∧ y = y' ∧ z = z' := by
  refine ⟨fun h => ?_, fun ⟨hw, hx, hy, hz⟩ => by rw [hw, hx, hy, hz]⟩
  have same := congrArg UInt32.toNat h
  rw [toNat_word, toNat_word] at same
  have hx := x.toNat_lt
  have hy := y.toNat_lt
  have hz := z.toNat_lt
  have hx' := x'.toNat_lt
  have hy' := y'.toNat_lt
  have hz' := z'.toNat_lt
  simp only [← UInt8.toNat_inj]
  omega

theorem getElem_cycleWords (k : ByteArray) {i : Nat} (hi : i < 18) :
    (cycleWords k)[i] = word (cycleByte k (4 * i)) (cycleByte k (4 * i + 1))
      (cycleByte k (4 * i + 2)) (cycleByte k (4 * i + 3)) :=
  Vector.getElem_ofFn hi

/-- The words of two keys are the same exactly if the keys agree on as many bytes as words
have. -/
theorem cycleWords_eq_iff {k k' : ByteArray} :
    cycleWords k = cycleWords k' ↔ ∀ i < 72, cycleByte k i = cycleByte k' i := by
  refine ⟨fun h i hi => ?_, fun h => Vector.ext fun i hi => ?_⟩
  · have quarter : i / 4 < 18 := by omega
    have same : (cycleWords k)[i / 4] = (cycleWords k')[i / 4] := by rw [h]
    rw [getElem_cycleWords k quarter, getElem_cycleWords k' quarter, word_inj] at same
    obtain ⟨h₀, h₁, h₂, h₃⟩ := same
    have place : i = 4 * (i / 4) ∨ i = 4 * (i / 4) + 1 ∨ i = 4 * (i / 4) + 2 ∨
        i = 4 * (i / 4) + 3 := by omega
    rcases place with hi | hi | hi | hi <;> rw [hi] <;> assumption
  · rw [getElem_cycleWords k hi, getElem_cycleWords k' hi, word_inj]
    exact ⟨h _ (by omega), h _ (by omega), h _ (by omega), h _ (by omega)⟩

/-- Bytes past the ones that take part do not matter. -/
theorem cycleByte_extract {k : ByteArray} (hk : 0 < k.size) {n i : Nat} (hi : i < n) :
    cycleByte (k.extract 0 n) i = cycleByte k i := by
  have size : (k.extract 0 n).size = min n k.size := by simp
  have place : i % min n k.size = i % k.size := by
    by_cases h : n ≤ k.size
    · rw [Nat.min_eq_left h, Nat.mod_eq_of_lt hi, Nat.mod_eq_of_lt (by omega)]
    · rw [Nat.min_eq_right (by omega)]
  have inside : i % k.size < min n k.size :=
    Nat.lt_min.mpr ⟨Nat.lt_of_le_of_lt (Nat.mod_le i k.size) hi, Nat.mod_lt i hk⟩
  rw [cycleByte, cycleByte, size, place, Array.getD_eq_getD_getElem?, Array.getD_eq_getD_getElem?,
    ByteArray.data_extract, Array.getElem?_extract]
  simp only [Nat.sub_zero, Nat.zero_add, ByteArray.size_data, if_pos inside]

namespace Bcrypt

variable {p q : String}

/-- The bytes that take part of a password: the password and a zero byte, over and over. -/
def schedule (password : String) : List UInt8 :=
  (List.range keyLimit).map (cycleByte (password.toUTF8.push 0))

theorem cycleByte_key (password : String) {i : Nat} (hi : i < keyLimit) :
    cycleByte (key password) i = cycleByte (password.toUTF8.push 0) i :=
  cycleByte_extract (by simp) hi

theorem schedule_eq_iff_cycleByte :
    schedule p = schedule q ↔ ∀ i < keyLimit, cycleByte (key p) i = cycleByte (key q) i := by
  simp only [schedule, List.map_inj_left, List.mem_range]
  exact forall₂_congr fun i hi => by rw [cycleByte_key p hi, cycleByte_key q hi]

/-- The cipher is given the same words exactly if the same bytes take part. -/
theorem cycleWords_key_eq_iff : cycleWords (key p) = cycleWords (key q) ↔ schedule p = schedule q :=
  cycleWords_eq_iff.trans schedule_eq_iff_cycleByte.symm

theorem digest_eq_of_schedule_eq (h : schedule p = schedule q) (cost : Nat) (salt : Salt) :
    digest cost salt p = digest cost salt q := by
  have words := cycleWords_key_eq_iff.mpr h
  simp only [digest, digestOfKey, expensiveBoxes, words]

/-! ## Passwords without a zero character -/

/-- A password in UTF-8. -/
def bytes (password : String) : List UInt8 :=
  password.toUTF8.data.toList

theorem bytes_injective (h : bytes p = bytes q) : p = q := by
  have data : p.toUTF8.data = q.toUTF8.data := Array.toList_inj.mp h
  exact String.toByteArray_inj.mp (ByteArray.ext data)

/-- Only the zero character has a zero byte. -/
theorem zero_notMem_utf8EncodeChar {c : Char} (h : c ≠ '\x00') :
    (0 : UInt8) ∉ String.utf8EncodeChar c := by
  have value : c.val.toNat ≠ 0 := fun h' => h (Char.ext (UInt32.toNat_inj.mp h'))
  have zero {n : Nat} : (0 : UInt8) = UInt8.ofNat n ↔ n % 256 = 0 := by
    rw [← UInt8.toNat_inj, UInt8.toNat_ofNat']
    exact eq_comm
  unfold String.utf8EncodeChar
  generalize c.val.toNat = v at value
  dsimp only
  -- By the number of bytes: all have a high bit, but for the one byte of a character below 128.
  repeat' split
  all_goals
    simp only [List.mem_cons, List.not_mem_nil, or_false, zero]
    omega

theorem zero_notMem_bytes (h : '\x00' ∉ p.toList) : (0 : UInt8) ∉ bytes p := by
  rw [bytes, String.toUTF8_eq_toByteArray, ← String.utf8Encode_toList, List.utf8Encode,
    List.toList_data_toByteArray, List.mem_flatMap]
  rintro ⟨c, hc, zero⟩
  exact zero_notMem_utf8EncodeChar (fun he => h (he ▸ hc)) zero

theorem length_schedule (password : String) : (schedule password).length = keyLimit := by
  simp [schedule]

/-- A byte that takes part, of the password or the zero byte after it. -/
theorem getElem?_schedule {i : Nat} (hi : i < keyLimit) (within : i ≤ (bytes p).length) :
    (schedule p)[i]? = (bytes p ++ [0])[i]? := by
  have pushed : (p.toUTF8.push 0).data.toList = bytes p ++ [0] := Array.toList_push
  have size : (p.toUTF8.push 0).size = (bytes p).length + 1 := ByteArray.size_push
  have inside : i < (bytes p ++ [0]).length := by
    rw [List.length_append, List.length_singleton]
    omega
  rw [schedule, List.getElem?_map, List.getElem?_range hi, Option.map_some, cycleByte, size,
    Nat.mod_eq_of_lt (by omega), Array.getD_eq_getD_getElem?, ← Array.getElem?_toList, pushed,
    List.getElem?_eq_getElem inside, Option.getD_some]

/-- The bytes that take part begin with those of the password. -/
theorem take_schedule (password : String) :
    (schedule password).take (bytes password).length = (bytes password).take keyLimit := by
  refine List.ext_getElem? fun i => ?_
  rw [List.getElem?_take, List.getElem?_take]
  by_cases hi : i < keyLimit <;> by_cases within : i < (bytes password).length
  · rw [if_pos within, if_pos hi, getElem?_schedule hi (Nat.le_of_lt within),
      List.getElem?_append_left within]
  · rw [if_neg within, if_pos hi, List.getElem?_eq_none (Nat.not_lt.mp within)]
  · rw [if_pos within, if_neg hi, List.getElem?_eq_none (by rw [length_schedule]; omega)]
  · rw [if_neg within, if_neg hi]

/-- The bytes before the first zero byte are those of the password, as far as they take part. -/
theorem takeWhile_schedule (h : '\x00' ∉ p.toList) :
    (schedule p).takeWhile (· != 0) = (bytes p).take keyLimit := by
  have others : ∀ x ∈ (bytes p).take keyLimit, (x != 0) = true := fun x hx =>
    bne_iff_ne.mpr fun he => zero_notMem_bytes h (he ▸ List.mem_of_mem_take hx)
  rw [← List.take_append_drop (bytes p).length (schedule p), take_schedule,
    List.takeWhile_append_of_pos others]
  by_cases short : (bytes p).length < keyLimit
  · rw [List.drop_eq_getElem?_toList_append, getElem?_schedule short (Nat.le_refl _),
      List.getElem?_concat_length, Option.toList_some, List.singleton_append,
      List.takeWhile_cons_of_neg (by simp), List.append_nil]
  · rw [List.drop_eq_nil_of_le (by rw [length_schedule]; omega), List.takeWhile_nil,
      List.append_nil]

/-- Two passwords that fill the bytes that take part, all of them alike. -/
def SharesStart (p q : String) : Prop :=
  keyLimit ≤ (bytes p).length ∧ keyLimit ≤ (bytes q).length ∧
    (bytes p).take keyLimit = (bytes q).take keyLimit

/-- Of two passwords without a zero character the same bytes take part exactly if they are equal, or
long and start alike. -/
theorem schedule_eq_iff (hp : '\x00' ∉ p.toList) (hq : '\x00' ∉ q.toList) :
    schedule p = schedule q ↔ p = q ∨ SharesStart p q := by
  refine ⟨fun h => ?_, ?_⟩
  · have start := congrArg (List.takeWhile (· != 0)) h
    rw [takeWhile_schedule hp, takeWhile_schedule hq] at start
    have lengths := congrArg List.length start
    rw [List.length_take, List.length_take] at lengths
    by_cases long : keyLimit ≤ (bytes p).length ∧ keyLimit ≤ (bytes q).length
    · exact .inr ⟨long.1, long.2, start⟩
    · rw [List.take_of_length_le (by omega), List.take_of_length_le (by omega)] at start
      exact .inl (bytes_injective start)
  · rintro (rfl | ⟨longp, longq, start⟩)
    · rfl
    · have full {p : String} (h : keyLimit ≤ (bytes p).length) :
          schedule p = (bytes p).take keyLimit := by
        rw [← take_schedule, List.take_of_length_le (by rwa [length_schedule])]
      rw [full longp, full longq, start]

/-! ## Verification -/

/-- The digests of two passwords differ unless the cipher is given the same words. -/
def Apart (cost : Nat) (salt : Salt) (p q : String) : Prop :=
  digest cost salt p = digest cost salt q → cycleWords (key p) = cycleWords (key q)

theorem digest_eq_iff {cost : Nat} {salt : Salt} (apart : Apart cost salt p q) :
    digest cost salt p = digest cost salt q ↔ schedule p = schedule q :=
  ⟨fun h => cycleWords_key_eq_iff.mp (apart h), fun h => digest_eq_of_schedule_eq h cost salt⟩

end Bcrypt

end Scrip.Crypt

namespace Scrip.Credential

open Crypt (Salt)
open Crypt.Bcrypt

/-- A password is held against the digest of the one that was hashed. -/
theorem verifyPassword_iff_digest (salt : Salt) (p q : String) :
    verifyPassword q (hashPassword salt p) = true ↔
      digest hashCost salt q = digest hashCost salt p := by
  have read := @StoredHash.ofText?_toText salt _ (length_digest hashCost salt p)
  rw [verifyPassword, hashPassword, read]
  exact beq_iff_eq

/-- A password is verified by the bytes that take part, unless it collides with the one that was
hashed. -/
theorem verifyPassword_iff_schedule {salt : Salt} {p q : String}
    (apart : Apart hashCost salt q p) :
    verifyPassword q (hashPassword salt p) = true ↔ schedule q = schedule p :=
  (verifyPassword_iff_digest salt p q).trans (digest_eq_iff apart)

end Scrip.Credential
