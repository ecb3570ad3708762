import Scrip.Text.Base64

/-!
# Base 64 read back

Bytes written with an alphabet of 64 different digits are read back as they were
(`decode?_encode`), and so are those written with the standard one and padded
(`decodePadded?_encodePadded`). No other text is read (`encode_of_decode?`,
`encodePadded_of_decodePadded?`).
-/

namespace Scrip.Text.Base64

/-- Every value below 64 has a digit of its own. -/
def Alphabet.Proper (a : Alphabet) : Prop :=
  ∀ v < 64, value? a (digit a v) = some v

theorem crypt_proper : Alphabet.Proper crypt := by
  unfold Alphabet.Proper
  decide +kernel

theorem standard_proper : Alphabet.Proper standard := by
  unfold Alphabet.Proper
  decide +kernel

/-- What is written consists of digits. -/
theorem mem_encode {a : Alphabet} {c : Char} :
    ∀ {bytes : List UInt8}, c ∈ encode a bytes → ∃ v < 64, c = digit a v
  | [], h => by cases h
  | [x], h => by
    have := x.toNat_lt
    simp only [encode, List.mem_cons, List.not_mem_nil, or_false] at h
    rcases h with rfl | rfl <;> exact ⟨_, by omega, rfl⟩
  | [x, y], h => by
    have := x.toNat_lt
    have := y.toNat_lt
    simp only [encode, List.mem_cons, List.not_mem_nil, or_false] at h
    rcases h with rfl | rfl | rfl <;> exact ⟨_, by omega, rfl⟩
  | x :: y :: z :: bytes, h => by
    have := x.toNat_lt
    have := y.toNat_lt
    have := z.toNat_lt
    simp only [encode, List.mem_cons] at h
    rcases h with rfl | rfl | rfl | rfl | h
    · exact ⟨_, by omega, rfl⟩
    · exact ⟨_, by omega, rfl⟩
    · exact ⟨_, by omega, rfl⟩
    · exact ⟨_, by omega, rfl⟩
    · exact mem_encode h

theorem length_encode (a : Alphabet) : ∀ bytes : List UInt8,
    (encode a bytes).length = (bytes.length * 4 + 2) / 3
  | [] => rfl
  | [_] => by simp only [encode, List.length_cons, List.length_nil]
  | [_, _] => by simp only [encode, List.length_cons, List.length_nil]
  | x :: y :: z :: bytes => by
    simp only [encode, List.length_cons, length_encode a bytes]
    omega

/-- What is written is read back. -/
theorem decode?_encode {a : Alphabet} (ha : a.Proper) :
    ∀ bytes : List UInt8, decode? a (encode a bytes) = some bytes
  | [] => rfl
  | [x] => by
    have := x.toNat_lt
    have first : x.toNat / 4 * 4 + x.toNat % 4 * 16 / 16 = x.toNat := by omega
    simp only [encode, decode?, ha (x.toNat / 4) (by omega), ha (x.toNat % 4 * 16) (by omega),
      Option.bind_eq_bind, Option.bind_some, Nat.mul_mod_left, if_true, first, UInt8.ofNat_toNat]
  | [x, y] => by
    have := x.toNat_lt
    have := y.toNat_lt
    have first : x.toNat / 4 * 4 + (x.toNat % 4 * 16 + y.toNat / 16) / 16 = x.toNat := by omega
    have second : (x.toNat % 4 * 16 + y.toNat / 16) % 16 * 16 + y.toNat % 16 * 4 / 4 = y.toNat := by
      omega
    simp only [encode, decode?, ha (x.toNat / 4) (by omega),
      ha (x.toNat % 4 * 16 + y.toNat / 16) (by omega), ha (y.toNat % 16 * 4) (by omega),
      Option.bind_eq_bind, Option.bind_some, Nat.mul_mod_left, if_true, first, second,
      UInt8.ofNat_toNat]
  | x :: y :: z :: bytes => by
    have := x.toNat_lt
    have := y.toNat_lt
    have := z.toNat_lt
    have first : x.toNat / 4 * 4 + (x.toNat % 4 * 16 + y.toNat / 16) / 16 = x.toNat := by omega
    have second : (x.toNat % 4 * 16 + y.toNat / 16) % 16 * 16 +
        (y.toNat % 16 * 4 + z.toNat / 64) / 4 = y.toNat := by omega
    have third : (y.toNat % 16 * 4 + z.toNat / 64) % 4 * 64 + z.toNat % 64 = z.toNat := by omega
    simp only [encode, decode?, ha (x.toNat / 4) (by omega),
      ha (x.toNat % 4 * 16 + y.toNat / 16) (by omega),
      ha (y.toNat % 16 * 4 + z.toNat / 64) (by omega), ha (z.toNat % 64) (by omega),
      decode?_encode ha bytes, Option.bind_eq_bind, Option.bind_some, first, second, third,
      UInt8.ofNat_toNat]

/-- The value of a digit is that of no other. -/
theorem digit_of_value? {a : Alphabet} {c : Char} {v : Nat} (h : value? a c = some v) :
    v < a.length ∧ digit a v = c := by
  unfold value? at h
  obtain ⟨hv, hc, -⟩ := List.findIdx?_eq_some_iff_getElem.mp h
  refine ⟨hv, ?_⟩
  rw [digit, List.getD_eq_getElem?_getD, List.getElem?_eq_getElem hv]
  exact beq_iff_eq.mp hc

/-- Only what is written is read. -/
theorem encode_of_decode? {a : Alphabet} (ha : a.length = 64) :
    ∀ {digits : List Char} {bytes : List UInt8}, decode? a digits = some bytes →
      digits = encode a bytes
  | [], _, h => by
    cases h
    rfl
  | [_], _, h => by cases h
  | [c, d], _, h => by
    simp only [decode?, Option.bind_eq_bind, Option.bind_eq_some_iff] at h
    obtain ⟨x, hx, y, hy, h⟩ := h
    obtain ⟨_, rfl⟩ := digit_of_value? hx
    obtain ⟨_, rfl⟩ := digit_of_value? hy
    split at h <;> cases h
    have byte : (UInt8.ofNat (x * 4 + y / 16)).toNat = x * 4 + y / 16 :=
      UInt8.toNat_ofNat_of_lt' (show _ < 256 by omega)
    have first : (x * 4 + y / 16) / 4 = x := by omega
    have second : (x * 4 + y / 16) % 4 * 16 = y := by omega
    rw [encode, byte, first, second]
  | [c, d, e], _, h => by
    simp only [decode?, Option.bind_eq_bind, Option.bind_eq_some_iff] at h
    obtain ⟨x, hx, y, hy, z, hz, h⟩ := h
    obtain ⟨_, rfl⟩ := digit_of_value? hx
    obtain ⟨_, rfl⟩ := digit_of_value? hy
    obtain ⟨_, rfl⟩ := digit_of_value? hz
    split at h <;> cases h
    have byte : (UInt8.ofNat (x * 4 + y / 16)).toNat = x * 4 + y / 16 :=
      UInt8.toNat_ofNat_of_lt' (show _ < 256 by omega)
    have byte' : (UInt8.ofNat (y % 16 * 16 + z / 4)).toNat = y % 16 * 16 + z / 4 :=
      UInt8.toNat_ofNat_of_lt' (show _ < 256 by omega)
    have first : (x * 4 + y / 16) / 4 = x := by omega
    have second : (x * 4 + y / 16) % 4 * 16 + (y % 16 * 16 + z / 4) / 16 = y := by omega
    have third : (y % 16 * 16 + z / 4) % 16 * 4 = z := by omega
    rw [encode, byte, byte', first, second, third]
  | c :: d :: e :: f :: digits, _, h => by
    simp only [decode?, Option.bind_eq_bind, Option.bind_eq_some_iff] at h
    obtain ⟨x, hx, y, hy, z, hz, u, hu, bytes, hb, h⟩ := h
    obtain ⟨_, rfl⟩ := digit_of_value? hx
    obtain ⟨_, rfl⟩ := digit_of_value? hy
    obtain ⟨_, rfl⟩ := digit_of_value? hz
    obtain ⟨_, rfl⟩ := digit_of_value? hu
    cases h
    have byte : (UInt8.ofNat (x * 4 + y / 16)).toNat = x * 4 + y / 16 :=
      UInt8.toNat_ofNat_of_lt' (show _ < 256 by omega)
    have byte' : (UInt8.ofNat (y % 16 * 16 + z / 4)).toNat = y % 16 * 16 + z / 4 :=
      UInt8.toNat_ofNat_of_lt' (show _ < 256 by omega)
    have byte'' : (UInt8.ofNat (z % 4 * 64 + u)).toNat = z % 4 * 64 + u :=
      UInt8.toNat_ofNat_of_lt' (show _ < 256 by omega)
    have first : (x * 4 + y / 16) / 4 = x := by omega
    have second : (x * 4 + y / 16) % 4 * 16 + (y % 16 * 16 + z / 4) / 16 = y := by omega
    have third : (y % 16 * 16 + z / 4) % 16 * 4 + (z % 4 * 64 + u) / 64 = z := by omega
    have fourth : (z % 4 * 64 + u) % 64 = u := by omega
    rw [encode, byte, byte', byte'', first, second, third, fourth, ← encode_of_decode? ha hb]

/-! ## Padding -/

/-- What is padded ends in as many equals signs as it was padded with. -/
theorem padding_encodePadded (bytes : List UInt8) :
    ((encodePadded bytes).reverse.takeWhile (· == '=')).length = (3 - bytes.length % 3) % 3 := by
  have digits : ∀ v < 64, digit standard v ≠ '=' := by decide +kernel
  have unpadded : (encode standard bytes).reverse.takeWhile (· == '=') = [] := by
    cases h : (encode standard bytes).reverse with
    | nil => rfl
    | cons c cs =>
      have written : c ∈ (encode standard bytes).reverse := h ▸ List.mem_cons_self
      obtain ⟨v, hv, rfl⟩ := mem_encode (List.mem_reverse.mp written)
      exact List.takeWhile_cons_of_neg fun he => digits v hv (beq_iff_eq.mp he)
  rw [encodePadded, List.reverse_append, List.reverse_replicate,
    List.takeWhile_append_of_pos fun _ hc => beq_iff_eq.mpr (List.eq_of_mem_replicate hc),
    unpadded, List.append_nil, List.length_replicate]

/-- What is written and padded is read back. -/
theorem decodePadded?_encodePadded (bytes : List UInt8) :
    decodePadded? (encodePadded bytes) = some bytes := by
  have length : (encodePadded bytes).length =
      (bytes.length * 4 + 2) / 3 + (3 - bytes.length % 3) % 3 := by
    rw [encodePadded, List.length_append, length_encode, List.length_replicate]
  have whole : ((bytes.length * 4 + 2) / 3 + (3 - bytes.length % 3) % 3) % 4 = 0 ∧
      (3 - bytes.length % 3) % 3 ≤ 2 := by
    obtain h | h | h : bytes.length % 3 = 0 ∨ bytes.length % 3 = 1 ∨ bytes.length % 3 = 2 := by
      omega
    all_goals rw [h]; omega
  unfold decodePadded?
  dsimp only
  rw [padding_encodePadded, length, if_pos whole, Nat.add_sub_cancel, encodePadded,
    List.take_left' (length_encode ..), decode?_encode standard_proper]

/-- The padding is what a text ends with. -/
theorem take_append_padding {digits : List Char} {n : Nat}
    (hn : (digits.reverse.takeWhile (· == '=')).length = n) :
    digits = digits.take (digits.length - n) ++ List.replicate n '=' ∧ n ≤ digits.length := by
  have padding : digits.reverse.takeWhile (· == '=') = List.replicate n '=' :=
    List.eq_replicate_iff.mpr
      ⟨hn, fun c hc => beq_iff_eq.mp (List.all_eq_true.mp List.all_takeWhile c hc)⟩
  have parts : digits =
      (digits.reverse.dropWhile (· == '=')).reverse ++ List.replicate n '=' :=
    calc digits = (digits.reverse.takeWhile (· == '=') ++
          digits.reverse.dropWhile (· == '=')).reverse := by
          rw [List.takeWhile_append_dropWhile, List.reverse_reverse]
      _ = _ := by rw [List.reverse_append, padding, List.reverse_replicate]
  generalize (digits.reverse.dropWhile (· == '=')).reverse = front at parts
  subst parts
  rw [List.length_append, List.length_replicate, Nat.add_sub_cancel, List.take_left]
  exact ⟨rfl, Nat.le_add_left ..⟩

/-- Only what is written with padding is read with it. -/
theorem encodePadded_of_decodePadded? {digits : List Char} {bytes : List UInt8}
    (h : decodePadded? digits = some bytes) : digits = encodePadded bytes := by
  unfold decodePadded? at h
  dsimp only at h
  generalize hn : (digits.reverse.takeWhile (· == '=')).length = n at h
  obtain ⟨parts, short⟩ := take_append_padding hn
  split at h
  · rename_i whole
    have written := encode_of_decode? rfl h
    have length := congrArg List.length written
    rw [List.length_take, length_encode] at length
    have count : n = (3 - bytes.length % 3) % 3 := by
      obtain h | h | h : bytes.length % 3 = 0 ∨ bytes.length % 3 = 1 ∨ bytes.length % 3 = 2 := by
        omega
      all_goals rw [h]; omega
    rw [encodePadded, ← written, ← count]
    exact parts
  · cases h

/-- What is written and padded is ASCII. -/
theorem toNat_lt_of_mem_encodePadded {bytes : List UInt8} {c : Char}
    (h : c ∈ encodePadded bytes) : c.toNat < 128 := by
  have digits : ∀ v < 64, (digit standard v).toNat < 128 := by decide +kernel
  rcases List.mem_append.mp h with h | h
  · obtain ⟨v, hv, rfl⟩ := mem_encode h
    exact digits v hv
  · cases List.eq_of_mem_replicate h
    decide

theorem decodePadded?_eq_some_iff {digits : List Char} {bytes : List UInt8} :
    decodePadded? digits = some bytes ↔ digits = encodePadded bytes :=
  ⟨encodePadded_of_decodePadded?, fun h => h ▸ decodePadded?_encodePadded bytes⟩

/-- Spaces in front of what is written are told from it. -/
theorem dropWhile_encodePadded (spaces : Nat) (bytes : List UInt8) :
    (List.replicate spaces ' ' ++ encodePadded bytes).dropWhile (· == ' ') =
      encodePadded bytes := by
  have digits : ∀ v < 64, digit standard v ≠ ' ' := by decide +kernel
  have no_space : ' ' ∉ encodePadded bytes := by
    intro h
    rcases List.mem_append.mp h with h | h
    · obtain ⟨v, hv, he⟩ := mem_encode h
      exact digits v hv he.symm
    · cases List.eq_of_mem_replicate h
  rw [List.dropWhile_append_of_pos fun _ hc => beq_iff_eq.mpr (List.eq_of_mem_replicate hc)]
  cases h : encodePadded bytes with
  | nil => rfl
  | cons c cs =>
    exact List.dropWhile_cons_of_neg fun he => no_space (h ▸ beq_iff_eq.mp he ▸ List.mem_cons_self)

end Scrip.Text.Base64
