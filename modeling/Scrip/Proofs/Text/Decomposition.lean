import Scrip.Text.Blank
import Scrip.Text.Normal

/-!
# What the tables of decompositions and composites have in common

The letters of a decomposition have no decomposition themselves (`decomposeChar_letter`), and
a composite decomposes as its two parts do (`decomposeChar_composePair`). The tables are
looked through for this once; Hangul is a matter of arithmetic.

A decomposition gives blanks for blanks only, and no composite and no mark is blank.
-/

namespace Scrip.Text.Normal

theorem toNat_ofNat {n : Nat} (h : n.isValidChar) : (Char.ofNat n).toNat = n := by
  rw [Char.ofNat, dif_pos h]
  rfl

/-! ## Lookups -/

theorem decomposition?_mem {c : Char} {letters : List Char} (h : decomposition? c = some letters) :
    ∃ block ∈ decompositions, ∃ entry ∈ block.2,
      Char.ofNat entry.1 = c ∧ entry.2.map Char.ofNat = letters := by
  unfold decomposition? at h
  split at h
  · cases h
  · rename_i entries hb
    obtain ⟨ns, hn, hl⟩ := Option.map_eq_some_iff.mp h
    obtain ⟨_, _, rfl, _⟩ := List.lookup_eq_some_iff.mp hn
    obtain ⟨_, _, hd, _⟩ := List.lookup_eq_some_iff.mp hb
    refine ⟨_, hd ▸ List.mem_append_cons_self, _, List.mem_append_cons_self, ?_, hl⟩
    exact Char.ofNat_toNat c

theorem composite?_mem {first second c : Char} (h : composite? first second = some c) :
    ∃ block ∈ composites, ∃ entry ∈ block.2,
      Char.ofNat block.1 = second ∧ Char.ofNat entry.1 = first ∧ Char.ofNat entry.2 = c := by
  unfold composite? at h
  split at h
  · cases h
  · rename_i entries hb
    obtain ⟨n, hn, hc⟩ := Option.map_eq_some_iff.mp h
    obtain ⟨_, _, rfl, _⟩ := List.lookup_eq_some_iff.mp hn
    obtain ⟨_, _, hd, _⟩ := List.lookup_eq_some_iff.mp hb
    exact ⟨_, hd ▸ List.mem_append_cons_self, _, List.mem_append_cons_self,
      Char.ofNat_toNat second, Char.ofNat_toNat first, hc⟩

/-- The letters of every decomposition in the table have none. -/
theorem decompositions_final : decompositions.all (fun block => block.2.all fun entry =>
    entry.2.all fun n => decomposeChar (Char.ofNat n) == [Char.ofNat n]) = true := by
  decide +kernel

/-- Every composite in the table decomposes as its parts do. -/
theorem composites_decompose : composites.all (fun block => block.2.all fun entry =>
    decomposeChar (Char.ofNat entry.2) ==
      decomposeChar (Char.ofNat entry.1) ++ decomposeChar (Char.ofNat block.1)) = true := by
  decide +kernel

/-! ## Hangul -/

/-- The code points of Hangul letters have no decomposition. -/
theorem decomposeChar_jamo {c : Char} (h : 0x1100 ≤ c.toNat) (h' : c.toNat < 0x1200) :
    decomposeChar c = [c] := by
  have letters : hangulLetters? c = none := by
    rw [hangulLetters?, if_neg]
    simp only [hangul]
    omega
  have table : decomposition? c = none := by
    have hblock : c.toNat / 256 = 0x11 := by omega
    have hnone : decompositions.lookup 0x11 = none := by decide +kernel
    rw [decomposition?, hblock, hnone]
  rw [decomposeChar, if_neg (by omega), letters, table]
  rfl

/-- The letters of the syllable of an index. -/
theorem decomposeChar_syllable {index : Nat} (h : index < 11172) :
    decomposeChar (Char.ofNat (0xAC00 + index)) =
      Char.ofNat (0x1100 + index / 588) :: Char.ofNat (0x1161 + index / 28 % 21) ::
        if index % 28 = 0 then [] else [Char.ofNat (0x11A7 + index % 28)] := by
  have hn : (Char.ofNat (0xAC00 + index)).toNat = 0xAC00 + index :=
    toNat_ofNat (.inl (by omega))
  rw [decomposeChar, hn, if_neg (by omega), hangulLetters?, hn]
  simp only [hangul, Nat.add_sub_cancel_left, Nat.le_add_right, true_and]
  rw [if_pos (by omega)]
  by_cases ht : index % 28 = 0
  · rw [if_pos ht, if_pos ht]
  · rw [if_neg ht, if_neg ht]

/-- A syllable decomposes as what it was composed of. -/
theorem decomposeChar_hangulSyllable {first second c : Char}
    (h : hangulSyllable? first second = some c) :
    decomposeChar c = decomposeChar first ++ [second] := by
  unfold hangulSyllable? at h
  dsimp only at h
  split at h
  · rename_i hlv
    obtain rfl := Option.some.inj h
    simp only [hangul] at hlv ⊢
    have lead : 0x1100 + ((first.toNat - 0x1100) * 21 + (second.toNat - 0x1161)) * 28 / 588 =
        first.toNat := by omega
    have vowel : 0x1161 + ((first.toNat - 0x1100) * 21 + (second.toNat - 0x1161)) * 28 / 28 % 21 =
        second.toNat := by omega
    rw [decomposeChar_jamo hlv.1 (by omega), decomposeChar_syllable (by omega),
      if_pos (by omega), lead, vowel, Char.ofNat_toNat, Char.ofNat_toNat]
    rfl
  · split at h
    · rename_i hlvt
      obtain rfl := Option.some.inj h
      simp only [hangul] at hlvt ⊢
      obtain ⟨index, hi⟩ := Nat.exists_eq_add_of_le hlvt.1
      obtain ⟨trail, ht⟩ := Nat.exists_eq_add_of_lt hlvt.2.2.2.1
      have first_eq : first = Char.ofNat (0xAC00 + index) := by rw [← hi, Char.ofNat_toNat]
      have second_eq : second = Char.ofNat (0x11A7 + (trail + 1)) := by
        rw [← Nat.add_assoc, ← ht, Char.ofNat_toNat]
      have sum : first.toNat + (second.toNat - 0x11A7) = 0xAC00 + (index + (trail + 1)) := by omega
      have lead : (index + (trail + 1)) / 588 = index / 588 := by omega
      have vowel : (index + (trail + 1)) / 28 = index / 28 := by omega
      have rest : (index + (trail + 1)) % 28 = trail + 1 := by omega
      rw [sum, first_eq, second_eq, decomposeChar_syllable (by omega),
        decomposeChar_syllable (by omega), lead, vowel, rest, if_neg (by omega), if_pos (by omega)]
      rfl
    · cases h

/-! ## All characters -/

/-- The ways in which a character decomposes. -/
theorem decomposeChar_cases (c : Char) :
    decomposeChar c = [c] ∨ (∃ index < 11172, c = Char.ofNat (0xAC00 + index)) ∨
      ∃ block ∈ decompositions, ∃ entry ∈ block.2,
        Char.ofNat entry.1 = c ∧ entry.2.map Char.ofNat = decomposeChar c := by
  by_cases hc : c.toNat < 0xC0
  · exact .inl (if_pos hc)
  · by_cases hs : 0xAC00 ≤ c.toNat ∧ c.toNat - 0xAC00 < 11172
    · obtain ⟨index, hi⟩ := Nat.exists_eq_add_of_le hs.1
      exact .inr (.inl ⟨index, by omega, by rw [← hi, Char.ofNat_toNat]⟩)
    · have letters : hangulLetters? c = none := by
        rw [hangulLetters?, if_neg]
        simp only [hangul]
        omega
      rw [decomposeChar, if_neg hc, letters]
      cases hd : decomposition? c with
      | none => exact .inl rfl
      | some ls => exact .inr (.inr (decomposition?_mem hd))

theorem mem_jamo {c : Char} {index : Nat} (h : index < 11172)
    (hc : c ∈ decomposeChar (Char.ofNat (0xAC00 + index))) :
    0x1100 ≤ c.toNat ∧ c.toNat < 0x1200 := by
  rw [decomposeChar_syllable h] at hc
  have letter {n : Nat} (hn : 0x1100 ≤ n) (hn' : n < 0x1200) :
      0x1100 ≤ (Char.ofNat n).toNat ∧ (Char.ofNat n).toNat < 0x1200 := by
    rw [toNat_ofNat (.inl (by omega))]
    exact ⟨hn, hn'⟩
  rcases List.mem_cons.mp hc with rfl | hc
  · exact letter (by omega) (by omega)
  · rcases List.mem_cons.mp hc with rfl | hc
    · exact letter (by omega) (by omega)
    · split at hc
      · cases hc
      · obtain rfl := List.mem_singleton.mp hc
        exact letter (by omega) (by omega)

/-- The letters of a decomposition have none. -/
theorem decomposeChar_letter {c d : Char} (h : d ∈ decomposeChar c) : decomposeChar d = [d] := by
  rcases decomposeChar_cases c with hc | ⟨index, hi, rfl⟩ | ⟨block, hb, entry, he, -, hl⟩
  · rw [hc, List.mem_singleton] at h
    rw [h, hc]
  · obtain ⟨h₁, h₂⟩ := mem_jamo hi h
    exact decomposeChar_jamo h₁ h₂
  · rw [← hl, List.mem_map] at h
    obtain ⟨n, hn, rfl⟩ := h
    have := decompositions_final
    rw [List.all_eq_true] at this
    have := List.all_eq_true.mp (List.all_eq_true.mp (this block hb) entry he) n hn
    exact eq_of_beq this

/-- A composite decomposes as its parts do. -/
theorem decomposeChar_composePair {first second c : Char}
    (h : composePair? first second = some c) (hs : decomposeChar second = [second]) :
    decomposeChar c = decomposeChar first ++ [second] := by
  unfold composePair? at h
  split at h
  · rename_i hh
    obtain rfl := Option.some.inj h
    exact decomposeChar_hangulSyllable hh
  · obtain ⟨block, hb, entry, he, rfl, rfl, rfl⟩ := composite?_mem h
    have := List.all_eq_true.mp (List.all_eq_true.mp composites_decompose block hb) entry he
    rw [← hs]
    exact eq_of_beq this

/-! ## Blanks -/

theorem decompositions_blank : decompositions.all (fun block => block.2.all fun entry =>
    isBlank (Char.ofNat entry.1) ||
      (!entry.2.isEmpty && entry.2.all fun n => !isBlank (Char.ofNat n))) = true := by
  decide +kernel

theorem composites_blank : composites.all (fun block => block.2.all fun entry =>
    !isBlank (Char.ofNat entry.2)) = true := by
  decide +kernel

theorem combiningRanges_blank : combiningRanges.all (fun block => block.2.all fun run =>
    (List.range' run.1 (run.2.1 + 1 - run.1)).all fun n => !isBlank (Char.ofNat n)) = true := by
  decide +kernel

/-- Only starters are blank. -/
theorem not_blank_of_mark {c : Char} (h : combiningClass c ≠ 0) : isBlank c = false := by
  unfold combiningClass at h
  split at h
  · exact absurd rfl h
  · rename_i runs hb
    split at h
    · exact absurd rfl h
    · rename_i run hr
      obtain ⟨_, _, hd, -⟩ := List.lookup_eq_some_iff.mp hb
      have inside := List.find?_some hr
      simp only [Bool.and_eq_true, decide_eq_true_eq] at inside
      have := List.all_eq_true.mp (List.all_eq_true.mp combiningRanges_blank _
        (hd ▸ List.mem_append_cons_self)) run (List.mem_of_find?_eq_some hr)
      have := List.all_eq_true.mp this c.toNat (List.mem_range'_1.mpr (by omega))
      rw [Char.ofNat_toNat] at this
      simpa using this

theorem not_blank_of_hangul {c : Char}
    (h : 0x1100 ≤ c.toNat ∧ c.toNat < 0x1200 ∨ 0xAC00 ≤ c.toNat) : isBlank c = false := by
  simp only [isBlank, Bool.or_eq_false_iff, Bool.and_eq_false_iff, decide_eq_false_iff_not,
    beq_eq_false_iff_ne]
  omega

/-- What is not blank decomposes to something, and none of it is blank. -/
theorem decomposeChar_not_blank {c : Char} (h : isBlank c = false) :
    decomposeChar c ≠ [] ∧ ∀ d ∈ decomposeChar c, isBlank d = false := by
  rcases decomposeChar_cases c with hc | ⟨index, hi, rfl⟩ | ⟨block, hb, entry, he, hc, hl⟩
  · rw [hc]
    exact ⟨List.cons_ne_nil _ _, fun d hd => List.mem_singleton.mp hd ▸ h⟩
  · refine ⟨?_, fun d hd => not_blank_of_hangul (.inl (mem_jamo hi hd))⟩
    rw [decomposeChar_syllable hi]
    exact List.cons_ne_nil _ _
  · have := List.all_eq_true.mp (List.all_eq_true.mp decompositions_blank block hb) entry he
    rw [hc, h, Bool.false_or, Bool.and_eq_true] at this
    rw [← hl]
    refine ⟨by simpa using this.1, fun d hd => ?_⟩
    obtain ⟨n, hn, rfl⟩ := List.mem_map.mp hd
    simpa using List.all_eq_true.mp this.2 n hn

/-- No composite is blank. -/
theorem composePair_not_blank {first second c : Char} (h : composePair? first second = some c) :
    isBlank c = false := by
  unfold composePair? at h
  split at h
  · rename_i hh
    obtain rfl := Option.some.inj h
    unfold hangulSyllable? at hh
    dsimp only at hh
    split at hh
    · rename_i hlv
      obtain rfl := Option.some.inj hh
      simp only [hangul] at hlv ⊢
      exact not_blank_of_hangul (.inr (by rw [toNat_ofNat (.inl (by omega))]; omega))
    · split at hh
      · rename_i hlvt
        obtain rfl := Option.some.inj hh
        simp only [hangul] at hlvt ⊢
        exact not_blank_of_hangul (.inr (by rw [toNat_ofNat (.inl (by omega))]; omega))
      · cases hh
  · obtain ⟨block, hb, entry, he, -, -, rfl⟩ := composite?_mem h
    simpa using List.all_eq_true.mp (List.all_eq_true.mp composites_blank block hb) entry he

end Scrip.Text.Normal
