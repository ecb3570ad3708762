import Mathlib.Tactic.Linarith
import Mathlib.Tactic.Ring
import Scrip.Proofs.Time.Calendar
import Scrip.Proofs.Time.Digits

/-!
# Times in tables

A time that a table keeps as text is read again as it was (`Instant.ofStored?_toStored`). In
years of four digits the texts are in the order of the times (`Instant.toStored_lt`).
-/

namespace Scrip.Instant

open TimeField

/-- The mark of the offset zero. -/
def zeroOffset : List Char :=
  ['+', '0', '0', ':', '0', '0']

/-- A time of day as it stands in a table, with the mark of the offset. -/
def timeText (secondOfDay nanoseconds : Nat) : List Char :=
  digits 2 (secondOfDay / 3600) ++ (':' :: (digits 2 (secondOfDay / 60 % 60) ++
    (':' :: (digits 2 (secondOfDay % 60) ++ ((renderFraction nanoseconds).toList ++ zeroOffset)))))

/-- A day and what comes after it as they stand in a table. -/
def dayText (d : Date) (rest : List Char) : List Char :=
  '-' :: (digits 2 d.month ++ ('-' :: (digits 2 d.day ++ ('T' :: rest))))

/-- The date of an instant. -/
def date (t : Instant) : Date :=
  Date.ofDays (t.seconds.fdiv 86400)

/-- The second of the day of an instant. -/
def secondOfDay (t : Instant) : Nat :=
  (t.seconds.fmod 86400).toNat

variable {t : Instant}

theorem secondOfDay_lt : t.secondOfDay < 86400 := by
  have hlt := Int.fmod_lt_of_pos t.seconds (show (0 : Int) < 86400 by decide)
  unfold secondOfDay
  omega

theorem seconds_split (t : Instant) :
    t.seconds = t.seconds.fdiv 86400 * 86400 + t.secondOfDay := by
  have hsum := Int.fmod_add_mul_fdiv t.seconds 86400
  have hpos := Int.fmod_nonneg_of_pos t.seconds (show (0 : Int) < 86400 by decide)
  unfold secondOfDay
  omega

/-- The date and the second of the day tell the second. -/
theorem seconds_eq (t : Instant) : t.seconds = t.date.toDays * 86400 + t.secondOfDay := by
  rw [date, Date.toDays_ofDays]
  exact seconds_split t

theorem toList_toStored (h : t.nanoseconds < 1000000000) : t.toStored.toList =
    (Date.renderYear t.date.year).toList ++
      dayText t.date (timeText t.secondOfDay t.nanoseconds) := by
  obtain ⟨-, hm, -, hd⟩ := Date.month_day_ofDays (t.seconds.fdiv 86400)
  have hs := secondOfDay_lt (t := t)
  have hleap : ¬ 1000000000 ≤ t.nanoseconds := Nat.not_le.mpr h
  have h2 {n : Nat} (hn : n < 100) : (paddedNat 2 n).toList = digits 2 n :=
    toList_paddedNat (by decide) hn
  have hr : t.toStored = t.date.render ++ "T" ++
    renderTimeOfDay t.secondOfDay t.nanoseconds ++ "+00:00" := rfl
  rw [hr, Date.render, renderTimeOfDay, if_neg hleap]
  simp only [String.toList_append, List.append_assoc, Nat.add_zero, Nat.zero_mul, Nat.sub_zero,
    dayText, timeText]
  rw [h2 (show t.date.month < 100 from Nat.lt_of_le_of_lt hm (by decide)),
    h2 (show t.date.day < 100 from Nat.lt_of_le_of_lt hd (by decide)), h2 (by omega),
    h2 (by omega), h2 (by omega)]
  rfl

/-! ## Reading -/

/-- A fraction is read to the nanosecond. -/
theorem fraction?_render {n : Nat} (h : n < 1000000000) :
    fraction? ((renderFraction n).toList ++ zeroOffset) = some (n, zeroOffset) := by
  have read (width m : Nat) (hw : 0 < width) (hw9 : width ≤ 9) (hm : m < 10 ^ width) :
      fraction? (("." ++ paddedNat width m).toList ++ zeroOffset) =
        some (m * tenPow (9 - width), zeroOffset) := by
    obtain ⟨width, rfl⟩ : ∃ w, width = w + 1 := ⟨width - 1, by omega⟩
    rw [String.toList_append, toList_paddedNat hw hm, List.append_assoc]
    have sign : ∀ c ∈ zeroOffset.head?, c.isDigit = false := by
      intro c hc
      cases hc
      rfl
    have taken : takeDigits 9 (digits (width + 1) m ++ zeroOffset) =
        (m, width + 1, zeroOffset) := by
      rw [takeDigits_digits m hw9 (.inr sign), Nat.mod_eq_of_lt hm]
    show fraction? ('.' :: (digits (width + 1) m ++ zeroOffset)) = _
    simp only [fraction?, taken]
    rfl
  unfold renderFraction
  split
  · rename_i h0
    rw [h0]
    rfl
  · split
    · rw [read 3 _ (by decide) (by decide) (by omega)]
      exact congrArg (fun k => some (k, zeroOffset)) (by
        show n / 1000000 * 1000000 = n
        omega)
    · split
      · rw [read 6 _ (by decide) (by decide) (by omega)]
        exact congrArg (fun k => some (k, zeroOffset)) (by
          show n / 1000 * 1000 = n
          omega)
      · rw [read 9 _ (by decide) (by decide) h]
        exact congrArg (fun k => some (k, zeroOffset)) (Nat.mul_one n)

/-- What is read of the text of an instant. -/
def parts (t : Instant) : TimeParts where
  year := t.date.year
  month := t.date.month
  day := t.date.day
  hour := t.secondOfDay / 3600
  minute := t.secondOfDay / 60 % 60
  second := t.secondOfDay % 60
  nanosecond := t.nanoseconds

theorem toInstant?_parts (t : Instant) : t.parts.toInstant? = some t := by
  have hs := secondOfDay_lt (t := t)
  have hsec := seconds_eq t
  have hdate : Date.ofParts? t.parts.year t.parts.month t.parts.day = some t.date :=
    Date.ofParts?_ofDays _
  have hclock : ¬ (24 ≤ t.parts.hour ∨ 60 ≤ t.parts.minute ∨ 60 < t.parts.second) := by
    simp only [parts]
    omega
  have hmin : min t.parts.second 59 = t.parts.second := by
    simp only [parts]
    omega
  have hsum : t.date.toDays * 86400 + ((t.parts.hour : Int) * 3600 + t.parts.minute * 60 +
      t.parts.second) - t.parts.offset = t.seconds := by
    simp only [parts]
    omega
  simp only [TimeParts.toInstant?, hdate, if_neg hclock, hmin, hsum, Nat.sub_self, Nat.zero_mul,
    Nat.add_zero]
  rfl

/-! ### A year of four digits -/

theorem toList_renderYear {y : Int} (h0 : 0 ≤ y) (h : y ≤ 9999) :
    (Date.renderYear y).toList = digits 4 y.toNat := by
  rw [Date.renderYear, if_pos ⟨h0, h⟩, toList_paddedNat (by decide) (by omega)]

/-- What is read of fields of two digits is what was written. -/
theorem mk_parts (t : Instant) : ({
    year := t.date.year
    month := t.date.month % 100
    day := t.date.day % 100
    hour := t.secondOfDay / 3600 % 100
    minute := t.secondOfDay / 60 % 60 % 100
    second := t.secondOfDay % 60 % 100
    nanosecond := t.nanoseconds } : TimeParts) = t.parts := by
  have hs := secondOfDay_lt (t := t)
  obtain ⟨-, hm, -, hd⟩ := Date.month_day_ofDays (t.seconds.fdiv 86400)
  rw [← date] at hm hd
  rw [parts, Nat.mod_eq_of_lt (a := t.date.month) (by omega), Nat.mod_eq_of_lt (by omega),
    Nat.mod_eq_of_lt (a := t.secondOfDay / 3600) (by omega),
    Nat.mod_eq_of_lt (a := t.secondOfDay / 60 % 60) (by omega),
    Nat.mod_eq_of_lt (a := t.secondOfDay % 60) (by omega)]

/-- In a year of four digits all fields are at full width. -/
theorem ofRfc3339?_toStored (h : t.nanoseconds < 1000000000) (h0 : 0 ≤ t.date.year)
    (h9 : t.date.year ≤ 9999) : ofRfc3339? t.toStored.toList = some t := by
  have hy : ((t.date.year.toNat % 10 ^ 4 : Nat) : Int) = t.date.year := by omega
  rw [toList_toStored h, toList_renderYear h0 h9]
  simp only [ofRfc3339?, takeDigits_digits _ (Nat.le_refl 4) (.inl rfl), dayText, timeText, read?,
    twoDigits?_digits, fraction?_render h, Option.bind_eq_bind, Option.bind_some, if_true, if_false,
    Option.map_some, ne_eq, not_true_eq_false, true_or, hy]
  exact (congrArg TimeParts.toInstant? (mk_parts t)).trans (toInstant?_parts t)

/-! ### Any other year -/

theorem exists_toList_renderYear {y : Int} (hy : ¬ (0 ≤ y ∧ y ≤ 9999)) :
    ∃ c k, (c = '-' ∧ y < 0 ∨ c = '+' ∧ 0 ≤ y) ∧ 0 < k ∧ y.natAbs < 10 ^ k ∧
      (Date.renderYear y).toList = c :: digits k y.natAbs := by
  obtain ⟨k, hk, hlt, hd⟩ := exists_toList_paddedNat 4 y.natAbs
  rw [Date.renderYear, if_neg hy]
  split
  · exact ⟨'-', k, .inl ⟨rfl, ‹_›⟩, by omega, hlt, by rw [String.toList_append, hd]; rfl⟩
  · exact ⟨'+', k, .inr ⟨rfl, by omega⟩, by omega, hlt, by rw [String.toList_append, hd]; rfl⟩

/-- A year that is written with a sign is read to its end. -/
theorem year?_render {y : Int} (hy : ¬ (0 ≤ y ∧ y ≤ 9999)) (rest : List Char) :
    year? ((Date.renderYear y).toList ++ '-' :: rest) = some (y, '-' :: rest) := by
  obtain ⟨c, k, hc, hk, hlt, htext⟩ := exists_toList_renderYear hy
  have hn : number? (digits k y.natAbs ++ '-' :: rest).length
      (digits k y.natAbs ++ '-' :: rest) = some (y.natAbs, '-' :: rest) := by
    rw [number?_digits _ hk (by simp) (.inr (by simp)), Nat.mod_eq_of_lt hlt]
  rw [htext, List.cons_append]
  rcases hc with ⟨rfl, h⟩ | ⟨rfl, h⟩
  · simp only [year?, hn, Option.map_some, Option.some.injEq, Prod.mk.injEq, and_true]
    omega
  · simp only [year?, hn, Option.map_some, Option.some.injEq, Prod.mk.injEq, and_true]
    omega

theorem ofRfc3339?_eq_none {y : Int} (hy : ¬ (0 ≤ y ∧ y ≤ 9999)) (rest : List Char) :
    ofRfc3339? ((Date.renderYear y).toList ++ rest) = none := by
  obtain ⟨c, k, hc, -, -, htext⟩ := exists_toList_renderYear hy
  rw [htext, List.cons_append]
  rcases hc with ⟨rfl, -⟩ | ⟨rfl, -⟩ <;> rfl

/-- Blanks are skipped in front of a number, and a digit is none. -/
theorem number?_spaceless (n : Nat) (rest : List Char) :
    number? 2 ((digits 2 n ++ rest).dropWhile (· == ' ')) = some (n % 100, rest) := by
  have hne : (Nat.digitChar (n / 10 ^ 1 % 10) == ' ') = false := by
    have := isDigit_digitChar (Nat.mod_lt (n / 10 ^ 1) (show 10 > 0 by decide))
    rw [beq_eq_false_iff_ne]
    rintro he
    rw [he] at this
    cases this
  have hkeep : (digits 2 n ++ rest).dropWhile (· == ' ') = digits 2 n ++ rest := by
    rw [digits, List.cons_append, List.dropWhile_cons, hne]
    rfl
  rw [hkeep, number?_digits n (by decide) (Nat.le_refl 2) (.inl rfl)]
  rfl

theorem year?_spaceless {y : Int} (hy : ¬ (0 ≤ y ∧ y ≤ 9999)) (rest : List Char) :
    year? (((Date.renderYear y).toList ++ '-' :: rest).dropWhile (· == ' ')) =
      some (y, '-' :: rest) := by
  have hkeep : ((Date.renderYear y).toList ++ '-' :: rest).dropWhile (· == ' ') =
      (Date.renderYear y).toList ++ '-' :: rest := by
    obtain ⟨c, k, hc, -, -, htext⟩ := exists_toList_renderYear hy
    rw [htext]
    rcases hc with ⟨rfl, -⟩ | ⟨rfl, -⟩ <;> rfl
  rw [hkeep, year?_render hy]

/-- The fields of a date, and those that follow. -/
theorem readAll?_date {d : Date} (hy : ¬ (0 ≤ d.year ∧ d.year ≤ 9999)) (fields : List TimeField)
    (rest : List Char) :
    readAll? (dateFields ++ fields) {} ((Date.renderYear d.year).toList ++ dayText d rest) =
      readAll? fields { year := d.year, month := d.month % 100, day := d.day % 100 }
        ('T' :: rest) := by
  simp only [dateFields, dayText, List.cons_append, List.nil_append, readAll?, read?,
    year?_spaceless hy, number?_spaceless, Option.map_some, if_true]

/-- A mark, and the fields that follow. -/
theorem readAll?_mark (c d : Char) (fields : List TimeField) (p : TimeParts) (rest : List Char) :
    readAll? ([.mark c] ++ fields) p (d :: rest) =
      if d = c then readAll? fields p rest else none := by
  by_cases hd : d = c <;>
    simp only [List.singleton_append, readAll?, read?, hd, if_true, if_false]

/-- The fields of hour and minute, and those that follow. -/
theorem readAll?_minute (h m : Nat) (fields : List TimeField) (p : TimeParts) (rest : List Char) :
    readAll? (minuteFields ++ fields) p (digits 2 h ++ ':' :: (digits 2 m ++ rest)) =
      readAll? fields { p with hour := h % 100, minute := m % 100 } rest := by
  simp only [minuteFields, List.cons_append, List.nil_append, readAll?, read?, number?_spaceless,
    Option.map_some, if_true]

/-- The fields of second and fraction, and those that follow. -/
theorem readAll?_second {n : Nat} (hn : n < 1000000000) (s : Nat) (fields : List TimeField)
    (p : TimeParts) :
    readAll? ([.mark ':', .second, .fraction] ++ fields) p
        (':' :: (digits 2 s ++ ((renderFraction n).toList ++ zeroOffset))) =
      readAll? fields { p with second := s % 100, nanosecond := n } zeroOffset := by
  simp only [List.cons_append, List.nil_append, readAll?, read?, number?_spaceless,
    fraction?_render hn, Option.map_some, if_true]

/-- A text with a year of more digits is read in the last layout. -/
theorem findSome?_storedLayouts (h : t.nanoseconds < 1000000000)
    (hy : ¬ (0 ≤ t.date.year ∧ t.date.year ≤ 9999)) :
    (storedLayouts.findSome? fun layout =>
      (readAll? layout {} t.toStored.toList).bind TimeParts.toInstant?) = some t := by
  have minutes (h m : Nat) (p : TimeParts) (rest : List Char) :
      readAll? minuteFields p (digits 2 h ++ ':' :: (digits 2 m ++ ':' :: rest)) = none := by
    rw [← List.append_nil minuteFields, readAll?_minute]
    rfl
  have seconds (s : Nat) (p : TimeParts) : readAll? [.mark ':', .second, .fraction] p
      (':' :: (digits 2 s ++ ((renderFraction t.nanoseconds).toList ++ zeroOffset))) = none := by
    rw [← List.append_nil [_, _, _], readAll?_second h]
    rfl
  have noOffset (p : TimeParts) (rest : List Char) :
      readAll? [.offset] p (':' :: rest) = none :=
    rfl
  have atOffset (p : TimeParts) : readAll? [.offset] p zeroOffset = some { p with offset := 0 } :=
    rfl
  have noMark (p : TimeParts) (rest : List Char) : readAll? [.mark 'Z'] p (':' :: rest) = none :=
    rfl
  have atMark (p : TimeParts) : readAll? [.mark 'Z'] p zeroOffset = none := rfl
  have last := (congrArg TimeParts.toInstant? (mk_parts t)).trans (toInstant?_parts t)
  rw [toList_toStored h]
  simp only [storedLayouts, secondFields, List.findSome?_cons, List.append_assoc,
    readAll?_date hy, timeText, readAll?_mark, readAll?_minute,
    readAll?_second h, minutes, seconds, noOffset, atOffset, noMark, atMark, if_true,
    show ¬ ('T' = ' ') by decide, if_false, Option.bind_none, Option.bind_some, last]

/-- A time that a table keeps is read as it was. -/
theorem ofStored?_toStored (h : t.nanoseconds < 1000000000) : ofStored? t.toStored = some t := by
  unfold ofStored?
  by_cases hy : 0 ≤ t.date.year ∧ t.date.year ≤ 9999
  · rw [ofRfc3339?_toStored h hy.1 hy.2]
  · have hnone : ofRfc3339? t.toStored.toList = none := by
      rw [toList_toStored h]
      exact ofRfc3339?_eq_none hy _
    rw [hnone]
    exact findSome?_storedLayouts h hy

/-! ## Order -/

/-- Decimal fractions are in the order of their digits, when their end is marked by something
that comes before any digit. -/
theorem digits_lt_of_fraction {w w' a b : Nat} {rest rest' : List Char}
    (h : a % 10 ^ w * 10 ^ w' < b % 10 ^ w' * 10 ^ w) :
    digits w a ++ '+' :: rest < digits w' b ++ '+' :: rest' := by
  induction w generalizing w' with
  | zero =>
    match w' with
    | 0 => simp [Nat.mod_one] at h
    | w' + 1 =>
      have first : ∀ d < 10, '+' < Nat.digitChar d := by decide
      exact List.cons_lt_cons_iff.mpr (.inl (first _ (Nat.mod_lt _ (by decide))))
  | succ w ih =>
    match w' with
    | 0 => simp [Nat.mod_one] at h
    | w' + 1 =>
      have hb := Nat.mod_lt b (Nat.pow_pos (n := w') (show 0 < 10 by decide))
      rw [Nat.mod_pow_succ, Nat.mod_pow_succ, Nat.pow_succ, Nat.pow_succ] at h
      rw [digits, digits, List.cons_append, List.cons_append, List.cons_lt_cons_iff]
      rcases Nat.lt_trichotomy (a / 10 ^ w % 10) (b / 10 ^ w' % 10) with hd | hd | hd
      · exact .inl (digitChar_lt _ (Nat.mod_lt _ (by decide)) _ hd)
      · rw [hd] at h ⊢
        refine .inr ⟨rfl, ih ?_⟩
        nlinarith
      · have hd := Nat.mul_le_mul_left (10 ^ w * 10 ^ w') (Nat.add_one_le_iff.mpr hd)
        have hb := Nat.mul_lt_mul_of_pos_right hb (Nat.pow_pos (n := w) (show 0 < 10 by decide))
        nlinarith [Nat.zero_le (a % 10 ^ w * 10 ^ w')]

/-- The digits of a fraction. -/
theorem exists_renderFraction {n : Nat} (h0 : n ≠ 0) (h : n < 1000000000) :
    ∃ w a, w ≤ 9 ∧ a < 10 ^ w ∧ n = a * 10 ^ (9 - w) ∧
      (renderFraction n).toList = '.' :: digits w a := by
  have write (w a : Nat) (hw : 0 < w) (ha : a < 10 ^ w) :
      ("." ++ paddedNat w a).toList = '.' :: digits w a := by
    rw [String.toList_append, toList_paddedNat hw ha]
    rfl
  rw [renderFraction, if_neg h0]
  split
  · exact ⟨3, n / 1000000, by omega, by omega, by omega, write _ _ (by decide) (by omega)⟩
  · split
    · exact ⟨6, n / 1000, by omega, by omega, by omega, write _ _ (by decide) (by omega)⟩
    · exact ⟨9, n, by omega, by omega, by omega, write _ _ (by decide) h⟩

theorem renderFraction_lt {m n : Nat} (hn : n < 1000000000) (h : m < n) :
    (renderFraction m).toList ++ zeroOffset < (renderFraction n).toList ++ zeroOffset := by
  obtain ⟨w', b, hw', hb, hbn, hn⟩ := exists_renderFraction (by omega) hn
  rw [hn]
  by_cases h0 : m = 0
  · rw [h0]
    exact List.cons_lt_cons_iff.mpr (.inl (by decide))
  · obtain ⟨w, a, hw, ha, ham, hm⟩ := exists_renderFraction h0 (by omega)
    rw [hm]
    refine List.cons_lt_cons_iff.mpr (.inr ⟨rfl, digits_lt_of_fraction ?_⟩)
    rw [Nat.mod_eq_of_lt ha, Nat.mod_eq_of_lt hb]
    -- Both sides are multiplied by what makes the fractions whole.
    refine Nat.lt_of_mul_lt_mul_right (a := 10 ^ (9 - w) * 10 ^ (9 - w')) ?_
    have nine {k : Nat} (hk : k ≤ 9) : 10 ^ k * 10 ^ (9 - k) = 10 ^ 9 := by
      rw [← Nat.pow_add, Nat.add_sub_cancel' hk]
    calc a * 10 ^ w' * (10 ^ (9 - w) * 10 ^ (9 - w'))
        = a * 10 ^ (9 - w) * (10 ^ w' * 10 ^ (9 - w')) := by ring
      _ = m * 10 ^ 9 := by rw [← ham, nine hw']
      _ < n * 10 ^ 9 := Nat.mul_lt_mul_of_pos_right h (by decide)
      _ = b * 10 ^ (9 - w') * (10 ^ w * 10 ^ (9 - w)) := by rw [← hbn, nine hw]
      _ = b * 10 ^ w * (10 ^ (9 - w) * 10 ^ (9 - w')) := by ring

/-- Two digits and what comes after them. -/
theorem digits_two_lt {m n : Nat} {rest rest' : List Char} (hm : m < 100) (hn : n < 100)
    (h : m < n ∨ m = n ∧ rest < rest') : digits 2 m ++ rest < digits 2 n ++ rest' := by
  rcases h with h | ⟨rfl, h⟩
  · refine digits_lt ?_
    show m % 100 < n % 100
    rwa [Nat.mod_eq_of_lt hm, Nat.mod_eq_of_lt hn]
  · exact List.append_left_lt h

/-- Times of a day are in the order of their texts. -/
theorem timeText_lt {s s' m n : Nat} (hs : s < 86400) (hs' : s' < 86400) (hn : n < 1000000000)
    (h : s < s' ∨ s = s' ∧ m < n) : timeText s m < timeText s' n := by
  refine digits_two_lt (by omega) (by omega) ?_
  rw [List.cons_lt_cons_self]
  rcases Nat.lt_or_ge (s / 3600) (s' / 3600) with hh | hh
  · exact .inl hh
  · refine .inr ⟨by omega, digits_two_lt (by omega) (by omega) ?_⟩
    rw [List.cons_lt_cons_self]
    rcases Nat.lt_or_ge (s / 60 % 60) (s' / 60 % 60) with hm | hm
    · exact .inl hm
    · refine .inr ⟨by omega, digits_two_lt (by omega) (by omega) ?_⟩
      rcases h with h | ⟨rfl, h⟩
      · exact .inl (by omega)
      · exact .inr ⟨rfl, renderFraction_lt hn h⟩

/-- Days of a year are in the order of their texts. -/
theorem dayText_lt {d d' : Date} {rest rest' : List Char} (hm : d.month ≤ 12) (hm' : d'.month ≤ 12)
    (hd : d.day ≤ 31) (hd' : d'.day ≤ 31)
    (h : d.month < d'.month ∨
      d.month = d'.month ∧ (d.day < d'.day ∨ d.day = d'.day ∧ rest < rest')) :
    dayText d rest < dayText d' rest' := by
  refine List.cons_lt_cons_self.mpr (digits_two_lt (by omega) (by omega) ?_)
  rw [List.cons_lt_cons_self]
  refine h.imp_right fun h => ⟨h.1, digits_two_lt (by omega) (by omega) ?_⟩
  rw [List.cons_lt_cons_self]
  exact h.2

/-- The years in which a text is written without a sign. -/
def FourDigits (t : Instant) : Prop :=
  0 ≤ t.date.year ∧ t.date.year ≤ 9999

instance (t : Instant) : Decidable t.FourDigits :=
  inferInstanceAs (Decidable (_ ∧ _))

/-- In years of four digits a later time has a later text. -/
theorem toStored_lt {t u : Instant} (ht : t.nanoseconds < 1000000000)
    (hu : u.nanoseconds < 1000000000) (ht4 : t.FourDigits) (hu4 : u.FourDigits)
    (h : u.isAfter t = true) : t.toStored < u.toStored := by
  simp only [isAfter, Bool.or_eq_true, Bool.and_eq_true, decide_eq_true_eq, beq_iff_eq] at h
  obtain ⟨-, hm, -, hd⟩ := Date.month_day_ofDays (t.seconds.fdiv 86400)
  obtain ⟨-, hm', -, hd'⟩ := Date.month_day_ofDays (u.seconds.fdiv 86400)
  have hsplit := seconds_split t
  have hsplit' := seconds_split u
  have hlt := secondOfDay_lt (t := t)
  have hlt' := secondOfDay_lt (t := u)
  show t.toStored.toList < u.toStored.toList
  rw [toList_toStored ht, toList_toStored hu, toList_renderYear ht4.1 ht4.2,
    toList_renderYear hu4.1 hu4.2]
  rcases Int.lt_or_le (t.seconds.fdiv 86400) (u.seconds.fdiv 86400) with hdays | hdays
  · rcases Date.before_ofDays hdays with hy | ⟨hy, h⟩
    · obtain ⟨ht0, ht9⟩ := ht4
      obtain ⟨hu0, hu9⟩ := hu4
      rw [← date, ← date] at hy
      refine digits_lt ?_
      rw [Nat.mod_eq_of_lt (by omega), Nat.mod_eq_of_lt (by omega)]
      omega
    · rw [← date, ← date] at hy h
      rw [hy]
      exact List.append_left_lt (dayText_lt hm hm' hd hd' (h.imp_right fun h => ⟨h.1, .inl h.2⟩))
  · have hdays : t.seconds.fdiv 86400 = u.seconds.fdiv 86400 := by omega
    have hdate : t.date = u.date := congrArg Date.ofDays hdays
    rw [hdate]
    refine List.append_left_lt (dayText_lt hm' hm' hd' hd' (.inr ⟨rfl, .inr ⟨rfl, ?_⟩⟩))
    exact timeText_lt hlt hlt' hu (by omega)

end Scrip.Instant
