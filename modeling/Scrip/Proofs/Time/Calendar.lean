import Mathlib.Order.Monotone.Basic
import Mathlib.Tactic.IntervalCases
import Scrip.Time.Instant

/-!
# The calendar

Every day has a date, which names a day of its month, comes back from the date, and comes
before the dates of the days after it.

* `Date.toDays_ofDays`: the days to the date of a day.
* `Date.ofParts?_ofDays`: the parts of the date of a day are those of a date.
* `Date.before_ofDays`: later days have later dates.
-/

namespace Scrip.Date

/-- The days of a cycle before one of its years. -/
def daysBefore (y : Nat) : Nat :=
  365 * y + y / 4 - y / 100

/-- The year of a cycle in which a day of it lies. -/
def yearOf (n : Nat) : Nat :=
  (n - n / 1460 + n / 36524 - n / 146096) / 365

theorem yearOf_mono {m n : Nat} (h : m ≤ n) : yearOf m ≤ yearOf n := by
  refine monotone_nat_of_le_succ (fun k => ?_) h
  unfold yearOf
  refine Nat.div_le_div_right ?_
  omega

theorem yearOf_daysBefore :
    ∀ y < 400, yearOf (daysBefore y) = y ∧ yearOf (daysBefore y - 1) = y - 1 := by
  decide +kernel

section Cycle

variable {n : Nat}

theorem yearOf_lt (h : n < 146097) : yearOf n < 400 :=
  Nat.lt_succ_of_le ((yearOf_mono (Nat.le_of_lt_succ h)).trans (by decide))

/-- A day does not lie before its year. -/
theorem daysBefore_yearOf_le (h : n < 146097) : daysBefore (yearOf n) ≤ n := by
  by_contra hlt
  have hle := yearOf_mono (show n ≤ daysBefore (yearOf n) - 1 by omega)
  rw [(yearOf_daysBefore _ (yearOf_lt h)).2] at hle
  have hne : yearOf n ≠ 0 := fun h0 => by
    rw [h0] at hlt
    exact hlt (Nat.zero_le _)
  omega

/-- A day lies before the next year of its cycle. -/
theorem lt_daysBefore_succ (h : yearOf n + 1 < 400) : n < daysBefore (yearOf n + 1) := by
  by_contra hle
  have hmono := yearOf_mono (Nat.not_lt.mp hle)
  rw [(yearOf_daysBefore _ h).1] at hmono
  omega

/-- The place of a day in its year. -/
def dayOf (n : Nat) : Nat :=
  n - daysBefore (yearOf n)

theorem dayOf_le (h : n < 146097) : dayOf n ≤ 365 := by
  have hle := daysBefore_yearOf_le h
  have hy := yearOf_lt h
  unfold dayOf
  by_cases hlast : yearOf n + 1 < 400
  · have hlt := lt_daysBefore_succ hlast
    unfold daysBefore at *
    omega
  · have h399 : yearOf n = 399 := by omega
    have hbefore : daysBefore 399 = 145731 := by decide
    rw [h399]
    omega

/-- Only the last day of a leap year has the place 365, counted from the first of March. -/
theorem isLeap_of_dayOf (h : n < 146097) (hd : dayOf n = 365) :
    isLeap (yearOf n + 1 : Nat) = true := by
  have hle := daysBefore_yearOf_le h
  unfold dayOf at hd
  by_cases hlast : yearOf n + 1 < 400
  · have hlt := lt_daysBefore_succ hlast
    have hfour : (yearOf n + 1) % 4 = 0 ∧ (yearOf n + 1) % 100 ≠ 0 := by
      -- What the two kinds of exceptions say of the next year, so that only sums are left.
      have h4 : (yearOf n + 1) % 4 = 0 ∨ (yearOf n + 1) / 4 = yearOf n / 4 := by omega
      have h100 : (yearOf n + 1) % 100 ≠ 0 ∨ (yearOf n + 1) / 4 = yearOf n / 4 + 1 ∧
          (yearOf n + 1) / 100 = yearOf n / 100 + 1 := by omega
      unfold daysBefore at hlt hle hd
      omega
    simp only [isLeap, Bool.and_eq_true, Bool.or_eq_true, beq_iff_eq, bne_iff_ne]
    omega
  · have h399 : yearOf n = 399 := by
      have hy := yearOf_lt h
      omega
    rw [h399]
    decide

end Cycle

/-- The cycle of a day. -/
def cycleOf (days : Int) : Int :=
  (days + 719468).fdiv 146097

/-- The place of a day in its cycle. -/
def dayOfCycle (days : Int) : Nat :=
  ((days + 719468).fmod 146097).toNat

theorem dayOfCycle_lt (days : Int) : dayOfCycle days < 146097 := by
  have hlt := Int.fmod_lt_of_pos (days + 719468) (show (0 : Int) < 146097 by decide)
  unfold dayOfCycle
  omega

theorem cycleOf_add_dayOfCycle (days : Int) :
    cycleOf days * 146097 + dayOfCycle days = days + 719468 := by
  have hsum := Int.fmod_add_mul_fdiv (days + 719468) 146097
  have hpos := Int.fmod_nonneg_of_pos (days + 719468) (show (0 : Int) < 146097 by decide)
  unfold cycleOf dayOfCycle
  omega

/-- The date of a day of a year, where years are counted within a cycle and begin in March. -/
def ofCycle (cycle : Int) (y d : Nat) : Date :=
  let m := (5 * d + 2) / 153
  let day := d - (153 * m + 2) / 5 + 1
  let month := if m < 10 then m + 3 else m - 9
  ⟨y + cycle * 400 + (if month ≤ 2 then 1 else 0), month, day⟩

theorem ofDays_eq (days : Int) :
    ofDays days = ofCycle (cycleOf days) (yearOf (dayOfCycle days)) (dayOf (dayOfCycle days)) :=
  rfl

section OfCycle

variable {cycle : Int} {y d : Nat}

theorem toDays_ofCycle (hy : y < 400) (hd : d ≤ 365) :
    (ofCycle cycle y d).toDays = cycle * 146097 + daysBefore y + d - 719468 := by
  have hyear : (ofCycle cycle y d).month ≤ 2 ∧ (ofCycle cycle y d).year = y + cycle * 400 + 1 ∨
      ¬ (ofCycle cycle y d).month ≤ 2 ∧ (ofCycle cycle y d).year = y + cycle * 400 := by
    simp only [ofCycle]
    split <;> split <;> omega
  have hshift : (if (ofCycle cycle y d).month ≤ 2 then (ofCycle cycle y d).year - 1
      else (ofCycle cycle y d).year) = cycle * 400 + y := by
    split <;> omega
  have hdiv : (cycle * 400 + y).fdiv 400 = cycle := by
    rw [Int.fdiv_eq_ediv_of_nonneg _ (by decide)]
    omega
  have hmod : ((cycle * 400 + y).fmod 400).toNat = y := by
    rw [Int.fmod_eq_emod_of_nonneg _ (by decide)]
    omega
  have hmonth : (153 * (if 2 < (ofCycle cycle y d).month then (ofCycle cycle y d).month - 3
      else (ofCycle cycle y d).month + 9) + 2) / 5 + (ofCycle cycle y d).day - 1 = d := by
    simp only [ofCycle]
    split <;> split <;> omega
  simp only [toDays, hshift, hdiv, hmod, hmonth, daysBefore]
  omega

/-- A day of a year has a month and a day of the month, if the last one is that of a leap year. -/
theorem ofParts?_ofCycle (hd : d ≤ 365) (hleap : d = 365 → isLeap (y + 1 : Nat) = true) :
    ofParts? (ofCycle cycle y d).year (ofCycle cycle y d).month (ofCycle cycle y d).day =
      some (ofCycle cycle y d) := by
  have hleap : d = 365 → isLeap (y + cycle * 400 + 1) = true := fun he => by
    have := hleap he
    simp only [isLeap, Bool.and_eq_true, Bool.or_eq_true, beq_iff_eq, bne_iff_ne] at this ⊢
    omega
  refine if_pos ?_
  obtain ⟨m, hm⟩ : ∃ m, m = (5 * d + 2) / 153 := ⟨_, rfl⟩
  have hm11 : m ≤ 11 := by omega
  simp only [ofCycle, ← hm]
  interval_cases m <;> simp only [daysIn, Nat.reduceLT, Nat.reduceAdd, Nat.reduceSub,
    Nat.reduceMul, Nat.reduceDiv, Nat.reduceLeDiff, if_true, if_false, true_and] <;> try omega
  -- February
  split
  · omega
  · have hne : d ≠ 365 := fun he => by simp_all
    omega

end OfCycle

/-- The order of dates. -/
def Before (a b : Date) : Prop :=
  a.year < b.year ∨ a.year = b.year ∧ (a.month < b.month ∨ a.month = b.month ∧ a.day < b.day)

theorem before_ofCycle {cycle cycle' : Int} {y y' d d' : Nat} (hd : d ≤ 365) (hd' : d' ≤ 365)
    (h : y + cycle * 400 < y' + cycle' * 400 ∨ y + cycle * 400 = y' + cycle' * 400 ∧ d < d') :
    (ofCycle cycle y d).Before (ofCycle cycle' y' d') := by
  simp only [Before, ofCycle]
  split <;> split <;> split <;> split <;> omega

theorem toDays_ofDays (days : Int) : (ofDays days).toDays = days := by
  have hlt := dayOfCycle_lt days
  have hsum := cycleOf_add_dayOfCycle days
  have hle := daysBefore_yearOf_le hlt
  rw [ofDays_eq, toDays_ofCycle (yearOf_lt hlt) (dayOf_le hlt), dayOf]
  omega

theorem ofParts?_ofDays (days : Int) :
    ofParts? (ofDays days).year (ofDays days).month (ofDays days).day = some (ofDays days) :=
  ofParts?_ofCycle (dayOf_le (dayOfCycle_lt days)) (isLeap_of_dayOf (dayOfCycle_lt days))

theorem before_ofDays {days days' : Int} (h : days < days') :
    (ofDays days).Before (ofDays days') := by
  have hlt := dayOfCycle_lt days
  have hlt' := dayOfCycle_lt days'
  have hsum := cycleOf_add_dayOfCycle days
  have hsum' := cycleOf_add_dayOfCycle days'
  have hy := yearOf_lt hlt
  have hle := daysBefore_yearOf_le hlt
  have hle' := daysBefore_yearOf_le hlt'
  rw [ofDays_eq, ofDays_eq]
  refine before_ofCycle (dayOf_le hlt) (dayOf_le hlt') ?_
  rcases Int.lt_or_le (cycleOf days) (cycleOf days') with hc | hc
  · exact .inl (by omega)
  · have hce : cycleOf days = cycleOf days' := by omega
    have hmono := yearOf_mono (show dayOfCycle days ≤ dayOfCycle days' by omega)
    unfold dayOf
    rcases Nat.lt_or_ge (yearOf (dayOfCycle days)) (yearOf (dayOfCycle days')) with hlt | hge
    · exact .inl (by omega)
    · have hye := Nat.le_antisymm hmono hge
      rw [hye] at hle ⊢
      exact .inr (by omega)

/-- A date of the calendar has a month and a day of at most two digits. -/
theorem month_day_ofDays (days : Int) :
    1 ≤ (ofDays days).month ∧ (ofDays days).month ≤ 12 ∧
      1 ≤ (ofDays days).day ∧ (ofDays days).day ≤ 31 := by
  have hd := dayOf_le (dayOfCycle_lt days)
  rw [ofDays_eq]
  simp only [ofCycle]
  split <;> omega

end Scrip.Date
