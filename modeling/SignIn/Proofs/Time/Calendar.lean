import Mathlib.Tactic.IntervalCases
import SignIn.Time.Instant

/-!
# Days and dates

`Date.ofDays` and `Date.days` invert each other, in the direction that matters for instants: the
date at a number of days is a day of the calendar (`Date.isValid_ofDays`), and its number of days is
the given one (`Date.days_ofDays`), however far away. The days that instants lie in are those of the
years from -262143 to 262142 (`Date.year_ofDays_bounds`, `Date.bounds_of_year_ofDays`).

Both go through the days of an era of four hundred years that begin in March. The one step that is
not plain arithmetic is the year of the era that a day belongs to. `Date.ofDays` takes it from
`Date.evenDays`, the day without the leap days before it, which grows with the day; so it is enough
to look at the first days of the years (`Date.evenDays_yearStart`).
-/

namespace SignIn.Date

/-- A month has at most thirty-one days, and none after the twelfth month. -/
private theorem daysInMonth_bounds (y : Int) (m : Nat) :
    daysInMonth y m ≤ 31 ∧ (12 < m → daysInMonth y m = 0) := by
  unfold daysInMonth
  split
  · split <;> exact ⟨by decide, by omega⟩
  all_goals exact ⟨by decide, by omega⟩

/-- The month and the day of a date that is a day of the calendar have at most two digits. -/
theorem IsValid.month_le {d : Date} (h : d.IsValid) : d.month ≤ 12 ∧ d.day ≤ 31 := by
  obtain ⟨hfirst, hlast⟩ := h
  obtain ⟨hlong, hnone⟩ := daysInMonth_bounds d.year d.month
  refine ⟨Nat.le_of_not_lt fun hmonth => ?_, hlast.trans hlong⟩
  rw [hnone hmonth] at hlast
  omega

/-! ### The years of an era -/

/-- The first day of a year of an era. -/
def yearStart (y : Int) : Int := y * 365 + y / 4 - y / 100

/-- A day of an era, without the leap days that have passed. -/
def evenDays (day : Int) : Int := day - day / 1460 + day / 36524 - day / 146096

/-- Without leap days, the days of an era keep their order. -/
private theorem evenDays_mono {d e : Int} (h : d ≤ e) : evenDays d ≤ evenDays e := by
  unfold evenDays
  omega

/-- Without leap days, the years of an era begin every 365 days. -/
theorem evenDays_yearStart : ∀ y < 400, 0 < y →
    evenDays (yearStart (y : Nat) - 1) < y * 365 ∧ y * 365 ≤ evenDays (yearStart (y : Nat)) := by
  decide +kernel

/-- The year of an era that a day belongs to. -/
def yearOf (day : Int) : Int := evenDays day / 365

private theorem yearOf_bounds {day : Int} (h : 0 ≤ day) (h' : day < 146097) :
    0 ≤ yearOf day ∧ yearOf day < 400 := by
  unfold yearOf evenDays
  omega

/-- A day does not come before its year begins. -/
private theorem yearStart_yearOf_le {day : Int} (h : 0 ≤ day) (h' : day < 146097) :
    yearStart (yearOf day) ≤ day := by
  obtain ⟨hnonneg, hlt⟩ := yearOf_bounds h h'
  refine Int.not_lt.1 fun hbefore => ?_
  have hpos : 0 < yearOf day := by
    rcases Int.lt_or_eq_of_le hnonneg with hpos | hzero
    · exact hpos
    · rw [← hzero] at hbefore
      exact absurd h (Int.not_le.2 hbefore)
  obtain ⟨n, hn⟩ := Int.eq_ofNat_of_zero_le hnonneg
  rw [hn] at hbefore hpos hlt
  have hstart := (evenDays_yearStart n (by omega) (by omega)).1
  have hmono : evenDays day ≤ evenDays (yearStart n - 1) := evenDays_mono (by omega)
  have hyear : yearOf day = evenDays day / 365 := rfl
  omega

private theorem lt_yearStart_yearOf_add_one {day : Int} (h : 0 ≤ day) (h' : day < 146097)
    (hlast : yearOf day < 399) : day < yearStart (yearOf day + 1) := by
  obtain ⟨hnonneg, hlt⟩ := yearOf_bounds h h'
  refine Int.not_le.1 fun hafter => ?_
  obtain ⟨n, hn⟩ := Int.eq_ofNat_of_zero_le hnonneg
  have hstart := (evenDays_yearStart (n + 1) (by omega) (by omega)).2
  have hmono : evenDays (yearStart (n + 1 : Nat)) ≤ evenDays day := by
    refine evenDays_mono ?_
    rw [Int.natCast_add, ← hn]
    exact hafter
  have hyear : yearOf day = evenDays day / 365 := rfl
  omega

/-! ### Days of a year that begins in March -/

/-- The date a number of days after 1 March of a year. -/
def ofMarch (y : Int) (dayOfYear : Int) : Date :=
  let month := (5 * dayOfYear + 2) / 153
  let day := dayOfYear - (153 * month + 2) / 5 + 1
  if month < 10 then ⟨y, (month + 3).toNat, day.toNat⟩ else ⟨y + 1, (month - 9).toNat, day.toNat⟩

/-- The number of days of a date, by the year that begins in March. -/
private theorem days_ofMarch {y dayOfYear : Int} (h : 0 ≤ dayOfYear) (h' : dayOfYear ≤ 365) :
    (ofMarch y dayOfYear).days
      = y / 400 * 146097 + yearStart (y % 400) + dayOfYear - 719468 := by
  unfold ofMarch days yearStart
  dsimp only
  split
  · have hmonth : ¬ ((5 * dayOfYear + 2) / 153 + 3).toNat ≤ 2 := by omega
    simp only [if_neg hmonth]
    omega
  · have hmonth : ((5 * dayOfYear + 2) / 153 - 9).toNat ≤ 2 := by omega
    simp only [if_pos hmonth, Int.add_sub_cancel]
    omega

/-- The months from March to December have as many days as lie between their first days. -/
private theorem daysInMonth_add_three (y : Int) {m : Nat} (h : m < 10) :
    daysInMonth y (m + 3) = (153 * (m + 1) + 2) / 5 - (153 * m + 2) / 5 := by
  interval_cases m <;> rfl

/-- The days up to the next 1 March are days of the calendar. The last one of them is a leap day if
the next year has one. -/
private theorem isValid_ofMarch {y dayOfYear : Int} (h : 0 ≤ dayOfYear)
    (h' : dayOfYear < if isLeapYear (y + 1) then 366 else 365) :
    (ofMarch y dayOfYear).IsValid := by
  have hle : dayOfYear ≤ 365 := by split at h' <;> omega
  unfold ofMarch IsValid
  dsimp only
  split
  · rename_i hmonth
    obtain ⟨m, hm⟩ := Int.eq_ofNat_of_zero_le (a := (5 * dayOfYear + 2) / 153) (by omega)
    have hthree : ((5 * dayOfYear + 2) / 153 + 3).toNat = m + 3 := by omega
    have hfirst : (153 * (m : Int) + 2) / 5 = ((153 * m + 2) / 5 : Nat) := by omega
    have hend : 5 * dayOfYear + 2 < 153 * (m + 1) := by omega
    dsimp only
    rw [hthree, daysInMonth_add_three y (by omega), hm, hfirst]
    omega
  · rename_i hmonth
    dsimp only
    -- the last two months of such a year are January and February of the next one
    rcases (by omega : (5 * dayOfYear + 2) / 153 = 10 ∨ (5 * dayOfYear + 2) / 153 = 11)
      with hm | hm
    · have hjanuary : daysInMonth (y + 1) (10 - 9 : Int).toNat = 31 := rfl
      rw [hm, hjanuary]
      omega
    · have hfebruary : daysInMonth (y + 1) (11 - 9 : Int).toNat
          = if isLeapYear (y + 1) then 29 else 28 := rfl
      rw [hm, hfebruary]
      split at h' <;> rename_i hleap
      · rw [if_pos hleap]
        omega
      · rw [if_neg hleap]
        omega

/-! ### The date at a number of days -/

private theorem yearStart_add_one (era : Int) {y : Int} (h : 0 ≤ y) (h' : y < 399) :
    yearStart (y + 1) - yearStart y = if isLeapYear (era * 400 + y + 1) then 366 else 365 := by
  unfold yearStart isLeapYear
  simp only [Bool.and_eq_true, Bool.or_eq_true, beq_iff_eq, bne_iff_ne]
  split <;> omega

/-- Every number of days lies in some year that begins in March. -/
private theorem ofDays_eq_ofMarch (n : Int) : ∃ y dayOfYear, ofDays n = ofMarch y dayOfYear ∧
    0 ≤ dayOfYear ∧ dayOfYear < (if isLeapYear (y + 1) then 366 else 365) ∧
    n = y / 400 * 146097 + yearStart (y % 400) + dayOfYear - 719468 := by
  have hday : 0 ≤ (n + 719468) % 146097 ∧ (n + 719468) % 146097 < 146097 := by omega
  have hn : n = (n + 719468) / 146097 * 146097 + (n + 719468) % 146097 - 719468 := by omega
  generalize hera : (n + 719468) / 146097 = era at hn
  generalize hdayOfEra : (n + 719468) % 146097 = day at hday hn
  obtain ⟨hnonneg, hlt⟩ := yearOf_bounds hday.1 hday.2
  have hquot : (yearOf day + era * 400) / 400 = era := by omega
  have hrem : (yearOf day + era * 400) % 400 = yearOf day := by omega
  refine ⟨yearOf day + era * 400, day - yearStart (yearOf day), ?_, ?_, ?_, ?_⟩
  · have hstart : yearStart (yearOf day)
        = 365 * yearOf day + yearOf day / 4 - yearOf day / 100 := by
      rw [yearStart, Int.mul_comm]
    rw [hstart]
    unfold ofDays
    dsimp only
    rw [hera, hdayOfEra, ← evenDays, ← yearOf, ← hstart]
    rfl
  · exact Int.sub_nonneg_of_le (yearStart_yearOf_le hday.1 hday.2)
  · rcases Int.lt_or_eq_of_le (Int.le_sub_one_of_lt hlt) with hlast | hlast
    · have hnext := lt_yearStart_yearOf_add_one hday.1 hday.2 hlast
      have hlength := yearStart_add_one era hnonneg hlast
      rw [Int.add_comm (era * 400)] at hlength
      omega
    · -- the last year of an era ends with a leap day
      have hleap : isLeapYear (yearOf day + era * 400 + 1) = true := by
        simp only [isLeapYear, Bool.and_eq_true, Bool.or_eq_true, beq_iff_eq, bne_iff_ne]
        omega
      have hstart : yearStart (400 - 1) = 145731 := by decide
      rw [if_pos hleap, hlast, hstart]
      omega
  · rw [hquot, hrem]
    omega

/-- The number of days of the date at a number of days. -/
theorem days_ofDays (n : Int) : (ofDays n).days = n := by
  obtain ⟨y, dayOfYear, hdate, hnonneg, hlt, hn⟩ := ofDays_eq_ofMarch n
  rw [hdate, days_ofMarch hnonneg (by split at hlt <;> omega), ← hn]

/-- The date at a number of days is a day of the calendar. -/
theorem isValid_ofDays (n : Int) : (ofDays n).IsValid := by
  obtain ⟨y, dayOfYear, hdate, hnonneg, hlt, -⟩ := ofDays_eq_ofMarch n
  rw [hdate]
  exact isValid_ofMarch hnonneg hlt

/-- The years of the days that instants lie in. -/
theorem year_ofDays_bounds {n : Int} (h : -96465292 ≤ n) (h' : n ≤ 95026236) :
    -262143 ≤ (ofDays n).year ∧ (ofDays n).year ≤ 262142 := by
  obtain ⟨y, dayOfYear, hdate, hnonneg, hlt, hn⟩ := ofDays_eq_ofMarch n
  have hle : dayOfYear ≤ 365 := by split at hlt <;> omega
  -- the eras of the first and of the last day
  have hfirst : y / 400 < -656 ∨ y / 400 = -656 ∨ -656 < y / 400 := by omega
  have hlast : y / 400 < 655 ∨ y / 400 = 655 ∨ 655 < y / 400 := by omega
  rw [hdate]
  unfold ofMarch
  unfold yearStart at hn
  dsimp only
  split
  · rename_i hmonth
    have hday : dayOfYear ≤ 305 := by omega
    dsimp only
    omega
  · rename_i hmonth
    have hday : 306 ≤ dayOfYear := by omega
    dsimp only
    omega

/-- Only days that instants lie in are of these years. -/
theorem bounds_of_year_ofDays {n : Int} (h : -262143 ≤ (ofDays n).year)
    (h' : (ofDays n).year ≤ 262142) : -96465292 ≤ n ∧ n ≤ 95026236 := by
  obtain ⟨y, dayOfYear, hdate, hnonneg, hlt, hn⟩ := ofDays_eq_ofMarch n
  have hle : dayOfYear ≤ 365 := by split at hlt <;> omega
  rw [hdate] at h h'
  unfold ofMarch at h h'
  unfold yearStart at hn
  dsimp only at h h'
  -- a date after February is of the year that began in March, another one is of the next year
  split at h
  · rename_i hmonth
    rw [if_pos hmonth] at h'
    dsimp only at h h'
    omega
  · rename_i hmonth
    rw [if_neg hmonth] at h'
    dsimp only at h h'
    omega

end SignIn.Date
