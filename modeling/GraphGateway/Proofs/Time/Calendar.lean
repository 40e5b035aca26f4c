import GraphGateway.Time.Rfc3339
import Mathlib.Tactic.ByContra
import Mathlib.Tactic.IntervalCases

/-!
# Days and dates

The date of a day is a date of the calendar (`isValid_ofDayNumber`), and it
is the day's own: its number is the number of the day again
(`dayNumber_ofDayNumber`). So every day has a date of its own, before 1970
and behind it.

The year of a day is found by a division that is corrected for leap days.
The days that count for the division (`countedDays`) never become fewer with
later days, so it is enough to look at the first and the last day of each of
the 400 years of an era (`yearStart_le_and_lt`).
-/

namespace GraphGateway.Time.Date

/-! ## Years of an era -/

/-- The days of an era before a day, without the leap days among them. -/
def countedDays (day : Int) : Int := day - day / 1460 + day / 36524 - day / 146096

/-- The first day of a year of an era. -/
def yearStart (year : Int) : Int := 365 * year + year / 4 - year / 100

/-- One more day counts, or is a leap day. -/
theorem countedDays_succ (day : Int) : countedDays day ≤ countedDays (day + 1) := by
  have hfourth : ∀ n : Int, n / 146096 = n / 36524 / 4 := fun n => by omega
  unfold countedDays
  rw [hfourth, hfourth]
  omega

/-- Later days have no fewer days before them that count. -/
theorem countedDays_mono {first second : Int} (h : first ≤ second) :
    countedDays first ≤ countedDays second := by
  obtain ⟨n, rfl⟩ := Int.le.dest h
  induction n with
  | zero => simp
  | succ n ih =>
    have hstep := countedDays_succ (first + n)
    rw [Int.add_assoc] at hstep
    exact Int.le_trans (ih (by omega)) hstep

/-- The years of an era start where the days that count fill a year. -/
theorem countedDays_yearStart : ∀ year : Fin 400,
    (year.val : Int) * 365 ≤ countedDays (yearStart year.val)
      ∧ (0 < year.val → countedDays (yearStart year.val - 1) < (year.val : Int) * 365) := by
  decide +kernel

/-- **The year of a day of an era** starts on the day or before it, and the
next year behind it. -/
theorem yearStart_le_and_lt {day : Int} (hlow : 0 ≤ day) (hhigh : day < 146097) :
    0 ≤ countedDays day / 365 ∧ countedDays day / 365 ≤ 399
      ∧ yearStart (countedDays day / 365) ≤ day
      ∧ (countedDays day / 365 = 399 ∨ day < yearStart (countedDays day / 365 + 1)) := by
  have hfirst : (0 : Int) ≤ countedDays day := countedDays_mono hlow
  have hlast : countedDays day ≤ 145999 := countedDays_mono (show day ≤ 146096 by omega)
  generalize hyear : countedDays day / 365 = year
  have hbounds : 0 ≤ year ∧ year ≤ 399 := by omega
  have hle : year * 365 ≤ countedDays day := by omega
  have hlt : countedDays day < (year + 1) * 365 := by omega
  obtain ⟨n, rfl⟩ := Int.eq_ofNat_of_zero_le hbounds.1
  have hn : n < 400 := by omega
  refine ⟨hbounds.1, hbounds.2, ?_, ?_⟩
  · by_contra hstart
    -- a day before the start of the year has too few days before it
    have htable := (countedDays_yearStart ⟨n, hn⟩).2
    have hmono := countedDays_mono (show day ≤ yearStart n - 1 by omega)
    rcases Nat.eq_zero_or_pos n with rfl | hpos
    · exact hstart hlow
    · have := htable hpos
      dsimp only at this
      omega
  · by_cases hend : (n : Int) = 399
    · exact .inl hend
    · refine .inr ?_
      by_contra hnext
      -- a day behind the end of the year has too many days before it
      have htable := (countedDays_yearStart ⟨n + 1, by omega⟩).1
      have hmono := countedDays_mono (show yearStart (n + 1) ≤ day by omega)
      dsimp only at htable
      rw [Int.natCast_succ] at htable
      omega

/-- The day of its year that a day of an era is. -/
def dayInYear (day : Int) : Int := day - yearStart (countedDays day / 365)

/-- **A year has 365 days**, counted from 0, and one more where the next year
is a leap year. -/
theorem dayInYear_bounds {day : Int} (hlow : 0 ≤ day) (hhigh : day < 146097) :
    0 ≤ dayInYear day ∧ dayInYear day ≤ 365
      ∧ (dayInYear day = 365 → isLeap (countedDays day / 365 + 1) = true) := by
  obtain ⟨hyear, hlast, hstart, hnext⟩ := yearStart_le_and_lt hlow hhigh
  unfold dayInYear
  generalize countedDays day / 365 = year at hyear hlast hstart hnext
  unfold yearStart at *
  have hfourth : (year + 1) / 4 ≤ year / 4 + 1 := by omega
  have hcentury : year / 100 ≤ (year + 1) / 100 := by omega
  have hlength : day - (365 * year + year / 4 - year / 100) ≤ 365 := by
    rcases hnext with rfl | hnext <;> omega
  refine ⟨by omega, hlength, fun h => ?_⟩
  simp only [isLeap, Bool.and_eq_true, Bool.or_eq_true, beq_iff_eq, bne_iff_ne]
  rcases hnext with rfl | hnext
  · decide
  · -- the 366th day is there only if the next year brings a leap day
    have hleap : (year + 1) / 4 = year / 4 + 1 := by omega
    have hcommon : (year + 1) / 100 = year / 100 := by omega
    omega

/-! ## Dates of days -/

/-- The month of a day of a year, counted from March. -/
def monthFromMarch (dayOfYear : Int) : Int := (5 * dayOfYear + 2) / 153

/-- **The date of a day**, by the year of its era and the day of its year. -/
theorem ofDayNumber_eq (n : Int) :
    ofDayNumber n =
      let era := (n + 719468) / 146097
      let day := (n + 719468) % 146097
      let year := countedDays day / 365 + era * 400
      let month := monthFromMarch (dayInYear day)
      { year := if month < 10 then year else year + 1
        month := (if month < 10 then month + 3 else month - 9).toNat
        day := (dayInYear day - (153 * month + 2) / 5 + 1).toNat } := by
  have hday : 0 ≤ (n + 719468) % 146097 ∧ (n + 719468) % 146097 < 146097 := by omega
  obtain ⟨hlow, hhigh, -⟩ := dayInYear_bounds hday.1 hday.2
  have hmonth : 0 ≤ monthFromMarch (dayInYear ((n + 719468) % 146097))
      ∧ monthFromMarch (dayInYear ((n + 719468) % 146097)) ≤ 11 := by
    unfold monthFromMarch
    omega
  have hunfold : ofDayNumber n =
      let era := (n + 719468) / 146097
      let day := (n + 719468) % 146097
      let year := countedDays day / 365 + era * 400
      let fromMarch := monthFromMarch (dayInYear day)
      let month := if fromMarch < 10 then fromMarch + 3 else fromMarch - 9
      { year := if month ≤ 2 then year + 1 else year
        month := month.toNat
        day := (dayInYear day - (153 * fromMarch + 2) / 5 + 1).toNat } := rfl
  rw [hunfold]
  dsimp only
  generalize monthFromMarch (dayInYear ((n + 719468) % 146097)) = month at hmonth
  by_cases hspring : month < 10
  · rw [if_pos hspring, if_pos hspring, if_neg (by omega)]
  · rw [if_neg hspring, if_neg hspring, if_pos (by omega)]

/-- **Every day is a day of a year of an era**, each counted from March, and has
its date from them. -/
theorem exists_ofDayNumber_eq (n : Int) :
    ∃ era year dayOfYear : Int, era * 146097 + yearStart year + dayOfYear = n + 719468
      ∧ 0 ≤ year ∧ year ≤ 399 ∧ 0 ≤ dayOfYear ∧ dayOfYear ≤ 365
      ∧ (dayOfYear = 365 → isLeap (year + 1) = true)
      ∧ ofDayNumber n =
        let month := monthFromMarch dayOfYear
        { year := if month < 10 then year + era * 400 else year + era * 400 + 1
          month := (if month < 10 then month + 3 else month - 9).toNat
          day := (dayOfYear - (153 * month + 2) / 5 + 1).toNat } := by
  have hday : 0 ≤ (n + 719468) % 146097 ∧ (n + 719468) % 146097 < 146097 := by omega
  obtain ⟨hyear, hlast, -⟩ := yearStart_le_and_lt hday.1 hday.2
  obtain ⟨hlow, hhigh, hleap⟩ := dayInYear_bounds hday.1 hday.2
  refine ⟨(n + 719468) / 146097, countedDays ((n + 719468) % 146097) / 365,
    dayInYear ((n + 719468) % 146097), ?_, hyear, hlast, hlow, hhigh, hleap, ofDayNumber_eq n⟩
  unfold dayInYear
  omega

/-- **The date of a day has the number of the day.** -/
theorem dayNumber_ofDayNumber (n : Int) : (ofDayNumber n).dayNumber = n := by
  obtain ⟨era, year, dayOfYear, hsum, hyear, hlast, hlow, hhigh, -, hdate⟩ :=
    exists_ofDayNumber_eq n
  rw [hdate]
  dsimp only
  have hmonth : 0 ≤ monthFromMarch dayOfYear ∧ monthFromMarch dayOfYear ≤ 11 := by
    unfold monthFromMarch
    omega
  have hfirst : (153 * monthFromMarch dayOfYear + 2) / 5 ≤ dayOfYear := by
    unfold monthFromMarch
    omega
  generalize monthFromMarch dayOfYear = month at *
  have hera : (year + era * 400) / 400 = era := by omega
  have hrest : (year + era * 400) % 400 = year := by omega
  unfold yearStart at *
  -- the months from March on belong to the year that the era counts, and the
  -- two behind them to the next one
  by_cases hspring : month < 10
  · rw [if_pos hspring, if_pos hspring]
    have hgt : ¬ (month + 3).toNat ≤ 2 := by omega
    have hnat : ((month + 3).toNat : Int) - 3 = month := by omega
    simp only [dayNumber, hgt, if_false, hnat, hera, hrest]
    omega
  · rw [if_neg hspring, if_neg hspring]
    have hle : (month - 9).toNat ≤ 2 := by omega
    have hnat : ((month - 9).toNat : Int) + 9 = month := by omega
    simp only [dayNumber, hle, if_true, hnat, Int.add_sub_cancel, hera, hrest]
    omega

/-- **The date of a day is a date of the calendar.** -/
theorem isValid_ofDayNumber (n : Int) : (ofDayNumber n).isValid = true := by
  obtain ⟨era, year, dayOfYear, -, -, -, hlow, hhigh, hleap, hdate⟩ := exists_ofDayNumber_eq n
  rw [hdate]
  dsimp only
  -- eras do not matter for leap years
  have hera : isLeap (year + era * 400 + 1) = isLeap (year + 1) := by
    rw [Bool.eq_iff_iff]
    simp only [isLeap, Bool.and_eq_true, Bool.or_eq_true, beq_iff_eq, bne_iff_ne]
    omega
  generalize hmonth : monthFromMarch dayOfYear = month
  unfold monthFromMarch at hmonth
  obtain ⟨m, rfl⟩ := Int.eq_ofNat_of_zero_le (show 0 ≤ month by omega)
  have hm : m ≤ 11 := by omega
  -- the last month is February, which has as many days as its year allows
  by_cases hfebruary : m = 11
  · subst hfebruary
    cases hlast : isLeap (year + 1) <;>
      simp [isValid, daysInMonth, hera, hlast] at hleap ⊢ <;> omega
  · -- of the other months none depends on the year
    interval_cases m <;> simp [isValid, daysInMonth] at hfebruary ⊢ <;> omega

/-- **The days of the years that are allowed** have dates in these years. -/
theorem year_ofDayNumber {n : Int}
    (hfirst : dayNumber ⟨Rfc3339.firstYear, 1, 1⟩ ≤ n)
    (hlast : n < dayNumber ⟨Rfc3339.lastYear + 1, 1, 1⟩) :
    Rfc3339.firstYear ≤ (ofDayNumber n).year ∧ (ofDayNumber n).year ≤ Rfc3339.lastYear := by
  have hfirstDay : dayNumber ⟨Rfc3339.firstYear, 1, 1⟩ = -96465292 := by decide
  have hlastDay : dayNumber ⟨Rfc3339.lastYear + 1, 1, 1⟩ = 95026237 := by decide
  rw [hfirstDay] at hfirst
  rw [hlastDay] at hlast
  obtain ⟨era, year, dayOfYear, hsum, hyear, hend, hlow, hhigh, -, hdate⟩ :=
    exists_ofDayNumber_eq n
  rw [hdate]
  dsimp only
  unfold yearStart monthFromMarch Rfc3339.firstYear Rfc3339.lastYear at *
  -- the range starts and ends inside years that are counted from March
  by_cases hspring : (5 * dayOfYear + 2) / 153 < 10
  · rw [if_pos hspring]
    rcases Int.lt_trichotomy (year + era * 400) (-262144) with h | h | h
    · omega
    · obtain ⟨rfl, rfl⟩ : era = -656 ∧ year = 256 := by omega
      omega
    · omega
  · rw [if_neg hspring]
    rcases Int.lt_trichotomy (year + era * 400) 262142 with h | h | h
    · omega
    · obtain ⟨rfl, rfl⟩ : era = 655 ∧ year = 142 := by omega
      omega
    · omega

end GraphGateway.Time.Date
