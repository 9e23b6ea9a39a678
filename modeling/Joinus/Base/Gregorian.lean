import Mathlib.Tactic.IntervalCases

/-!
# The Gregorian calendar, counted in days

A day is a number – days since the first of January 1970 – and has a year, a month
and a day of the month. The two translations below are the usual ones. The
calendar repeats after four hundred years (`146097` days); inside such an *era* the
year is made to begin in March, so that the leap day is its last one, a century has
`36524` days and four years have `1461`, except that the last century and the last
year of each are a day longer; and the lengths of the months from March on follow
one linear rule.

The calendar is *proleptic*: it goes on before the fifteenth of October 1582 by the same
rules, where a formatter may change to the Julian calendar. Such a change is left out.

That the two translations fit together is stated in the direction a formatter
needs: the date of a day numbers that day again
(`Base.daysFromCivil_civilFromDays`), and it is a date that exists
(`Base.valid_civilFromDays`).
-/

namespace Base

/-- A year, a month and a day of the month. -/
@[ext]
structure CivilDate where
  year : ℤ
  month : ℕ
  day : ℕ
  deriving DecidableEq

/-- The leap years of the Gregorian calendar. -/
def isLeapYear (y : ℤ) : Bool :=
  y % 4 = 0 && (y % 100 ≠ 0 || y % 400 = 0)

/-- The length of a month. -/
def daysInMonth (y : ℤ) (m : ℕ) : ℕ :=
  if m = 2 then (if isLeapYear y then 29 else 28)
  else if m = 4 ∨ m = 6 ∨ m = 9 ∨ m = 11 then 30
  else 31

/-- A date that exists. -/
def CivilDate.Valid (c : CivilDate) : Prop :=
  1 ≤ c.month ∧ c.month ≤ 12 ∧ 1 ≤ c.day ∧ c.day ≤ daysInMonth c.year c.month

instance (c : CivilDate) : Decidable c.Valid :=
  inferInstanceAs (Decidable (_ ∧ _ ∧ _ ∧ _))

/-! ### Inside an era -/

/-- A day of an era: the year of the era, and the day of that year, both counted
from nought. -/
def yearAndDay (doe : ℤ) : ℤ × ℤ :=
  let century := min 3 (doe / 36524)
  let doc := doe - century * 36524
  let four := doc / 1461
  let dof := doc - four * 1461
  let year := min 3 (dof / 365)
  (century * 100 + four * 4 + year, dof - year * 365)

/-- The days of an era before its year `yoe`. -/
def daysBeforeYear (yoe : ℤ) : ℤ := 365 * yoe + yoe / 4 - yoe / 100

/-- The month, counted from March, in which the day `doy` of a year lies. -/
def monthOfDay (doy : ℤ) : ℤ := (5 * doy + 2) / 153

/-- The days of a year – counted from March – before its month `mp`. -/
def daysBeforeMonth (mp : ℤ) : ℤ := (153 * mp + 2) / 5

theorem yearAndDay_bounds {doe : ℤ} (h₀ : 0 ≤ doe) (h₁ : doe < 146097) :
    (0 ≤ (yearAndDay doe).1 ∧ (yearAndDay doe).1 < 400) ∧
      0 ≤ (yearAndDay doe).2 ∧ (yearAndDay doe).2 ≤ 365 := by
  simp only [yearAndDay]
  omega

/-- The years of an era, by centuries and spans of four years. -/
theorem daysBeforeYear_eq {century four year : ℤ} (hf₀ : 0 ≤ four) (hf₁ : four ≤ 24)
    (hy₀ : 0 ≤ year) (hy₁ : year ≤ 3) :
    daysBeforeYear (century * 100 + four * 4 + year) =
      century * 36524 + four * 1461 + year * 365 := by
  unfold daysBeforeYear
  omega

theorem daysBeforeYear_add {doe : ℤ} (h₀ : 0 ≤ doe) (h₁ : doe < 146097) :
    daysBeforeYear (yearAndDay doe).1 + (yearAndDay doe).2 = doe := by
  simp only [yearAndDay]
  rw [daysBeforeYear_eq (by omega) (by omega) (by omega) (by omega)]
  omega

/-- Only a leap year – one whose *next* January and February are those of a leap
year – has a 366th day. -/
theorem leap_of_last_day {doe : ℤ} (h₀ : 0 ≤ doe) (h₁ : doe < 146097)
    (h : (yearAndDay doe).2 = 365) (era : ℤ) :
    isLeapYear (era * 400 + (yearAndDay doe).1 + 1) = true := by
  have hy : ((yearAndDay doe).1 + 1) % 4 = 0 ∧
      (((yearAndDay doe).1 + 1) % 100 ≠ 0 ∨ (yearAndDay doe).1 + 1 = 400) := by
    simp only [yearAndDay] at h ⊢
    omega
  simp only [isLeapYear, Bool.and_eq_true, Bool.or_eq_true, decide_eq_true_eq]
  omega

theorem monthOfDay_bounds {doy : ℤ} (h₀ : 0 ≤ doy) (h₁ : doy ≤ 365) :
    0 ≤ monthOfDay doy ∧ monthOfDay doy < 12 := by
  unfold monthOfDay
  omega

theorem daysBeforeMonth_le (doy : ℤ) : daysBeforeMonth (monthOfDay doy) ≤ doy := by
  unfold daysBeforeMonth monthOfDay
  omega

theorem lt_daysBeforeMonth_succ (doy : ℤ) : doy < daysBeforeMonth (monthOfDay doy + 1) := by
  unfold daysBeforeMonth monthOfDay
  omega

/-! ### The two translations -/

/-- The number of a day. -/
def daysFromCivil (c : CivilDate) : ℤ :=
  let y := if c.month ≤ 2 then c.year - 1 else c.year
  let mp : ℤ := if c.month ≤ 2 then c.month + 9 else c.month - 3
  y / 400 * 146097 + (daysBeforeYear (y % 400) + (daysBeforeMonth mp + c.day - 1)) - 719468

/-- The date of the day `doy` of the year `y`, both counted from March. -/
def civilOfYearAndDay (y doy : ℤ) : CivilDate :=
  let mp := monthOfDay doy
  { year := if mp < 10 then y else y + 1
    month := (if mp < 10 then mp + 3 else mp - 9).toNat
    day := (doy - daysBeforeMonth mp + 1).toNat }

/-- The date of a day. -/
def civilFromDays (z : ℤ) : CivilDate :=
  let era := (z + 719468) / 146097
  let yd := yearAndDay ((z + 719468) % 146097)
  civilOfYearAndDay (era * 400 + yd.1) yd.2

/-! ### They fit together -/

theorem daysFromCivil_civilOfYearAndDay {era yoe doy : ℤ} (hy₀ : 0 ≤ yoe) (hy₁ : yoe < 400)
    (hd₀ : 0 ≤ doy) (hd₁ : doy ≤ 365) :
    daysFromCivil (civilOfYearAndDay (era * 400 + yoe) doy) =
      era * 146097 + (daysBeforeYear yoe + doy) - 719468 := by
  obtain ⟨hm₀, hm₁⟩ := monthOfDay_bounds hd₀ hd₁
  have hle := daysBeforeMonth_le doy
  have hera : (era * 400 + yoe) / 400 = era := by omega
  have hyoe : (era * 400 + yoe) % 400 = yoe := by omega
  have hday : ((doy - daysBeforeMonth (monthOfDay doy) + 1).toNat : ℤ) =
      doy - daysBeforeMonth (monthOfDay doy) + 1 := Int.toNat_of_nonneg (by omega)
  rcases lt_or_ge (monthOfDay doy) 10 with hlt | hge
  · have hmonth : ((monthOfDay doy + 3).toNat : ℤ) = monthOfDay doy + 3 :=
      Int.toNat_of_nonneg (by omega)
    have hbig : ¬(monthOfDay doy + 3).toNat ≤ 2 := by omega
    simp only [daysFromCivil, civilOfYearAndDay, if_pos hlt, if_neg hbig, hday, hmonth, hera,
      hyoe, add_sub_cancel_right]
    omega
  · have hmonth : ((monthOfDay doy - 9).toNat : ℤ) = monthOfDay doy - 9 :=
      Int.toNat_of_nonneg (by omega)
    have hsmall : (monthOfDay doy - 9).toNat ≤ 2 := by omega
    simp only [daysFromCivil, civilOfYearAndDay, if_neg (not_lt.mpr hge), if_pos hsmall, hday,
      hmonth, add_sub_cancel_right, hera, hyoe, sub_add_cancel]
    omega

/-- **The date of a day numbers that day.** -/
theorem daysFromCivil_civilFromDays (z : ℤ) : daysFromCivil (civilFromDays z) = z := by
  have h₀ : 0 ≤ (z + 719468) % 146097 := Int.emod_nonneg _ (by decide)
  have h₁ : (z + 719468) % 146097 < 146097 := Int.emod_lt_of_pos _ (by decide)
  obtain ⟨⟨hy₀, hy₁⟩, hd₀, hd₁⟩ := yearAndDay_bounds h₀ h₁
  rw [civilFromDays, daysFromCivil_civilOfYearAndDay hy₀ hy₁ hd₀ hd₁, daysBeforeYear_add h₀ h₁]
  omega

/-- **The date of a day exists.** -/
theorem valid_civilFromDays (z : ℤ) : (civilFromDays z).Valid := by
  have h₀ : 0 ≤ (z + 719468) % 146097 := Int.emod_nonneg _ (by decide)
  have h₁ : (z + 719468) % 146097 < 146097 := Int.emod_lt_of_pos _ (by decide)
  obtain ⟨-, hd₀, hd₁⟩ := yearAndDay_bounds h₀ h₁
  have hleap := fun h => leap_of_last_day h₀ h₁ h ((z + 719468) / 146097)
  rw [civilFromDays]
  generalize (yearAndDay ((z + 719468) % 146097)).2 = doy at *
  generalize (z + 719468) / 146097 * 400 + (yearAndDay ((z + 719468) % 146097)).1 = y at *
  obtain ⟨hm₀, hm₁⟩ := monthOfDay_bounds hd₀ hd₁
  have hle := daysBeforeMonth_le doy
  have hlt := lt_daysBeforeMonth_succ doy
  simp only [CivilDate.Valid, civilOfYearAndDay]
  generalize monthOfDay doy = mp at *
  -- one month at a time: the linear rule gives its length
  interval_cases mp <;> simp [daysBeforeMonth, daysInMonth] at hle hlt ⊢ <;> try omega
  -- except for February, which may end with the 366th day of the year
  cases hl : isLeapYear (y + 1) with
  | true =>
    simp
    omega
  | false =>
    have : doy ≠ 365 := fun h => by simp [hleap h] at hl
    simp
    omega

/-- The years from 1 on begin with the day -719162. -/
theorem year_pos_iff {c : CivilDate} (hc : c.Valid) : 1 ≤ c.year ↔ -719162 ≤ daysFromCivil c := by
  obtain ⟨hm₀, hm₁, hd₀, hd₁⟩ := hc
  have hlen : daysInMonth c.year c.month ≤ 31 := by
    unfold daysInMonth
    split_ifs <;> omega
  simp only [daysFromCivil, daysBeforeYear, daysBeforeMonth]
  split_ifs <;> omega

end Base
