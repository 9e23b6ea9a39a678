import Joinus.Clock

/-!
# The days of a start date

`calculateStartTime` counts from midnight to midnight. The midnight of the start is read
off the start date up to its first space; that of the present is read off the present as
the formatter writes it. On a zone whose clocks are never moved both are what they should be:
a start date that can be read at all is read in two parts, its day and its time of
day (`Joinus.date_firstComponent`), and the day of the present is read back
(`Joinus.date_firstComponent_string`) – unless the present is before Christ, when the year
is written without its era and read as another.
-/

namespace Joinus

open Base

/-- The day of an instant on the calendar of a zone. -/
def TimeZone.day (z : TimeZone) (t : Instant) : ℤ := (t + z.secondsFromGMT t) / 86400

/-- The calendar of a zone is past the beginning of the year 1. -/
def InCommonEra (z : TimeZone) (t : Instant) : Prop := 1 ≤ (civilFromDays (z.day t)).year

instance (z : TimeZone) (t : Instant) : Decidable (InCommonEra z t) :=
  inferInstanceAs (Decidable (_ ≤ _))

/-- The date of an instant as it is written, without its era, read as one of the common
era. -/
def writtenDay (z : TimeZone) (t : Instant) : ℤ := daysFromCivil (dayOf (z.fields t))

/-- Every day of a zone has a midnight: the instant as which a formatter reads the date of a
day is on that day, so that reading a day undoes writing it. -/
def TimeZone.HasMidnights (z : TimeZone) : Prop := ∀ n : ℤ, z.day (z.instant (n * 86400)) = n

/-- A zone whose clocks are never moved has its midnights. -/
theorem hasMidnights_fixed (o : ℤ) : (TimeZone.fixed o).HasMidnights := by
  intro n
  have hmidnight : n * 86400 - o + o = n * 86400 := by omega
  rw [TimeZone.day, TimeZone.fixed]
  dsimp only
  rw [hmidnight, Int.mul_ediv_cancel n (by decide)]

/-! ### Reading -/

theorem DateFormatter.date_eq_some {f : DateFormatter} {s : String} {t : Instant} :
    f.date s = some t ↔ ∃ u, f.pattern.read s.toList defaultFields = some u ∧ NamesTime u ∧
      f.timeZone.instant (secondsOf u) = t := by
  rw [DateFormatter.date]
  cases f.pattern.read s.toList defaultFields with
  | none => simp
  | some u => simp [Option.ite_none_right_eq_some]

/-- A time of day is less than a day. -/
theorem secondsOf_div {t : DateFields} (h : NamesTime t) :
    secondsOf t / 86400 = daysFromCivil (dayOf t) := by
  obtain ⟨-, -, hhour, hminute, hsecond⟩ := h
  rw [secondsOf]
  omega

/-- The day of what a zone with a fixed offset makes of a date and a time of day. -/
theorem day_fixed_instant {o : ℤ} {t : DateFields} (h : NamesTime t) :
    (TimeZone.fixed o).day ((TimeZone.fixed o).instant (secondsOf t)) =
      daysFromCivil (dayOf t) := by
  have hback : secondsOf t - o + o = secondsOf t := by omega
  rw [TimeZone.day, TimeZone.fixed]
  dsimp only
  rw [hback, secondsOf_div h]

theorem toList_firstComponent (s : String) :
    (firstComponent s).toList = s.toList.takeWhile (· ≠ ' ') := by
  rw [firstComponent, String.toList_ofList]

/-- The pattern of a day. -/
def dayPattern : Pattern :=
  [.num .year 4, .lit '-', .num .month 2, .lit '-', .num .day 2]

theorem pattern_day (z : TimeZone) : DateFormatter.pattern ⟨"yyyy-MM-dd", z⟩ = dayPattern :=
  (by decide : Pattern.ofFormat "yyyy-MM-dd".toList = dayPattern)

/-- A start date goes on with a space and a time of day. -/
theorem pattern_startDate (z : TimeZone) :
    DateFormatter.pattern ⟨"yyyy-MM-dd HH-mm-ss", z⟩ =
      dayPattern ++ .lit ' ' ::
        [.num .hour 2, .lit '-', .num .minute 2, .lit '-', .num .second 2] :=
  (by decide : Pattern.ofFormat "yyyy-MM-dd HH-mm-ss".toList = dayPattern ++ .lit ' ' ::
    [.num .hour 2, .lit '-', .num .minute 2, .lit '-', .num .second 2])

/-- Of the fields of a day, those a text does not mention are at midnight. -/
theorem secondsOf_midnight {u : DateFields} (hhour : u.hour = 0) (hminute : u.minute = 0)
    (hsecond : u.second = 0) : secondsOf u = daysFromCivil (dayOf u) * 86400 := by
  rw [secondsOf, hhour, hminute, hsecond]
  simp

/-- Reading along the pattern of a day leaves the time of day as it is. -/
theorem time_of_read_day {s : List Char} {t u : DateFields} (h : dayPattern.read s t = some u) :
    u.hour = t.hour ∧ u.minute = t.minute ∧ u.second = t.second := by
  have htime := Pattern.read_preserves (g := fun t => (t.hour, t.minute, t.second))
    (fun f w hmem t n => by
      simp only [dayPattern, List.mem_cons, Piece.num.injEq, reduceCtorEq, List.not_mem_nil,
        false_or, or_false] at hmem
      rcases hmem with ⟨rfl, -⟩ | ⟨rfl, -⟩ | ⟨rfl, -⟩ <;> rfl) h
  simpa using htime

/-- **A start date that can be read is read in two parts**, and the first of them is
midnight of its day. -/
theorem date_firstComponent {o : ℤ} {time : String} {start : Instant}
    (h : readStartDate (TimeZone.fixed o) time = some start) :
    DateFormatter.date ⟨"yyyy-MM-dd", TimeZone.fixed o⟩ (firstComponent time) =
      some ((TimeZone.fixed o).instant ((TimeZone.fixed o).day start * 86400)) := by
  obtain ⟨u, hread, hnames, rfl⟩ := DateFormatter.date_eq_some.mp h
  rw [pattern_startDate] at hread
  obtain ⟨v, hday, hrest⟩ := Pattern.read_append_lit (by decide) (by decide) hread
  obtain ⟨hhour, hminute, hsecond⟩ := time_of_read_day hday
  -- the time of day is read after the day, and leaves it alone
  have hsame : dayOf u = dayOf v := by
    refine Pattern.read_preserves (fun f w hmem t n => ?_) hrest
    simp only [List.mem_cons, Piece.num.injEq, reduceCtorEq, List.not_mem_nil,
      false_or, or_false] at hmem
    rcases hmem with ⟨rfl, -⟩ | ⟨rfl, -⟩ | ⟨rfl, -⟩ <;> rfl
  have hyear : u.year = v.year := by
    have := congrArg CivilDate.year hsame
    simpa [dayOf] using this
  have hmidnight : NamesTime v := by
    refine ⟨hyear ▸ hnames.1, hsame ▸ hnames.2.1, ?_, ?_, ?_⟩
    · rw [hhour]
      decide
    · rw [hminute]
      decide
    · rw [hsecond]
      decide
  refine DateFormatter.date_eq_some.mpr ⟨v, ?_, hmidnight, ?_⟩
  · rw [toList_firstComponent, pattern_day]
    exact hday
  · rw [day_fixed_instant hnames, hsame, secondsOf_midnight hhour hminute hsecond]

/-! ### The present -/

/-- What is written along the pattern of a day is a single component. -/
theorem firstComponent_string (z : TimeZone) (t : Instant) :
    firstComponent (DateFormatter.string ⟨"yyyy-MM-dd", z⟩ t) =
      DateFormatter.string ⟨"yyyy-MM-dd", z⟩ t := by
  rw [← String.toList_inj, toList_firstComponent, List.takeWhile_eq_self_iff]
  intro c hc
  rw [DateFormatter.string, DateFormatter.stringOfFields, String.toList_ofList, pattern_day] at hc
  rcases Pattern.mem_write hc with hdigit | hlit
  · rw [decide_eq_true_eq]
    rintro rfl
    exact absurd hdigit (by decide)
  · rw [decide_eq_true_eq]
    rintro rfl
    exact absurd hlit (by decide)

/-- **The present is read back** as the day its date names without its era, if there is
one. -/
theorem date_firstComponent_string (z : TimeZone) (t : Instant) :
    DateFormatter.date ⟨"yyyy-MM-dd", z⟩
        (firstComponent (DateFormatter.string ⟨"yyyy-MM-dd", z⟩ t)) =
      if (dayOf (z.fields t)).Valid then some (z.instant (writtenDay z t * 86400)) else none := by
  have hyear : 1 ≤ (z.fields t).year := by
    simp only [TimeZone.fields, yearInEra]
    split_ifs <;> omega
  have hread : (DateFormatter.pattern ⟨"yyyy-MM-dd", z⟩).read
      (DateFormatter.string ⟨"yyyy-MM-dd", z⟩ t).toList defaultFields =
        some ⟨(z.fields t).year, (z.fields t).month, (z.fields t).day, 0, 0, 0⟩ := by
    rw [DateFormatter.string, DateFormatter.stringOfFields, String.toList_ofList, pattern_day,
      Pattern.read_write (by decide)]
    rfl
  rw [firstComponent_string, DateFormatter.date, hread]
  dsimp only
  by_cases hvalid : (dayOf (z.fields t)).Valid
  · rw [if_pos hvalid, if_pos ⟨hyear, hvalid, by simp⟩, secondsOf_midnight rfl rfl rfl]
    rfl
  · rw [if_neg hvalid, if_neg fun h => hvalid h.2.1]

/-- A date that is posted begins with its day, as the formatter of days writes it. -/
theorem firstComponent_toString (z : TimeZone) (t : Instant) :
    firstComponent (Date.toString z t) = DateFormatter.string ⟨"yyyy-MM-dd", z⟩ t := by
  have hp : Pattern.ofFormat "yyyy-MM-dd HH:mm:ss".toList = dayPattern ++ .lit ' ' ::
      [.num .hour 2, .lit ':', .num .minute 2, .lit ':', .num .second 2] := by decide
  rw [← String.toList_inj, toList_firstComponent, Date.toString, DateFormatter.string,
    DateFormatter.string, DateFormatter.stringOfFields, DateFormatter.stringOfFields,
    String.toList_ofList, String.toList_ofList, pattern_day, DateFormatter.pattern, hp]
  exact Pattern.takeWhile_write (by decide) (by decide) _

/-- In the common era the date names the day. -/
theorem dayOf_fields {z : TimeZone} {t : Instant} (h : InCommonEra z t) :
    dayOf (z.fields t) = civilFromDays (z.day t) := by
  have hyear : ((yearInEra (civilFromDays (z.day t)).year : ℕ) : ℤ) =
      (civilFromDays (z.day t)).year := by
    have hpos : 0 < (civilFromDays (z.day t)).year := h
    rw [yearInEra, if_pos hpos]
    omega
  ext
  · exact hyear
  · rfl
  · rfl

theorem writtenDay_of_inCommonEra {z : TimeZone} {t : Instant} (h : InCommonEra z t) :
    (dayOf (z.fields t)).Valid ∧ writtenDay z t = z.day t := by
  rw [writtenDay, dayOf_fields h]
  exact ⟨valid_civilFromDays _, daysFromCivil_civilFromDays _⟩

/-- Before it the date names a later day. -/
theorem day_lt_writtenDay {z : TimeZone} {t : Instant} (h : ¬InCommonEra z t)
    (hvalid : (dayOf (z.fields t)).Valid) : z.day t < writtenDay z t := by
  have hbefore : ¬-719162 ≤ z.day t := by
    rwa [InCommonEra, year_pos_iff (valid_civilFromDays _), daysFromCivil_civilFromDays] at h
  have hafter : -719162 ≤ writtenDay z t := by
    refine (year_pos_iff hvalid).mp ?_
    simp only [dayOf, TimeZone.fields, yearInEra]
    split_ifs <;> omega
  omega

end Joinus
