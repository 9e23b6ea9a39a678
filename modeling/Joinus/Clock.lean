import Joinus.Base.DatePattern
import Joinus.Base.Gregorian

/-!
# Clocks and the texts made from them

Every text the app derives from a clock comes out of a `DateFormatter`: it has a
format, and a time zone – the device's, also where the source sets
`TimeZone(identifier: "Ko_kr")`, which names no zone and is `nil`. Formatting takes
the fields an instant has in that zone and writes them along the format; parsing
reads the fields off the text, asks whether they name a day and a time of day that
exist, and takes the zone's instant for them.

Instants are whole seconds since the first of January 1970; the app formats nothing
below a second.

| format | where it is used | name |
|---|---|---|
| `yyyy-MM-dd HH:mm:ss` | the start date that is posted | `Joinus.Date.toString` |
| `yyyy-MM-dd HH-mm-ss` | the start date that is read | `Joinus.calculateStartTime` |
| `yyyy-MM-dd HH-mm-ss` | the creation date that is read | `Joinus.calculateCreatedTime` |
| `yyyy-MM-dd` | the day part of a date text | `Joinus.String.toDate` |
| `yyyy년 M월 dd일` | the day on a form | `Joinus.dateToString` |
| `H:mm:ss`, `h:mm` | the id and the time of a chat message | `Joinus.sendMessage` |

A forced unwrap is an `Option`: `none` is the crash.
-/

namespace Joinus

open Base

/-- An instant: whole seconds since the first of January 1970 in Greenwich. -/
abbrev Instant := ℤ

/-- A time zone: how far its clocks are ahead of Greenwich at an instant, and the
instant at which its clocks, counted in seconds as if they stood in Greenwich, show
a given time. -/
structure TimeZone where
  secondsFromGMT : Instant → ℤ
  instant : ℤ → Instant

/-- A zone whose clocks are never moved. -/
def TimeZone.fixed (offset : ℤ) : TimeZone :=
  ⟨fun _ => offset, fun l => l - offset⟩

/-- The year as a formatter counts it, in the era before Christ backwards. -/
def yearInEra (y : ℤ) : ℕ := (if 0 < y then y else 1 - y).toNat

/-- What the clocks and calendars of a zone show at an instant. -/
def TimeZone.fields (z : TimeZone) (t : Instant) : DateFields :=
  let l := t + z.secondsFromGMT t
  let c := civilFromDays (l / 86400)
  let s := (l % 86400).toNat
  { year := yearInEra c.year
    month := c.month
    day := c.day
    hour := s / 3600
    minute := s / 60 % 60
    second := s % 60 }

theorem hour_fields_lt (z : TimeZone) (t : Instant) : (z.fields t).hour < 24 := by
  have : (t + z.secondsFromGMT t) % 86400 < 86400 := Int.emod_lt_of_pos _ (by decide)
  simp only [TimeZone.fields]
  omega

theorem minute_fields_lt (z : TimeZone) (t : Instant) : (z.fields t).minute < 60 :=
  Nat.mod_lt _ (by decide)

theorem second_fields_lt (z : TimeZone) (t : Instant) : (z.fields t).second < 60 :=
  Nat.mod_lt _ (by decide)

/-! ### `DateFormatter` -/

/-- The day of a date and a time of day. -/
def dayOf (t : DateFields) : CivilDate := ⟨t.year, t.month, t.day⟩

/-- A date and a time of day that exist. -/
def NamesTime (t : DateFields) : Prop :=
  1 ≤ t.year ∧ (dayOf t).Valid ∧ t.hour < 24 ∧ t.minute < 60 ∧ t.second < 60

instance (t : DateFields) : Decidable (NamesTime t) :=
  inferInstanceAs (Decidable (_ ∧ _ ∧ _ ∧ _ ∧ _))

/-- The time shown by a date and a time of day, counted in seconds as if in
Greenwich. -/
def secondsOf (t : DateFields) : ℤ :=
  daysFromCivil (dayOf t) * 86400 + (t.hour * 3600 + t.minute * 60 + t.second : ℕ)

/-- The fields a text does not mention. -/
def defaultFields : DateFields := ⟨2000, 1, 1, 0, 0, 0⟩

/-- A formatter: its format, and the time zone it works in. -/
structure DateFormatter where
  dateFormat : String
  timeZone : TimeZone

namespace DateFormatter

/-- The pattern of the format. -/
def pattern (f : DateFormatter) : Pattern := Pattern.ofFormat f.dateFormat.toList

/-- `string(from:)` of fields the calendar has put together itself. -/
def stringOfFields (f : DateFormatter) (t : DateFields) : String :=
  String.ofList (f.pattern.write t)

/-- `string(from:)`. -/
def string (f : DateFormatter) (t : Instant) : String :=
  f.stringOfFields (f.timeZone.fields t)

/-- `date(from:)`. -/
def date (f : DateFormatter) (s : String) : Option Instant :=
  match f.pattern.read s.toList defaultFields with
  | none => none
  | some t =>
    if NamesTime t then some (f.timeZone.instant (secondsOf t)) else none

end DateFormatter

/-! ### Dates as the app writes them -/

/-- `Date.toString`, which makes the start date a room is posted with. -/
def Date.toString (z : TimeZone) (t : Instant) : String :=
  DateFormatter.string ⟨"yyyy-MM-dd HH:mm:ss", z⟩ t

/-- `String.toDate`. -/
def String.toDate (z : TimeZone) (s : String) : Option Instant :=
  DateFormatter.date ⟨"yyyy-MM-dd", z⟩ s

/-- `CalculateAboutTime.dateToString`, the day as the forms show it. -/
def dateToString (z : TimeZone) (t : Instant) : String :=
  DateFormatter.string ⟨"yyyy년 M월 dd일", z⟩ t

/-- `components(separatedBy: " ")[0]`: the text up to the first space. -/
def firstComponent (s : String) : String :=
  String.ofList (s.toList.takeWhile (· ≠ ' '))

/-- `CalculateAboutTime.strDateToString`: the day of a start date. -/
def strDateToString (z : TimeZone) (date : String) : Option String :=
  match String.toDate z (firstComponent date) with
  | none => none
  | some t => some (dateToString z t)

/-! ### The start of a room as the app reads it -/

/-- `CalculateAboutTime.calculateStartTimeInterval`. -/
def calculateStartTimeInterval (second : ℤ) : String :=
  if 60 ≤ second ∧ second < 60 * 60 * 24 then "오늘 시작"
  else if 60 * 60 * 24 ≤ second ∧ second < 60 * 60 * 24 * 2 then "내일 시작"
  else if 60 * 60 * 24 * 2 ≤ second then s!"{second / (60 * 60 * 24)}일 뒤"
  else if second ≤ 0 then "매칭 완료"
  else ""

/-- The seconds `calculateStartTime` makes its label of: counted to the start
itself when the room starts today, and to midnight of its day when it starts later.
Earlier days, and midnights less than a minute away, leave the initial zero. -/
def startSecond (dateInterval dayInterval : ℤ) : ℤ :=
  if dayInterval = 0 then dateInterval
  else if 60 ≤ dayInterval ∧ dayInterval ≤ 60 * 60 * 24 then dayInterval
  else if 60 * 60 * 24 < dayInterval then dayInterval
  else 0

/-- The instant `calculateStartTime` reads a start date as, by its first forced
unwrap. -/
def readStartDate (z : TimeZone) (time : String) : Option Instant :=
  DateFormatter.date ⟨"yyyy-MM-dd HH-mm-ss", z⟩ time

/-- `CalculateAboutTime.calculateStartTime`, with its three forced unwraps. -/
def calculateStartTime (z : TimeZone) (currentDate : Instant) (time : String) :
    Option String := do
  let dateFormat : DateFormatter := ⟨"yyyy-MM-dd", z⟩
  let currentDayString := firstComponent (dateFormat.string currentDate)
  let currentDay ← dateFormat.date currentDayString
  let startDate ← readStartDate z time
  let startDay ← dateFormat.date (firstComponent time)
  return calculateStartTimeInterval (startSecond (startDate - currentDate) (startDay - currentDay))

/-! ### The age of a room -/

/-- `CalculateAboutTime.calculateCreatedTimeInterval`. -/
def calculateCreatedTimeInterval (second : ℤ) : String :=
  if second = 0 then "방금 전"
  else if 60 ≤ second ∧ second < 3600 then s!"{second / 60}분 전"
  else if 360 ≤ second ∧ second < 60 * 60 * 24 then s!"{second / 3600}시간 전"
  else if 60 * 60 * 24 ≤ second ∧ second < 60 * 60 * 24 * 2 then "어제"
  else if 60 * 60 * 24 * 2 ≤ second then s!"{second / (60 * 60 * 24)}일 전"
  else ""

/-- `CalculateAboutTime.calculateCreatedTime`. A creation date that cannot be read is
replaced by another look at the clock. -/
def calculateCreatedTime (z : TimeZone) (currentDate laterDate : Instant) (time : String) :
    String :=
  let createdDate := (DateFormatter.date ⟨"yyyy-MM-dd HH-mm-ss", z⟩ time).getD laterDate
  calculateCreatedTimeInterval (currentDate - createdDate)

end Joinus
