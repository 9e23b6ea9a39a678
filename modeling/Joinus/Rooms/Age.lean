import Joinus.Base.Decimal
import Joinus.Navigation.Joining
import Joinus.Rooms.Cell

/-!
# The age of a room

`calculateCreatedTime` cuts the seconds since a room was made into intervals. The first of
them is a single second: a room made in this very second is new, and for the rest of its first
minute it has no label. The NEW badge is decided by the label, so that it goes away with it
and comes back after a minute.

So the label and the badge are right, and no newer room lacks a badge that an older one has,
exactly if the room is not in the first minute after its first second
(`Joinus.age_shown_iff`). That the bound of the hours is a tenth of what it should be does not
matter: the minutes come first.
-/

namespace Joinus

open Base

/-! ### The label -/

/-- **The label names the age**, in seconds. -/
structure NamesAge (e : ℤ) (label : String) : Prop where
  now : e < 60 → label = "방금 전"
  minutes : 60 ≤ e → e < 3600 → label = s!"{e / 60}분 전"
  hours : 3600 ≤ e → e < 86400 → label = s!"{e / 3600}시간 전"
  yesterday : 86400 ≤ e → e < 172800 → label = "어제"
  days : 172800 ≤ e → label = s!"{e / 86400}일 전"
  nonempty : label ≠ ""

/-- The last character of the unit an age is given in. -/
def unitOf (label : String) : Option Char := label.toList.reverse[2]?

@[simp] theorem unitOf_minutes (n : ℤ) : unitOf s!"{n}분 전" = some '분' := by
  simp [unitOf, toString, String.toList_append]

@[simp] theorem unitOf_hours (n : ℤ) : unitOf s!"{n}시간 전" = some '간' := by
  simp [unitOf, toString, String.toList_append]

@[simp] theorem unitOf_days (n : ℤ) : unitOf s!"{n}일 전" = some '일' := by
  simp [unitOf, toString, String.toList_append]

theorem ne_of_unitOf {s t : String} (h : unitOf s ≠ unitOf t) : s ≠ t := fun heq =>
  h (congrArg unitOf heq)

/-- The label of an age, which has none in the rest of the first minute. -/
theorem calculateCreatedTimeInterval_of_nonneg {e : ℤ} (he : 0 ≤ e) :
    calculateCreatedTimeInterval e =
      if e = 0 then "방금 전"
      else if e < 60 then ""
      else if e < 3600 then s!"{e / 60}분 전"
      else if e < 86400 then s!"{e / 3600}시간 전"
      else if e < 172800 then "어제"
      else s!"{e / 86400}일 전" := by
  rw [calculateCreatedTimeInterval]
  split_ifs <;> first | rfl | omega

theorem namesAge_iff {e : ℤ} (he : 0 ≤ e) :
    NamesAge e (calculateCreatedTimeInterval e) ↔ e = 0 ∨ 60 ≤ e := by
  rw [calculateCreatedTimeInterval_of_nonneg he]
  constructor
  · intro h
    by_contra hgap
    have hempty := h.nonempty
    rw [if_neg (by omega), if_pos (by omega)] at hempty
    exact hempty rfl
  · intro h
    refine ⟨fun _ => ?_, fun _ _ => ?_, fun _ _ => ?_, fun _ _ => ?_, fun _ => ?_, ?_⟩
    · rw [if_pos (by omega)]
    · rw [if_neg (by omega), if_neg (by omega), if_pos (by omega)]
    · rw [if_neg (by omega), if_neg (by omega), if_neg (by omega), if_pos (by omega)]
    · rw [if_neg (by omega), if_neg (by omega), if_neg (by omega), if_neg (by omega),
        if_pos (by omega)]
    · rw [if_neg (by omega), if_neg (by omega), if_neg (by omega), if_neg (by omega),
        if_neg (by omega)]
    · split_ifs with h₀ h₁
      · decide
      · omega
      · exact ne_of_unitOf (by rw [unitOf_minutes]; decide)
      · exact ne_of_unitOf (by rw [unitOf_hours]; decide)
      · decide
      · exact ne_of_unitOf (by rw [unitOf_days]; decide)

/-! ### The badge -/

/-- Of the ages in minutes, the first five have a badge. -/
theorem minutes_mem_newIntervals {k : ℤ} : s!"{k}분 전" ∈ newIntervals ↔ 1 ≤ k ∧ k ≤ 5 := by
  have hone : s!"{k}분 전" = "1분 전" ↔ k = 1 := toString_int_append_inj (q := 1)
  have htwo : s!"{k}분 전" = "2분 전" ↔ k = 2 := toString_int_append_inj (q := 2)
  have hthree : s!"{k}분 전" = "3분 전" ↔ k = 3 := toString_int_append_inj (q := 3)
  have hfour : s!"{k}분 전" = "4분 전" ↔ k = 4 := toString_int_append_inj (q := 4)
  have hfive : s!"{k}분 전" = "5분 전" ↔ k = 5 := toString_int_append_inj (q := 5)
  have hnow : s!"{k}분 전" ≠ "방금 전" := ne_of_unitOf (by rw [unitOf_minutes]; decide)
  rw [newIntervals, List.mem_cons, List.mem_cons, List.mem_cons, List.mem_cons, List.mem_cons,
    List.mem_singleton, hone, htwo, hthree, hfour, hfive, or_iff_right hnow]
  omega

/-- An age in another unit has none. -/
theorem notMem_newIntervals {s : String} (hminutes : unitOf s ≠ some '분')
    (hnow : unitOf s ≠ some '금') : s ∉ newIntervals := by
  intro hmem
  have hunits : ∀ t ∈ newIntervals, unitOf t = some '분' ∨ unitOf t = some '금' := by decide
  rcases hunits s hmem with h | h
  · exact hminutes h
  · exact hnow h

/-- **The ages with a badge**: the first second, and the first six minutes after the first. -/
theorem mem_newIntervals_iff {e : ℤ} (he : 0 ≤ e) :
    calculateCreatedTimeInterval e ∈ newIntervals ↔ e = 0 ∨ (60 ≤ e ∧ e < 360) := by
  rw [calculateCreatedTimeInterval_of_nonneg he]
  split_ifs with h₀ h₁ h₂ h₃ h₄
  · exact iff_of_true (by decide) (Or.inl h₀)
  · exact iff_of_false (by decide) (by omega)
  · rw [minutes_mem_newIntervals]
    omega
  · refine iff_of_false (notMem_newIntervals ?_ ?_) (by omega)
    · rw [unitOf_hours]
      decide
    · rw [unitOf_hours]
      decide
  · exact iff_of_false (by decide) (by omega)
  · refine iff_of_false (notMem_newIntervals ?_ ?_) (by omega)
    · rw [unitOf_days]
      decide
    · rw [unitOf_days]
      decide

/-! ### The cells -/

variable {z : TimeZone} {clock : CellClock} {room : GetRoomInfo} {created : Instant}

/-- The instant of a creation date. -/
def readCreatedAt (z : TimeZone) (time : String) : Option Instant :=
  DateFormatter.date ⟨"yyyy-MM-dd HH-mm-ss", z⟩ time

/-- The seconds since a room was made. -/
def CellClock.age (clock : CellClock) (created : Instant) : ℤ := clock.currentDate - created

theorem CellClock.age_nonneg (h : created ≤ clock.currentDate) : 0 ≤ clock.age created :=
  sub_nonneg.mpr h

theorem calculateCreatedTime_of_read {time : String} (h : readCreatedAt z time = some created) :
    calculateCreatedTime z clock.currentDate clock.laterDate time =
      calculateCreatedTimeInterval (clock.age created) := by
  rw [readCreatedAt] at h
  rw [calculateCreatedTime, h]
  rfl

/-- Either list shows the badge if the label is one of six. -/
theorem badge_of_shownAs {cell : JoinusCustomCell} (h : ShownAs z clock room cell) :
    cell.newLabelIsHidden = false ↔
      calculateCreatedTime z clock.currentDate clock.laterDate room.createdAt ∈ newIntervals := by
  rw [shownAs_iff, roomCell] at h
  split at h
  · exact absurd h (by simp)
  · rw [← Option.some.inj h]
    simp [gameListCell]

/-- The badge of a room whose creation date can be read. -/
theorem badge_iff {cell : JoinusCustomCell} (h : ShownAs z clock room cell)
    (hread : readCreatedAt z room.createdAt = some created) (hle : created ≤ clock.currentDate) :
    cell.newLabelIsHidden = false ↔
      clock.age created = 0 ∨ (60 ≤ clock.age created ∧ clock.age created < 360) := by
  rw [badge_of_shownAs h, calculateCreatedTime_of_read hread,
    mem_newIntervals_iff (CellClock.age_nonneg hle)]

/-- **The age of a room is shown right** by its label and by its badge in either list, and of
two rooms in the lists at one time the newer one does not lack a badge that the older one
has. -/
structure AgeShown (z : TimeZone) (clock : CellClock) (room : GetRoomInfo) (created : Instant) :
    Prop where
  label : NamesAge (clock.age created)
    (calculateCreatedTime z clock.currentDate clock.laterDate room.createdAt)
  badge : ∀ cell, ShownAs z clock room cell →
    (cell.newLabelIsHidden = false ↔ clock.age created < 360)
  newer : ∀ older cell cell', (∃ c, readCreatedAt z older.createdAt = some c ∧ c ≤ created) →
    ShownAs z clock room cell → ShownAs z clock older cell' →
    cell'.newLabelIsHidden = false → cell.newLabelIsHidden = false

/-- **When the age of a room is shown right**: in the very second in which it was made, and
again from the end of its first minute on. -/
theorem age_shown_iff (hread : readCreatedAt z room.createdAt = some created)
    (hle : created ≤ clock.currentDate) :
    AgeShown z clock room created ↔ clock.age created = 0 ∨ 60 ≤ clock.age created := by
  have hnames := namesAge_iff (CellClock.age_nonneg hle)
  rw [← calculateCreatedTime_of_read hread] at hnames
  constructor
  · intro h
    exact hnames.mp h.label
  · intro h
    have hbadge : ∀ cell, ShownAs z clock room cell →
        (cell.newLabelIsHidden = false ↔ clock.age created < 360) := by
      intro cell hcell
      rw [badge_iff hcell hread hle]
      omega
    refine ⟨hnames.mpr h, hbadge, fun older cell cell' hold hcell hcell' hnew => ?_⟩
    obtain ⟨c, hc, hc'⟩ := hold
    have hnewer : clock.age created ≤ clock.age c := sub_le_sub_left hc' clock.currentDate
    have hyoung := (badge_iff hcell' hc (hc'.trans hle)).mp hnew
    refine (hbadge cell hcell).mpr ?_
    omega

/-- The clock a number of seconds after the room of the other examples was made. -/
def secondsLater (n : ℕ) : CellClock where
  currentDate := 1632963600 + n
  laterDate := 1632963600 + n
  startCurrentDate := 1632963600 + n

/-- **Half a minute old**: no label, and no badge, while a room that is a minute older has
one. -/
theorem halfMinute_unlabelled :
    readCreatedAt (TimeZone.fixed 32400) Navigation.openRoom.createdAt = some 1632963600 ∧
      (roomCell (TimeZone.fixed 32400) (secondsLater 30) Navigation.openRoom).map
        (fun cell => (cell.createdTimeLabel, cell.newLabelIsHidden)) = some ("", true) ∧
      (roomCell (TimeZone.fixed 32400) (secondsLater 30)
        { Navigation.openRoom with createdAt := "2021-09-30 09-59-00" }).map
          (fun cell => (cell.createdTimeLabel, cell.newLabelIsHidden)) = some ("1분 전", false) ∧
      ¬AgeShown (TimeZone.fixed 32400) (secondsLater 30) Navigation.openRoom 1632963600 := by
  refine ⟨by decide, by decide, by decide, fun h => ?_⟩
  have hempty : calculateCreatedTime (TimeZone.fixed 32400) (secondsLater 30).currentDate
      (secondsLater 30).laterDate Navigation.openRoom.createdAt = "" := by decide
  exact h.label.nonempty hempty

/-- Five minutes old. -/
theorem fiveMinutes_shown :
    AgeShown (TimeZone.fixed 32400) (secondsLater 300) Navigation.openRoom 1632963600 := by
  have hread : readCreatedAt (TimeZone.fixed 32400) Navigation.openRoom.createdAt =
      some 1632963600 := by decide
  exact (age_shown_iff hread (by decide)).mpr (by decide)

end Joinus
