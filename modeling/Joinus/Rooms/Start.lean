import Joinus.Base.Decimal
import Joinus.Days
import Joinus.Navigation.Joining
import Joinus.Rooms.Cell

/-!
# The label of a start

`calculateStartTime` takes the days between the present and the start, from midnight to
midnight. On the day of the start it counts to the start itself, and otherwise whole days;
what it has counted is then cut into intervals by bounds of its own:

| the start is | what is counted | the label |
|---|---|---|
| on an earlier day | nothing | 매칭 완료 |
| today, and not later than now | at most nought | 매칭 완료 |
| today, in less than a minute | 1 to 59 seconds | none |
| today, later | less than a day | 오늘 시작 |
| tomorrow | one day | 내일 시작 |
| in `n` days | `n` days | `n`일 뒤 |

So the label of a room that can be joined no more is right in every case
(`Joinus.joinable_until_start`), and that of a room yet to start in every case but one
(`Joinus.start_day_named_iff`). All of it supposes that the present is in the common era: a
year before Christ is written without its era and read back as another.
-/

namespace Joinus

open Base

/-! ### What is counted -/

/-- What is counted from day to day, in a zone whose clocks are never moved. -/
def countedSecond (o now start today : ℤ) : ℤ :=
  startSecond (start - now) (((TimeZone.fixed o).day start - today) * 86400)

variable {o now start : ℤ} {time : String}

theorem midnight_sub_midnight (o d e : ℤ) :
    (TimeZone.fixed o).instant (d * 86400) - (TimeZone.fixed o).instant (e * 86400) =
      (d - e) * 86400 := by
  change d * 86400 - o - (e * 86400 - o) = (d - e) * 86400
  omega

/-- **The label, by days.** -/
theorem calculateStartTime_eq (now : ℤ)
    (h : readStartDate (TimeZone.fixed o) time = some start) :
    calculateStartTime (TimeZone.fixed o) now time =
      if (dayOf ((TimeZone.fixed o).fields now)).Valid then
        some (calculateStartTimeInterval
          (countedSecond o now start (writtenDay (TimeZone.fixed o) now)))
      else none := by
  simp only [calculateStartTime, date_firstComponent_string, h, date_firstComponent h]
  split_ifs
  · simp [midnight_sub_midnight, countedSecond]
  · rfl

theorem countedSecond_eq (o now start today : ℤ) :
    countedSecond o now start today =
      if (TimeZone.fixed o).day start = today then start - now
      else if today < (TimeZone.fixed o).day start then
        ((TimeZone.fixed o).day start - today) * 86400
      else 0 := by
  rw [countedSecond, startSecond]
  split_ifs <;> omega

/-- The day of a later instant is no earlier. -/
theorem day_fixed_mono {t u : ℤ} (h : t ≤ u) :
    (TimeZone.fixed o).day t ≤ (TimeZone.fixed o).day u := by
  simp only [TimeZone.day, TimeZone.fixed]
  omega

/-- Two instants of one day are less than a day apart. -/
theorem sub_lt_of_day_eq {t u : ℤ}
    (h : (TimeZone.fixed o).day u = (TimeZone.fixed o).day t) : u - t < 86400 := by
  simp only [TimeZone.day, TimeZone.fixed] at h
  omega

/-! ### Until the start -/

/-- The labels that count days are told from the others by their last character. -/
theorem daysLater_ne {n : ℤ} {s : String} (h : s.toList.getLast? ≠ some '뒤') :
    s!"{n}일 뒤" ≠ s := by
  rintro rfl
  exact h (by simp [toString, String.toList_append])

/-- The label says that the matching is over if nothing is left. -/
theorem calculateStartTimeInterval_eq_done {second : ℤ} :
    calculateStartTimeInterval second = "매칭 완료" ↔ second ≤ 0 := by
  rw [calculateStartTimeInterval]
  split_ifs with h₁ h₂ h₃ h₄
  · exact iff_of_false (by decide) (by omega)
  · exact iff_of_false (by decide) (by omega)
  · exact iff_of_false (daysLater_ne (by decide)) (by omega)
  · exact iff_of_true rfl h₄
  · exact iff_of_false (by decide) h₄

/-- No other label speaks of what is over. -/
theorem containsText_done_iff {second : ℤ} :
    containsText (calculateStartTimeInterval second) "완료" = true ↔
      calculateStartTimeInterval second = "매칭 완료" := by
  have hmem : ∀ s : String, containsText s "완료" = true → '완' ∈ s.toList := by
    intro s h
    simp only [containsText, decide_eq_true_eq] at h
    exact h.subset (by decide)
  constructor
  · intro h
    have hdone := hmem _ h
    rw [calculateStartTimeInterval_eq_done]
    rw [calculateStartTimeInterval] at hdone
    split_ifs at hdone with h₁ h₂ h₃ h₄
    · exact absurd hdone (by decide)
    · exact absurd hdone (by decide)
    · rcases List.mem_append.mp (String.toList_append ▸ hdone) with hcount | hdays
      · rcases mem_toString_int hcount with hminus | hdigit
        · exact absurd hminus (by decide)
        · exact absurd hdigit (by decide)
      · exact absurd hdays (by decide)
    · exact h₄
    · exact absurd hdone (by decide)
  · intro h
    have hinfix : "완료".toList <:+: "매칭 완료".toList := ⟨['매', '칭', ' '], [], rfl⟩
    rw [h]
    simpa only [containsText, decide_eq_true_eq] using hinfix

/-- **What is left is nothing exactly if the start is not later than the present.** -/
theorem countedSecond_le_zero_iff (o now start : ℤ) :
    countedSecond o now start ((TimeZone.fixed o).day now) ≤ 0 ↔ start ≤ now := by
  rw [countedSecond_eq]
  split_ifs with hsame hbefore
  · omega
  · have hlt : now < start := by
      by_contra hle
      have := day_fixed_mono (o := o) (not_lt.mp hle)
      omega
    omega
  · have hle : start ≤ now := by
      by_contra hlt
      have := day_fixed_mono (o := o) (not_le.mp hlt).le
      omega
    exact iff_of_true le_rfl hle

/-- The label of the start is grey. -/
def JoinusCustomCell.Grey (cell : JoinusCustomCell) : Prop :=
  cell.startLabelBackgroundColor = .gameIdTextFieldBgGray ∧
    cell.startLabelTextColor = .gameIdTextFieldPlaceholderGray

theorem grey_gameListCell {temp : GetRoomInfo} {createdInterval startInterval : String} :
    (gameListCell temp createdInterval startInterval).Grey ↔
      containsText startInterval "완료" = true := by
  rw [JoinusCustomCell.Grey, gameListCell]
  split_ifs with h
  · exact iff_of_true ⟨rfl, rfl⟩ h
  · exact iff_of_false (fun hgrey => absurd hgrey.1 (by decide)) h

/-- **A room can be joined until it starts.** While the present is in the common era, the
label of a start date that can be read says that the matching is over exactly if the start
is not later than the present; the Select screen that a tap on the room's row opens has its
join button enabled exactly if it is; and either list shows the label in grey exactly if the
button would be disabled. -/
theorem joinable_until_start {room : GetRoomInfo} (hera : InCommonEra (TimeZone.fixed o) now)
    (hread : readStartDate (TimeZone.fixed o) room.startDate = some start) :
    ∃ label, calculateStartTime (TimeZone.fixed o) now room.startDate = some label ∧
      (label = "매칭 완료" ↔ start ≤ now) ∧
      (containsText label "완료" = true ↔ label = "매칭 완료") ∧
      (∀ s : Navigation, s.didSelectHomeRow (TimeZone.fixed o) now room =
        Navigation.pushViewController (TimeZone.fixed o) { s with created := s.created + 1 } .game
          (.selectJoinGame ⟨s.created, room, room.leaderPk, decide (now < start)⟩)) ∧
      ∀ clock cell, clock.startCurrentDate = now →
        ShownAs (TimeZone.fixed o) clock room cell → (cell.Grey ↔ ¬now < start) := by
  obtain ⟨hvalid, hday⟩ := writtenDay_of_inCommonEra hera
  have hlabel := calculateStartTime_eq now hread
  rw [if_pos hvalid, hday] at hlabel
  have hdone : calculateStartTimeInterval
      (countedSecond o now start ((TimeZone.fixed o).day now)) = "매칭 완료" ↔ start ≤ now :=
    calculateStartTimeInterval_eq_done.trans (countedSecond_le_zero_iff o now start)
  refine ⟨_, hlabel, hdone, containsText_done_iff, fun s => ?_, fun clock cell hclock hshown => ?_⟩
  · have henabled : decide (now < start) = decide (calculateStartTimeInterval
        (countedSecond o now start ((TimeZone.fixed o).day now)) ≠ "매칭 완료") := by
      rw [decide_eq_decide, Ne, hdone, not_le]
    rw [Navigation.didSelectHomeRow, hlabel, henabled]
  · subst hclock
    rw [shownAs_iff, roomCell_of_start hlabel] at hshown
    rw [← Option.some.inj hshown, grey_gameListCell, containsText_done_iff, hdone, not_lt]

/-- The room of the other examples, which starts in 2021, can be joined in 1970. -/
theorem openRoom_joinable :
    ∃ label, calculateStartTime (TimeZone.fixed 32400) 0 Navigation.openRoom.startDate =
        some label ∧ label ≠ "매칭 완료" := by
  have hread : readStartDate (TimeZone.fixed 32400) Navigation.openRoom.startDate =
      some 1633086000 := by decide
  have hera : InCommonEra (TimeZone.fixed 32400) 0 := by decide
  obtain ⟨label, hlabel, hdone, -⟩ := joinable_until_start hera hread
  exact ⟨label, hlabel, fun h => absurd (hdone.mp h) (by decide)⟩

/-- **A year before Christ is read as another**: on the first of March before it, ten months
before the start, the matching is over. -/
theorem beforeChrist_done :
    readStartDate (TimeZone.fixed 32400) "0001-01-01 00-00-00" = some (-62135629200) ∧
      calculateStartTime (TimeZone.fixed 32400) (-62162067600) "0001-01-01 00-00-00" =
        some "매칭 완료" ∧ ¬(-62135629200 : ℤ) ≤ -62162067600 := by
  refine ⟨?_, ?_, ?_⟩
  · decide
  · decide
  · omega

/-! ### The day of the start -/

/-- **The label names the day** of a start that is `n` days ahead. -/
structure NamesStart (n : ℤ) (label : String) : Prop where
  today : n = 0 → label = "오늘 시작"
  tomorrow : n = 1 → label = "내일 시작"
  later : 2 ≤ n → label = s!"{n}일 뒤"
  nonempty : label ≠ ""

theorem calculateStartTimeInterval_eq_today {second : ℤ} :
    calculateStartTimeInterval second = "오늘 시작" ↔ 60 ≤ second ∧ second < 86400 := by
  rw [calculateStartTimeInterval]
  split_ifs with h₁ h₂ h₃ h₄
  · exact iff_of_true rfl (by omega)
  · exact iff_of_false (by decide) (by omega)
  · exact iff_of_false (daysLater_ne (by decide)) (by omega)
  · exact iff_of_false (by decide) (by omega)
  · exact iff_of_false (by decide) (by omega)

theorem calculateStartTimeInterval_eq_tomorrow {second : ℤ} :
    calculateStartTimeInterval second = "내일 시작" ↔ 86400 ≤ second ∧ second < 172800 := by
  rw [calculateStartTimeInterval]
  split_ifs with h₁ h₂ h₃ h₄
  · exact iff_of_false (by decide) (by omega)
  · exact iff_of_true rfl (by omega)
  · exact iff_of_false (daysLater_ne (by decide)) (by omega)
  · exact iff_of_false (by decide) (by omega)
  · exact iff_of_false (by decide) (by omega)

theorem calculateStartTimeInterval_eq_later {second n : ℤ} (hn : 2 ≤ n) :
    calculateStartTimeInterval second = s!"{n}일 뒤" ↔ second / 86400 = n := by
  rw [calculateStartTimeInterval]
  split_ifs with h₁ h₂ h₃ h₄
  · exact iff_of_false (daysLater_ne (by decide)).symm (by omega)
  · exact iff_of_false (daysLater_ne (by decide)).symm (by omega)
  · exact toString_int_append_inj
  · exact iff_of_false (daysLater_ne (by decide)).symm (by omega)
  · exact iff_of_false (daysLater_ne (by decide)).symm (by omega)

/-- **What has to be left for the label to name the day.** -/
theorem namesStart_iff {second n : ℤ} (hn : 0 ≤ n) :
    NamesStart n (calculateStartTimeInterval second) ↔ 60 ≤ second ∧ second / 86400 = n := by
  constructor
  · intro h
    rcases (by omega : n = 0 ∨ n = 1 ∨ 2 ≤ n) with rfl | rfl | htwo
    · have := calculateStartTimeInterval_eq_today.mp (h.today rfl)
      omega
    · have := calculateStartTimeInterval_eq_tomorrow.mp (h.tomorrow rfl)
      omega
    · have := (calculateStartTimeInterval_eq_later htwo).mp (h.later htwo)
      omega
  · rintro ⟨hmin, rfl⟩
    have htoday := @calculateStartTimeInterval_eq_today second
    have htomorrow := @calculateStartTimeInterval_eq_tomorrow second
    refine ⟨fun h => htoday.mpr (by omega), fun h => htomorrow.mpr (by omega),
      fun h => (calculateStartTimeInterval_eq_later h).mpr rfl, ?_⟩
    intro hempty
    rw [calculateStartTimeInterval] at hempty
    split_ifs at hempty with h₁ h₂ h₃ h₄
    · exact absurd hempty (by decide)
    · exact absurd hempty (by decide)
    · exact daysLater_ne (by decide) hempty
    · exact absurd hempty (by decide)
    · omega

/-- The present before Christ, written without its era, is the date of the start, and not at a
later time of day. -/
def WrittenAsStart (o now start : ℤ) : Prop :=
  (dayOf ((TimeZone.fixed o).fields now)).Valid ∧
    writtenDay (TimeZone.fixed o) now = (TimeZone.fixed o).day start ∧
    (start - now) / 86400 = (TimeZone.fixed o).day start - (TimeZone.fixed o).day now

/-- **When the label names the day of a start to come**: while the present is in the common
era, exactly if the start is not today in less than a minute. Before Christ only a start of
the same date will do, as written without the era. -/
theorem start_day_named_iff (hread : readStartDate (TimeZone.fixed o) time = some start)
    (hlater : now < start) :
    (∃ label, calculateStartTime (TimeZone.fixed o) now time = some label ∧
        NamesStart ((TimeZone.fixed o).day start - (TimeZone.fixed o).day now) label) ↔
      (InCommonEra (TimeZone.fixed o) now ∧
        ((TimeZone.fixed o).day start = (TimeZone.fixed o).day now → 60 ≤ start - now)) ∨
      (¬InCommonEra (TimeZone.fixed o) now ∧ WrittenAsStart o now start) := by
  have hmono := day_fixed_mono (o := o) hlater.le
  have hlabel := calculateStartTime_eq now hread
  have hsome : ∀ (x : String) (P : String → Prop),
      (∃ label, some x = some label ∧ P label) ↔ P x := by simp
  by_cases hera : InCommonEra (TimeZone.fixed o) now
  · obtain ⟨hvalid, hday⟩ := writtenDay_of_inCommonEra hera
    rw [if_pos hvalid, hday] at hlabel
    rw [hlabel, hsome, namesStart_iff (by omega), countedSecond_eq, and_iff_right hera,
      or_iff_left fun h => h.1 hera]
    split_ifs with hsame hbefore
    · have hshort := sub_lt_of_day_eq hsame
      omega
    · omega
    · omega
  · rw [and_iff_right hera, or_iff_right fun h => hera h.1, WrittenAsStart]
    by_cases hvalid : (dayOf ((TimeZone.fixed o).fields now)).Valid
    · have hlate := day_lt_writtenDay hera hvalid
      rw [if_pos hvalid] at hlabel
      rw [hlabel, hsome, namesStart_iff (by omega), countedSecond_eq, and_iff_right hvalid]
      split_ifs with hsame hbefore
      · omega
      · omega
      · omega
    · rw [if_neg hvalid] at hlabel
      rw [hlabel]
      refine iff_of_false ?_ fun h => hvalid h.1
      rintro ⟨label, hnone, -⟩
      exact absurd hnone (by simp)

/-- **The last half minute**: the room starts today, at eight, and the label is empty. -/
theorem lastHalfMinute_empty :
    readStartDate (TimeZone.fixed 32400) Navigation.openRoom.startDate = some 1633086000 ∧
      calculateStartTime (TimeZone.fixed 32400) 1633085970 Navigation.openRoom.startDate =
        some "" ∧
      ¬∃ label, calculateStartTime (TimeZone.fixed 32400) 1633085970
            Navigation.openRoom.startDate = some label ∧
          NamesStart ((TimeZone.fixed 32400).day 1633086000 -
            (TimeZone.fixed 32400).day 1633085970) label := by
  have hempty : calculateStartTime (TimeZone.fixed 32400) 1633085970
      Navigation.openRoom.startDate = some "" := by decide
  refine ⟨by decide, hempty, ?_⟩
  rintro ⟨label, hlabel, hnames⟩
  rw [hempty] at hlabel
  exact hnames.nonempty (Option.some.inj hlabel).symm

/-- Half a minute earlier the label says that it starts today. -/
theorem lastMinute_today :
    ∃ label, calculateStartTime (TimeZone.fixed 32400) 1633085940
          Navigation.openRoom.startDate = some label ∧
        NamesStart ((TimeZone.fixed 32400).day 1633086000 -
          (TimeZone.fixed 32400).day 1633085940) label := by
  have hread : readStartDate (TimeZone.fixed 32400) Navigation.openRoom.startDate =
      some 1633086000 := by decide
  refine (start_day_named_iff hread (by decide)).mpr (Or.inl ⟨by decide, fun _ => by decide⟩)

end Joinus
