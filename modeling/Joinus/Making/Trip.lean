import Joinus.Days
import Joinus.Making.Preview
import Joinus.Making.Sessions

/-!
# From the maker to the joiner

Two of the values of a form reach another user's Select screen and list: the range
of tiers, and the start date. Both leave through `postRoom`, come back with the
room as the server has stored them, and are turned into texts again on the other
side.

The tiers are posted under each other's names, the lowest as the highest and the
highest as the lowest. So the joiner is shown the range the other way round, which is
the same text only where there is nothing to turn round
(`Joinus.tier_text_arrives_iff`).

The start date is written with colons between hours, minutes and seconds, and read
with hyphens. It is never read (`Joinus.start_date_unreadable`) – neither a date that
was set, nor the empty text of a form on which none was. But its day alone, up to the
first space, is written and read alike, and a Select screen asks for no more: it shows the
day that is on the maker's form (`Joinus.start_day_arrives`, `Joinus.start_day_shown`).
-/

namespace Joinus

open Base

/-! ### The tiers -/

/-- `SelectJoinGameViewController.setupView`: the tier text of a room. -/
def tierTextOfRoom (room : GetRoomInfo) : String :=
  rangeText (selectTierRange room.lowestTier room.highestTier)

/-- The last choice on either side of the tier screen, if there has been one. -/
structure TierHistory where
  smallest : Option TierTap
  largest : Option TierTap
  deriving DecidableEq

def TierHistory.note (h : TierHistory) : FormAction → TierHistory
  | .smallest tier => { h with smallest := some tier }
  | .largest tier => { h with largest := some tier }
  | _ => h

/-- The choices made on a form. -/
def tierHistory (as : List FormAction) : TierHistory :=
  as.foldl TierHistory.note ⟨none, none⟩

/-- The tier a side of the form stands for: that of the last choice; where there is
none, the one the model had. -/
def tierAfter (before all : ℤ) : Option TierTap → ℤ
  | none => before
  | some tier => if tier = .allTier then all else tier.rawValue

theorem isTier_tierAfter {before all : ℤ} (hb : IsTier before) (ha : IsTier all) :
    ∀ choice, IsTier (tierAfter before all choice)
  | none => hb
  | some tier => by
    rw [tierAfter]
    split_ifs with h
    · exact ha
    · exact isTier_rawValue h

theorem tierAfter_of_ne {before all : ℤ} {choice : Option TierTap}
    (h : choice.getD .allTier ≠ .allTier) :
    tierAfter before all choice = (choice.getD .allTier).rawValue := by
  cases choice with
  | none => exact absurd rfl h
  | some tier => exact if_neg h

/-- **The invariant**: the subjects have the last choices, the label has their text,
the model has the tiers they stand for. -/
structure TierHistory.Explains (before : MakeMatchingModel) (h : TierHistory) (s : FormState) :
    Prop where
  smallest : s.form.inputSmallestTierRange = (h.smallest.getD .allTier).rawValue
  largest : s.form.inputLargestTierRange = (h.largest.getD .allTier).rawValue
  label : s.form.tierLabel =
    tierLabelText s.form.inputSmallestTierRange s.form.inputLargestTierRange
  lowest : s.model.lowestTier = tierAfter before.lowestTier 0 h.smallest
  highest : s.model.highestTier = tierAfter before.highestTier 7 h.largest

theorem tiers_explained_step {z : TimeZone} {before : MakeMatchingModel} (h : TierHistory)
    (s : FormState) (a : FormAction) (t : FormState) (hs : h.Explains before s)
    (hstep : s.step z a = some t) : (h.note a).Explains before t := by
  obtain ⟨-, rfl⟩ := FormState.step_eq_some.mp hstep
  cases a with
  | smallest tier => exact { hs with smallest := rfl, label := rfl, lowest := rfl }
  | largest tier => exact { hs with largest := rfl, label := rfl, highest := rfl }
  | openTiers =>
    obtain ⟨smallest, largest, hopened⟩ := FormState.act_openTiers z s
    rw [hopened]
    exact { hs with }
  | editTitle text => exact { hs with }
  | clearTitle => exact { hs with }
  | countUp => exact { hs with }
  | countDown => exact { hs with }
  | setDate date => exact { hs with }
  | cancelDate => exact hs
  | chooseGame game => exact { hs with }
  | possible => exact { hs with }
  | impossible => exact { hs with }
  | leaveTiers => exact { hs with }

/-- **When the range of tiers arrives**: a form is opened in any state the app can
be in, and used in any way. The Select screen of the room posted then shows the text
of the maker's form exactly when the last choices on both sides are the same – one
tier, or all tiers, which is also where a side has not been touched; and, if it is
all tiers, the tiers this leaves in the model are in order. -/
theorem tier_text_arrives_iff {z : TimeZone} {myPk : ℤ} {now : Instant} {s : MakingApp}
    {t : FormState} {history : List MakingAction} {as : List FormAction} {room : GetRoomInfo}
    (hs : run (MakingApp.step z myPk) .launched history = some s)
    (ht : run (FormState.step z) ⟨.opened z now, s.model⟩ as = some t)
    (hlowest : room.lowestTier = (postRoom myPk t.model).lowestTier)
    (hhighest : room.highestTier = (postRoom myPk t.model).highestTier) :
    tierTextOfRoom room = t.form.tierLabel ↔
      (tierHistory as).smallest.getD .allTier = (tierHistory as).largest.getD .allTier ∧
        ((tierHistory as).smallest.getD .allTier = .allTier →
          tierAfter s.model.lowestTier 0 (tierHistory as).smallest <
            tierAfter s.model.highestTier 7 (tierHistory as).largest) := by
  have hx : (tierHistory as).Explains s.model t :=
    run_invariant_foldl (P := TierHistory.Explains s.model) tiers_explained_step
      ⟨rfl, rfl, rfl, rfl, rfl⟩ ht
  obtain ⟨hl, hh⟩ := MakingApp.tiers_bounds hs
  rw [tierTextOfRoom, hlowest, hhighest, hx.label, hx.smallest, hx.largest]
  simp only [postRoom, hx.lowest, hx.highest]
  exact rangeText_swap_iff (isTier_tierAfter hl ⟨by decide, by decide⟩ _)
    (isTier_tierAfter hh ⟨by decide, by decide⟩ _) tierAfter_of_ne tierAfter_of_ne

/-- A room with the tiers that were posted. -/
def roomWithTiers (p : PostRoom) : GetRoomInfo :=
  ⟨7, p.roomName, p.gameName, p.peopleNumber, p.startDate, "", p.voiceChat, p.lowestTier,
    p.highestTier, 0, 1, p.userPk, 10, []⟩

/-- From silver to gold. -/
def silverToGold : List FormAction := [.openTiers, .smallest .silver, .largest .gold, .leaveTiers]

/-- Gold, and nothing else. -/
def goldOnly : List FormAction := [.openTiers, .smallest .gold, .largest .gold, .leaveTiers]

/-- **From silver to gold becomes all tiers.** -/
theorem silverToGold_lost :
    ∃ t, run (FormState.step (TimeZone.fixed 32400))
        ⟨.opened (TimeZone.fixed 32400) 0, .initial⟩ silverToGold = some t ∧
      t.form.tierLabel = "실버 이상 > 골드 이하" ∧
      tierTextOfRoom (roomWithTiers (postRoom 1 t.model)) = "모두 가능" :=
  ⟨_, rfl, by decide, by decide⟩

/-- Gold alone arrives. -/
theorem goldOnly_arrives :
    ∃ t, run (FormState.step (TimeZone.fixed 32400))
        ⟨.opened (TimeZone.fixed 32400) 0, MakingApp.launched.model⟩ goldOnly = some t ∧
      tierTextOfRoom (roomWithTiers (postRoom 1 t.model)) = t.form.tierLabel := by
  obtain ⟨t, ht⟩ := Option.isSome_iff_exists.mp
    (by decide : (run (FormState.step (TimeZone.fixed 32400))
      ⟨.opened (TimeZone.fixed 32400) 0, MakingApp.launched.model⟩ goldOnly).isSome = true)
  have hlaunched : run (MakingApp.step (TimeZone.fixed 32400) 1) .launched [] =
      some .launched := rfl
  exact ⟨t, ht, (tier_text_arrives_iff hlaunched ht rfl rfl).mpr (by decide)⟩

/-! ### The start date -/

/-- The characters of a posted start date. -/
theorem toList_toString_date (z : TimeZone) (t : Instant) :
    (Date.toString z t).toList =
      pad 4 (z.fields t).year ++ '-' :: (pad 2 (z.fields t).month ++ '-' ::
        (pad 2 (z.fields t).day ++ ' ' :: (pad 2 (z.fields t).hour ++ ':' ::
          (pad 2 (z.fields t).minute ++ ':' :: (pad 2 (z.fields t).second ++ []))))) := by
  have hp : Pattern.ofFormat "yyyy-MM-dd HH:mm:ss".toList =
      [.num .year 4, .lit '-', .num .month 2, .lit '-', .num .day 2, .lit ' ', .num .hour 2,
        .lit ':', .num .minute 2, .lit ':', .num .second 2] := by decide
  rw [Date.toString, DateFormatter.string, DateFormatter.stringOfFields, DateFormatter.pattern,
    hp, String.toList_ofList]
  rfl

/-- A date is written up to its hour as the reader expects it, and then goes on with
a colon instead of a hyphen. -/
theorem readStartDate_toString (z z' : TimeZone) (t : Instant) :
    readStartDate z' (Date.toString z t) = none := by
  have hp : Pattern.ofFormat "yyyy-MM-dd HH-mm-ss".toList =
      [.num .year 4, .lit '-', .num .month 2, .lit '-', .num .day 2, .lit ' ', .num .hour 2,
        .lit '-', .num .minute 2, .lit '-', .num .second 2] := by decide
  have hends : ∀ (c : Char) (s : List Char), c.isDigit = false → EndsDigits (c :: s) :=
    fun _ _ hc => hc
  rw [readStartDate, DateFormatter.date, DateFormatter.pattern, hp, toList_toString_date,
    Pattern.read_num_pad (hends _ _ (by decide)) le_rfl, Pattern.read_lit_cons,
    Pattern.read_num_pad (hends _ _ (by decide)) le_rfl, Pattern.read_lit_cons,
    Pattern.read_num_pad (hends _ _ (by decide)) le_rfl, Pattern.read_lit_cons,
    -- the hour is read, and then a hyphen is wanted where a colon stands
    Pattern.read_num_pad (hends _ _ (by decide)) le_rfl, Pattern.read_lit_of_ne (by decide)]

theorem readStartDate_empty (z : TimeZone) : readStartDate z "" = none := by
  have hread : (Pattern.ofFormat "yyyy-MM-dd HH-mm-ss".toList).read "".toList defaultFields =
      none := by decide
  rw [readStartDate, DateFormatter.date, DateFormatter.pattern, hread]

/-- `calculateStartTime` does not survive a start date that cannot be read. -/
theorem calculateStartTime_eq_none {z : TimeZone} {currentDate : Instant} {time : String}
    (h : readStartDate z time = none) : calculateStartTime z currentDate time = none := by
  simp [calculateStartTime, h]

/-- **No posted start date can be read**: whatever has happened in the app, the
start date `postRoom` would send is not a date to any reader, and the label made of
it fails in a forced unwrap. -/
theorem start_date_unreadable {z : TimeZone} {myPk : ℤ} {s : MakingApp}
    {history : List MakingAction}
    (hs : run (MakingApp.step z myPk) .launched history = some s)
    (reader : TimeZone) (currentDate : Instant) :
    readStartDate reader (postRoom myPk s.model).startDate = none ∧
      calculateStartTime reader currentDate (postRoom myPk s.model).startDate = none := by
  have hread : readStartDate reader (postRoom myPk s.model).startDate = none := by
    rcases MakingApp.startGameDate_cases hs with hempty | ⟨date, hdate⟩
    · rw [postRoom, hempty]
      exact readStartDate_empty reader
    · rw [postRoom, hdate]
      exact readStartDate_toString z reader date
  exact ⟨hread, calculateStartTime_eq_none hread⟩

/-- A room for the second of January 1970, posted. -/
def postedWithDate : List MakingAction :=
  [.openForm 0, .edit (.editTitle "tonight"), .edit .countUp, .edit (.chooseGame .lol),
    .edit (.setDate 86400), .confirm]

/-- **The date that was picked is posted, and not read.** -/
theorem postedWithDate_unreadable :
    ∃ s, run (MakingApp.step (TimeZone.fixed 32400) 1) .launched postedWithDate = some s ∧
      s.posted.map (fun p => p.2.startDate) = ["1970-01-02 09:00:00"] ∧
      calculateStartTime (TimeZone.fixed 32400) 0 "1970-01-02 09:00:00" = none :=
  ⟨_, rfl, by decide, by decide⟩

/-- The same by the general result. -/
theorem postedWithDate_crashes :
    ∃ s, run (MakingApp.step (TimeZone.fixed 32400) 1) .launched postedWithDate = some s ∧
      calculateStartTime (TimeZone.fixed 32400) 0 (postRoom 1 s.model).startDate = none := by
  obtain ⟨s, hs⟩ := Option.isSome_iff_exists.mp
    (by decide : (run (MakingApp.step (TimeZone.fixed 32400) 1) .launched
      postedWithDate).isSome = true)
  exact ⟨s, hs, (start_date_unreadable hs _ 0).2⟩

/-! ### The start day -/

/-- What is read off a posted start date, up to its first space, is the midnight of its
day. -/
theorem toDate_firstComponent_toString {z : TimeZone} {date : Instant} (h : InCommonEra z date) :
    String.toDate z (firstComponent (Date.toString z date)) =
      some (z.instant (z.day date * 86400)) := by
  obtain ⟨hvalid, hday⟩ := writtenDay_of_inCommonEra h
  rw [String.toDate, firstComponent_toString, ← firstComponent_string, date_firstComponent_string,
    if_pos hvalid, hday]

/-- A form shows the day of a date, and nothing else of it. -/
theorem dateToString_congr {z : TimeZone} {t u : Instant}
    (h : dayOf (z.fields t) = dayOf (z.fields u)) : dateToString z t = dateToString z u := by
  have hp : Pattern.ofFormat "yyyy년 M월 dd일".toList =
      [.num .year 4, .lit '년', .lit ' ', .num .month 1, .lit '월', .lit ' ', .num .day 2,
        .lit '일'] := by decide
  obtain ⟨hyear, hmonth, hday⟩ := CivilDate.ext_iff.mp h
  rw [dateToString, dateToString, DateFormatter.string, DateFormatter.string,
    DateFormatter.stringOfFields, DateFormatter.stringOfFields, DateFormatter.pattern, hp]
  refine congrArg String.ofList (Pattern.write_congr fun f w hmem => ?_)
  simp only [List.mem_cons, Piece.num.injEq, reduceCtorEq, List.not_mem_nil, false_or,
    or_false] at hmem
  rcases hmem with ⟨rfl, -⟩ | ⟨rfl, -⟩ | ⟨rfl, -⟩
  · exact Int.ofNat_inj.mp hyear
  · exact hmonth
  · exact hday

/-- The midnight of a day is shown as that day. -/
theorem dateToString_midnight {z : TimeZone} (hz : z.HasMidnights) {date : Instant}
    (h : InCommonEra z date) :
    dateToString z (z.instant (z.day date * 86400)) = dateToString z date := by
  have hday : z.day (z.instant (z.day date * 86400)) = z.day date := hz _
  have hmidnight : InCommonEra z (z.instant (z.day date * 86400)) := by
    rwa [InCommonEra, hday]
  refine dateToString_congr ?_
  rw [dayOf_fields hmidnight, dayOf_fields h, hday]

/-- **The start day arrives**: of a date of the common era, on a zone where every day
has a midnight, the Select screen shows the day that the maker's form shows, and its forced
unwrap does not fail. -/
theorem start_day_arrives {z : TimeZone} (hz : z.HasMidnights) {date : Instant}
    (hera : InCommonEra z date) :
    strDateToString z (Date.toString z date) = some (dateToString z date) := by
  rw [strDateToString, toDate_firstComponent_toString hera]
  exact congrArg some (dateToString_midnight hz hera)

/-- The twenty-ninth of February 2024, in Korea, two hours before its end. -/
theorem leapDay_arrives :
    strDateToString (TimeZone.fixed 32400) "2024-02-29 22:00:00" = some "2024년 2월 29일" := by
  have hposted : Date.toString (TimeZone.fixed 32400) 1709211600 = "2024-02-29 22:00:00" := by
    decide
  have hshown : dateToString (TimeZone.fixed 32400) 1709211600 = "2024년 2월 29일" := by decide
  rw [← hposted, ← hshown]
  exact start_day_arrives (hasMidnights_fixed 32400) (by decide)

/-- Form and model have the date that was set last, each in its own way of writing. -/
def FormHistory.Dated (z : TimeZone) (h : FormHistory) (s : FormState) : Prop :=
  ∀ date, h.startDate = some date →
    s.model.startGameDate = Date.toString z date ∧ s.form.dateLabel = dateToString z date

/-- Only the dialog with the date picker writes either of them. -/
theorem dated_step {z : TimeZone} (h : FormHistory) (s : FormState) (a : FormAction)
    (t : FormState) (hs : h.Dated z s) (hstep : s.step z a = some t) : (h.note a).Dated z t := by
  obtain ⟨-, rfl⟩ := FormState.step_eq_some.mp hstep
  cases a with
  | setDate date =>
    rintro other ⟨⟩
    exact ⟨rfl, rfl⟩
  | openTiers =>
    obtain ⟨smallest, largest, hopened⟩ := FormState.act_openTiers z s
    rw [hopened]
    exact hs
  | _ => exact hs

/-- **The maker and the joiner see one day**: a form is opened on any model and used in any
way, and a date has been set on it. The room that is then posted has, on a Select screen, the
day that is on the label of the form. -/
theorem start_day_shown {z : TimeZone} (hz : z.HasMidnights) {myPk : ℤ} {now date : Instant}
    {m : MakeMatchingModel} {t : FormState} {as : List FormAction} {room : GetRoomInfo}
    (ht : run (FormState.step z) ⟨.opened z now, m⟩ as = some t)
    (hdate : (formHistory as).startDate = some date) (hera : InCommonEra z date)
    (hroom : room.startDate = (postRoom myPk t.model).startDate) :
    strDateToString z room.startDate = some t.form.dateLabel := by
  have hdated : (formHistory as).Dated z t :=
    run_invariant_foldl dated_step (fun _ hnone => absurd hnone (by simp)) ht
  obtain ⟨hmodel, hlabel⟩ := hdated date hdate
  rw [hroom, postRoom, hmodel, hlabel, strDateToString, toDate_firstComponent_toString hera]
  exact congrArg some (dateToString_midnight hz hera)

end Joinus
