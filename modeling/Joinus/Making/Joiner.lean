import Joinus.Making.Leftover
import Joinus.Making.Trip
import Joinus.Service.Decoders

/-!
# What the joiner is shown

A room goes from one form to many Select screens. The form writes it as an object of JSON
with eight keys; the server adds keys of its own, and the users; each reader decodes
fourteen keys, seven of which the form has written. Nothing in the app ties the names on the
one side to those on the other. This file goes all the way: from the widgets of the form
over the object (`Joinus.PostRoom.body`) and the decoder (`Joinus.GetRoomInfo.decode`) to
the labels of the Select screen (`Joinus.GetRoomInfo.setupView`).

An object that has what was posted and what the server adds, in any order, with anything
else in it, is decoded to a room with the values that were posted
(`Joinus.exists_decode_of_extends`): the three numbers among them are small, whatever has been
done to the form, so that they survive as integers of 64 bits. So a label of the joiner is
that of the maker if the form has written what it shows:

| label | as on the form |
|---|---|
| title | unless the title has been cleared since it was edited last |
| number of people | always |
| start date | always; but without a date the screen cannot be made |
| tiers | if the last choices on both sides are the same |
| voice chat | always |

The form may write what it shows, and a reply take it back: the last reply to a confirmation
resets the model under whichever form is open. So what has been said of the form by itself
(`Joinus.shown_of_form`) is said of a session of the app in which no such reply arrives before
the tap on the confirm button (`Joinus.MakingApp.joiner_shown_form`).
-/

namespace Joinus

open Base

/-! ### The object of a room -/

/-- The parameters of `postRoom`, as they are encoded. -/
def PostRoom.parameters (p : PostRoom) : List (String × Json) :=
  [("game_name", .string p.gameName), ("highest_tier", .ofInt p.highestTier),
    ("lowest_tier", .ofInt p.lowestTier), ("people_number", .ofInt p.peopleNumber),
    ("room_name", .string p.roomName), ("start_date", .string p.startDate),
    ("user_pk", .ofInt p.userPk), ("voice_chat", .bool p.voiceChat)]

/-- The object that is posted. -/
def PostRoom.body (p : PostRoom) : Json := .object p.parameters

/-- The keys of a room that are not posted with it: they are there, and decoded. -/
structure ServerKeys (j : Json) : Prop where
  roomPk : (j.decode Json.decodeInt "pk").isSome
  createdAt : (j.decode Json.decodeString "created_at").isSome
  isStart : (j.decode Json.decodeInt "is_start").isSome
  nowPeopleCnt : (j.decode Json.decodeInt "now_people_cnt").isSome
  leaderPk : (j.decode Json.decodeInt "leader_pk").isSome
  roomManner : (j.decode Json.decodeInt "room_manner").isSome
  userList : (j.decode (Json.decodeArray JoinUserInfo.decode) "user_list").isSome

/-- A room has the values of a request. -/
structure GetRoomInfo.Echoes (room : GetRoomInfo) (p : PostRoom) : Prop where
  roomName : room.roomName = p.roomName
  gameName : room.gameName = p.gameName
  peopleNumber : room.peopleNumber = p.peopleNumber
  startDate : room.startDate = p.startDate
  voiceChat : room.voiceChat = p.voiceChat
  lowestTier : room.lowestTier = p.lowestTier
  highestTier : room.highestTier = p.highestTier

/-- The numbers of a request are integers of 64 bits. -/
structure PostRoom.Fits (p : PostRoom) : Prop where
  peopleNumber : Json.IsInt64 p.peopleNumber
  lowestTier : Json.IsInt64 p.lowestTier
  highestTier : Json.IsInt64 p.highestTier

/-- A room that is decoded from an object with a request in it has the values of the
request. -/
theorem GetRoomInfo.echoes_of_decode {p : PostRoom} (hp : p.Fits) {j : Json}
    (hj : j.Extends p.body) {room : GetRoomInfo} (h : GetRoomInfo.decode j = some room) :
    room.Echoes p := by
  obtain ⟨hkeys, -⟩ := GetRoomInfo.decode_eq_some.mp h
  exact
    { roomName := Option.some.inj (hkeys.roomName.symm.trans (hj.decode rfl))
      gameName := Option.some.inj (hkeys.gameName.symm.trans (hj.decode rfl))
      peopleNumber := Option.some.inj
        (hkeys.peopleNumber.symm.trans (hj.decode (Json.decodeInt_ofInt hp.peopleNumber)))
      startDate := Option.some.inj (hkeys.startDate.symm.trans (hj.decode rfl))
      voiceChat := Option.some.inj (hkeys.voiceChat.symm.trans (hj.decode rfl))
      lowestTier := Option.some.inj
        (hkeys.lowestTier.symm.trans (hj.decode (Json.decodeInt_ofInt hp.lowestTier)))
      highestTier := Option.some.inj
        (hkeys.highestTier.symm.trans (hj.decode (Json.decodeInt_ofInt hp.highestTier))) }

/-- **A room comes back**: an object with a request in it, and with what the server adds,
is decoded to a room with the values of the request. -/
theorem exists_decode_of_extends {p : PostRoom} (hp : p.Fits) {j : Json}
    (hj : j.Extends p.body) (hown : ServerKeys j) :
    ∃ room, GetRoomInfo.decode j = some room ∧ room.Echoes p := by
  obtain ⟨roomPk, hroomPk⟩ := Option.isSome_iff_exists.mp hown.roomPk
  obtain ⟨createdAt, hcreatedAt⟩ := Option.isSome_iff_exists.mp hown.createdAt
  obtain ⟨isStart, hisStart⟩ := Option.isSome_iff_exists.mp hown.isStart
  obtain ⟨nowPeopleCnt, hnowPeopleCnt⟩ := Option.isSome_iff_exists.mp hown.nowPeopleCnt
  obtain ⟨leaderPk, hleaderPk⟩ := Option.isSome_iff_exists.mp hown.leaderPk
  obtain ⟨roomManner, hroomManner⟩ := Option.isSome_iff_exists.mp hown.roomManner
  obtain ⟨userList, huserList⟩ := Option.isSome_iff_exists.mp hown.userList
  have hroom : GetRoomInfo.decode j = some
      ⟨roomPk, p.roomName, p.gameName, p.peopleNumber, p.startDate, createdAt, p.voiceChat,
        p.lowestTier, p.highestTier, isStart, nowPeopleCnt, leaderPk, roomManner, userList⟩ :=
    GetRoomInfo.decode_eq_some.mpr
      ⟨{ roomPk := hroomPk
         roomName := hj.decode rfl
         gameName := hj.decode rfl
         peopleNumber := hj.decode (Json.decodeInt_ofInt hp.peopleNumber)
         startDate := hj.decode rfl
         createdAt := hcreatedAt
         voiceChat := hj.decode rfl
         lowestTier := hj.decode (Json.decodeInt_ofInt hp.lowestTier)
         highestTier := hj.decode (Json.decodeInt_ofInt hp.highestTier)
         isStart := hisStart
         nowPeopleCnt := hnowPeopleCnt
         leaderPk := hleaderPk
         roomManner := hroomManner }, huserList⟩
  exact ⟨_, hroom, GetRoomInfo.echoes_of_decode hp hj hroom⟩

/-! ### The labels -/

/-- The labels of a `JoinGameView` that its screen writes. -/
structure JoinGameLabels where
  title : String
  joinPeople : String
  startGameDate : String
  tierOfStandard : String
  voiceChatCheck : String
  deriving DecidableEq

/-- `SelectJoinGameViewController.setupView`; a start date without a day in it is unwrapped
by force. -/
def GetRoomInfo.setupView (z : TimeZone) (room : GetRoomInfo) : Option JoinGameLabels := do
  let joinPeople := s!"{room.userList.length}/{room.peopleNumber}"
  let startGameDate ← strDateToString z room.startDate
  return ⟨room.roomName, joinPeople, startGameDate, tierTextOfRoom room, toString room.voiceChat⟩

theorem GetRoomInfo.setupView_eq_some {z : TimeZone} {room : GetRoomInfo}
    {labels : JoinGameLabels} :
    room.setupView z = some labels ↔
      ∃ day, strDateToString z room.startDate = some day ∧
        labels = ⟨room.roomName, s!"{room.userList.length}/{room.peopleNumber}", day,
          tierTextOfRoom room, toString room.voiceChat⟩ := by
  constructor
  · intro h
    obtain ⟨day, hday, hlabels⟩ := Option.bind_eq_some_iff.mp h
    exact ⟨day, hday, (Option.some.inj hlabels).symm⟩
  · rintro ⟨day, hday, rfl⟩
    exact Option.bind_eq_some_iff.mpr ⟨day, hday, rfl⟩

/-- The day of a start date that is missing is not there. -/
theorem strDateToString_empty (z : TimeZone) : strDateToString z "" = none := by
  have hread : dayPattern.read (firstComponent "").toList defaultFields = none := by decide
  rw [strDateToString, String.toDate, DateFormatter.date, pattern_day, hread]

/-! ### From the form to the labels -/

/-- What an app would post is small, whatever has been done before. -/
theorem MakingApp.fits_postRoom {z : TimeZone} {myPk : ℤ} {s : MakingApp}
    {history : List MakingAction} (hr : run (MakingApp.step z myPk) .launched history = some s) :
    (postRoom myPk s.model).Fits := by
  obtain ⟨hone, hfour⟩ := MakingApp.count_bounds hr
  obtain ⟨⟨hlow₀, hlow₇⟩, hhigh₀, hhigh₇⟩ := MakingApp.tiers_bounds hr
  refine ⟨?_, ?_, ?_⟩ <;> simp only [Json.IsInt64, postRoom] <;> omega

/-- What a form that has been opened with the values of the launch would post, is small. -/
theorem FormState.fits_postRoom {z : TimeZone} {now : Instant} {t : FormState}
    {as : List FormAction} (ht : run (FormState.step z) ⟨.opened z now, .initial⟩ as = some t)
    (myPk : ℤ) : (postRoom myPk t.model).Fits := by
  -- the form is the first one of the app
  have hopen : MakingApp.step z myPk .launched (.openForm now) =
      some { MakingApp.launched with form := some (.opened z now), session := 1 } := rfl
  exact MakingApp.fits_postRoom ((run_cons_of_step hopen).trans (MakingApp.run_edits as rfl ht))

/-- **The labels of the joiner are those of the maker**, as far as the form has written what
it shows. -/
structure JoinGameLabels.Shows (labels : JoinGameLabels) (as : List FormAction)
    (f : MakeMatchingForm) (users : ℕ) : Prop where
  title : labels.title = f.titleText ↔ (formHistory as).titleCleared = false
  joinPeople : labels.joinPeople = s!"{users}/{f.countLabel}"
  startGameDate : labels.startGameDate = f.dateLabel
  tierOfStandard : labels.tierOfStandard = f.tierLabel ↔
    (tierHistory as).smallest.getD .allTier = (tierHistory as).largest.getD .allTier
  voiceChatCheck : labels.voiceChatCheck = toString f.possibilityButton

/-- **The tiers of a form that was opened with the values of the launch** are on the joiner's
label if the last choices are the same. -/
theorem tierLabel_iff {as : List FormAction} {t : FormState} {room : GetRoomInfo} {myPk : ℤ}
    (hx : (tierHistory as).Explains .initial t) (hroom : room.Echoes (postRoom myPk t.model)) :
    tierTextOfRoom room = t.form.tierLabel ↔
      (tierHistory as).smallest.getD .allTier = (tierHistory as).largest.getD .allTier := by
  have hzero : IsTier 0 := ⟨by decide, by decide⟩
  have hseven : IsTier 7 := ⟨by decide, by decide⟩
  rw [tierTextOfRoom, hroom.lowestTier, hroom.highestTier, hx.label, hx.smallest, hx.largest]
  simp only [postRoom, hx.lowest, hx.highest]
  refine (rangeText_swap_iff (isTier_tierAfter hzero hzero _) (isTier_tierAfter hseven hseven _)
    tierAfter_of_ne tierAfter_of_ne).trans (and_iff_left_of_imp fun hsame hall => ?_)
  -- all tiers are from `0` to `7`, chosen or not
  have hall' := hsame.symm.trans hall
  rcases hsmallest : (tierHistory as).smallest with - | smallest <;>
    rcases hlargest : (tierHistory as).largest with - | largest
  · decide
  · rw [hlargest, Option.getD_some] at hall'
    rw [hall']
    decide
  · rw [hsmallest, Option.getD_some] at hall
    rw [hall]
    decide
  · rw [hsmallest, Option.getD_some] at hall
    rw [hlargest, Option.getD_some] at hall'
    rw [hall, hall']
    decide

/-- **What the joiner is shown of a form**: a form is opened with the values of the launch and
edited in any way, and the server lists the room with what would be posted of it, and with keys
of its own that decode. Then the room is decoded; its Select screen can be made exactly if a
date has been set; and the labels are those of the form, but for a title that has been cleared
and for tiers that differ on the two sides. The zone has midnights, and a date that has been set
is of the common era. -/
theorem shown_of_form {z : TimeZone} (hz : z.HasMidnights) {myPk : ℤ} {now : Instant}
    {t : FormState} {as : List FormAction} {j : Json}
    (ht : run (FormState.step z) ⟨.opened z now, .initial⟩ as = some t)
    (hera : ∀ date, (formHistory as).startDate = some date → InCommonEra z date)
    (hj : j.Extends (postRoom myPk t.model).body) (hown : ServerKeys j) :
    ∃ room, GetRoomInfo.decode j = some room ∧
      ((room.setupView z).isSome ↔ (formHistory as).startDate ≠ none) ∧
      ∀ labels, room.setupView z = some labels → labels.Shows as t.form room.userList.length := by
  have hform : (formHistory as).Explains z t :=
    run_invariant_foldl explains_step (explains_opened z now) ht
  have htiers : (tierHistory as).Explains .initial t :=
    run_invariant_foldl (P := TierHistory.Explains .initial) tiers_explained_step
      ⟨rfl, rfl, rfl, rfl, rfl⟩ ht
  obtain ⟨room, hroom, hechoes⟩ :=
    exists_decode_of_extends (FormState.fits_postRoom ht myPk) hj hown
  -- the day is there if there is a date, and it is the day of the label
  have hday : ∀ date, (formHistory as).startDate = some date →
      strDateToString z room.startDate = some t.form.dateLabel := by
    intro date hdate
    obtain ⟨hmodel, hlabel⟩ := hform.dated date hdate
    have hstart : room.startDate = Date.toString z date := hechoes.startDate.trans hmodel
    rw [hstart, hlabel, strDateToString, toDate_firstComponent_toString (hera date hdate)]
    exact congrArg some (dateToString_midnight hz (hera date hdate))
  have hundated : (formHistory as).startDate = none →
      strDateToString z room.startDate = none := by
    intro hnone
    have hstart : room.startDate = "" := hechoes.startDate.trans (hform.undated hnone)
    rw [hstart, strDateToString_empty]
  refine ⟨room, hroom, ?_, ?_⟩
  · rcases hdate : (formHistory as).startDate with - | date
    · refine iff_of_false ?_ fun hne => hne rfl
      intro hsome
      obtain ⟨labels, hlabels⟩ := Option.isSome_iff_exists.mp hsome
      obtain ⟨day, hshown, -⟩ := GetRoomInfo.setupView_eq_some.mp hlabels
      exact absurd ((hundated hdate).symm.trans hshown) (by simp)
    · have hlabels := GetRoomInfo.setupView_eq_some.mpr ⟨_, hday date hdate, rfl⟩
      exact iff_of_true (Option.isSome_iff_exists.mpr ⟨_, hlabels⟩) (by simp)
  · intro labels hlabels
    obtain ⟨day, hshown, rfl⟩ := GetRoomInfo.setupView_eq_some.mp hlabels
    obtain ⟨date, hdate⟩ : ∃ date, (formHistory as).startDate = some date := by
      rcases hdate : (formHistory as).startDate with - | date
      · exact absurd ((hundated hdate).symm.trans hshown) (by simp)
      · exact ⟨date, rfl⟩
    have hpeople : room.peopleNumber = t.model.countJoinPeople := hechoes.peopleNumber
    have hvoice : room.voiceChat = t.model.isVoiceChat := hechoes.voiceChat
    exact
      { title := by
          rw [hechoes.roomName]
          exact room_name_iff hform myPk
        joinPeople := by rw [hpeople, hform.count]; rfl
        startGameDate := Option.some.inj (hshown.symm.trans (hday date hdate))
        tierOfStandard := tierLabel_iff htiers hechoes
        voiceChatCheck := by rw [hvoice, hform.voice] }

/-! ### From the app to the labels -/

namespace MakingApp

/-- A confirmation that posts a room posts that of the model. -/
theorem posted_of_confirm {z : TimeZone} {myPk : ℤ} {s t : MakingApp} {p : ℕ × PostRoom}
    (h : s.step z myPk .confirm = some t) (hp : t.posted = s.posted ++ [p]) :
    p.2 = postRoom myPk s.model := by
  obtain ⟨-, ⟨-, rfl⟩ | ⟨-, rfl⟩⟩ := step_confirm h
  · exact absurd hp (by simp)
  · obtain rfl := List.singleton_inj.mp (List.append_cancel_left hp)
    rfl

/-- **What the joiner is shown of what was posted**: a form is opened over the values of the
launch, and is edited and confirmed in any way, while replies arrive, none of which resets the
model; then it is confirmed and a room is posted, and the server lists it with what was posted
and with keys of its own that decode. The zone has midnights, and a date that has been set is of
the common era. Then the room is decoded; its Select screen can be made exactly if a date has
been set; and the labels are those of the form, but for a title that has been cleared and for
tiers that differ on the two sides. -/
theorem joiner_shown_form {z : TimeZone} (hz : z.HasMidnights) {myPk : ℤ} {now : Instant}
    {s t u : MakingApp} {as : List MakingAction} {p : ℕ × PostRoom} {j : Json}
    (hmodel : s.model = .initial) (has : ∀ a ∈ as, InSession a)
    (hr : run (step z myPk) s (.openForm now :: as) = some t)
    (hkept : Along (step z myPk) (fun u a => u.resetBy a = none) s (.openForm now :: as))
    (hera : ∀ date, (formHistory (as.flatMap MakingAction.edits)).startDate = some date →
      InCommonEra z date)
    (hconfirm : step z myPk t .confirm = some u) (hp : u.posted = t.posted ++ [p])
    (hj : j.Extends p.2.body) (hown : ServerKeys j) :
    ∃ f, t.form = some f ∧ ∃ room, GetRoomInfo.decode j = some room ∧
      ((room.setupView z).isSome ↔
        (formHistory (as.flatMap MakingAction.edits)).startDate ≠ none) ∧
      ∀ labels, room.setupView z = some labels →
        labels.Shows (as.flatMap MakingAction.edits) f room.userList.length := by
  obtain ⟨f, hf, ht⟩ := exists_form_of_session has hr hkept
  rw [hmodel] at ht
  rw [posted_of_confirm hconfirm hp] at hj
  exact ⟨f, hf, shown_of_form hz ht hera hj hown⟩

end MakingApp

/-- A room as the server lists it, with one user. -/
def listedRoom (p : PostRoom) : Json :=
  .object (p.parameters ++
    [("pk", .ofInt 12), ("created_at", .string "2024-02-28 09:00:00"), ("is_start", .ofInt 0),
      ("now_people_cnt", .ofInt 1), ("leader_pk", .ofInt 7), ("room_manner", .ofInt 3),
      ("user_list", .array [.object [("pk", .ofInt 7), ("age", .ofInt 25), ("gender", .ofInt 0),
        ("token", .string "109"), ("image_address", .string "a"), ("nickname", .string "Faker"),
        ("login", .bool true)]])])

theorem serverKeys_listedRoom (p : PostRoom) : ServerKeys (listedRoom p) :=
  ⟨rfl, rfl, rfl, rfl, rfl, rfl, rfl⟩

/-- A form for gold only, with voice chat, two hours before the end of the twenty-ninth of
February 2024. -/
def goldAtNight : List MakingAction :=
  [.edit (.editTitle "tonight"), .edit .countUp, .edit (.chooseGame .lol),
    .edit (.setDate 1709211600), .edit .openTiers, .edit (.smallest .gold),
    .edit (.largest .gold), .edit .leaveTiers, .edit .possible]

/-- **The joiner is shown all of it.** -/
theorem goldAtNight_shown :
    ∃ t u p, run (MakingApp.step (TimeZone.fixed 32400) 7) .launched
        (.openForm 0 :: goldAtNight) = some t ∧
      MakingApp.step (TimeZone.fixed 32400) 7 t .confirm = some u ∧ u.posted = [p] ∧
      ∃ f room labels, t.form = some f ∧ GetRoomInfo.decode (listedRoom p.2) = some room ∧
        room.setupView (TimeZone.fixed 32400) = some labels ∧ labels.title = "tonight" ∧
        labels.joinPeople = s!"{room.userList.length}/2" ∧
        labels.startGameDate = f.dateLabel ∧ labels.tierOfStandard = f.tierLabel ∧
        labels.voiceChatCheck = "true" := by
  obtain ⟨t, u, p, ht, hconfirm, hp, hlabels⟩ : ∃ t u p,
      run (MakingApp.step (TimeZone.fixed 32400) 7) .launched (.openForm 0 :: goldAtNight) =
        some t ∧
      MakingApp.step (TimeZone.fixed 32400) 7 t .confirm = some u ∧
      u.posted = t.posted ++ [p] ∧ u.posted = [p] ∧
      t.form.map (fun f => (f.titleText, f.countLabel, f.possibilityButton)) =
        some ("tonight", "2", true) :=
    ⟨_, _, _, rfl, rfl, rfl, rfl, by decide⟩
  obtain ⟨hposted, hwidgets⟩ := hlabels
  have hsession : ∀ a ∈ goldAtNight, MakingApp.InSession a := by
    simp [goldAtNight, MakingApp.InSession]
  have hkept : Along (MakingApp.step (TimeZone.fixed 32400) 7) (fun u a => u.resetBy a = none)
      .launched (.openForm 0 :: goldAtNight) :=
    along_of_forall (by simp [goldAtNight, MakingApp.resetBy])
  have hera : ∀ date, (formHistory (goldAtNight.flatMap MakingAction.edits)).startDate =
      some date → InCommonEra (TimeZone.fixed 32400) date := by
    rintro date ⟨⟩
    decide
  obtain ⟨f, hf, room, hroom, hmade, hshows⟩ := MakingApp.joiner_shown_form
    (hasMidnights_fixed 32400) rfl hsession ht hkept hera hconfirm hp (Json.extends_append _ _)
    (serverKeys_listedRoom _)
  obtain ⟨labels, hlabels⟩ := Option.isSome_iff_exists.mp (hmade.mpr (by decide))
  have hlabelled := hshows labels hlabels
  rw [hf, Option.map_some, Option.some.injEq, Prod.mk.injEq, Prod.mk.injEq] at hwidgets
  obtain ⟨htitle, hcount, hvoice⟩ := hwidgets
  refine ⟨t, u, p, ht, hconfirm, hposted, f, room, labels, hf, hroom, hlabels, ?_, ?_,
    hlabelled.startGameDate, ?_, ?_⟩
  · rw [hlabelled.title.mpr (by decide), htitle]
  · rw [hlabelled.joinPeople, hcount]
    exact String.append_assoc
  · exact hlabelled.tierOfStandard.mpr (by decide)
  · rw [hlabelled.voiceChatCheck, hvoice]
    rfl

end Joinus
