import Joinus.Making.Form

/-!
# What the form shows and what it would post

Between the widgets and the model there is no other tie than the handlers, and not
all of them write both. The count and the voice chat do. The clear button empties
the text field and leaves the model its title; the date label shows today before any
date has been set, when the model has no date yet; and the game that is posted is a
constant, whichever is highlighted.

So what is shown is what would be posted (`Joinus.FormState.Coupled`) after some
sequences of actions and not after others. The history of a form remembers what
matters (`Joinus.FormHistory`): whether the last thing done to the title was to
clear it, the last date set, the last game chosen.
-/

namespace Joinus

open Base

/-! ### Reading the texts back -/

/-- The day a text names, read along a format. -/
def dayIn (format text : String) : Option CivilDate :=
  ((Pattern.ofFormat format.toList).read text.toList defaultFields).map dayOf

/-- The day named by a posted start date. -/
def dayOfStartDate (text : String) : Option CivilDate := dayIn "yyyy-MM-dd HH:mm:ss" text

/-- The day named by the date label. -/
def dayOfLabel (text : String) : Option CivilDate := dayIn "yyyy년 M월 dd일" text

/-- A text written along a format that can be read names the day that was written. -/
theorem dayIn_string {format : String} {z : TimeZone} {t : Instant}
    (h : (Pattern.ofFormat format.toList).separated = true) :
    dayIn format (DateFormatter.string ⟨format, z⟩ t) =
      some (dayOf ((Pattern.ofFormat format.toList).copy (z.fields t) defaultFields)) := by
  rw [dayIn, DateFormatter.string, DateFormatter.stringOfFields, String.toList_ofList,
    DateFormatter.pattern, Pattern.read_write h, Option.map_some]

theorem dayOfStartDate_toString (z : TimeZone) (t : Instant) :
    dayOfStartDate (Date.toString z t) = some (dayOf (z.fields t)) :=
  dayIn_string (by decide)

theorem dayOfLabel_dateToString (z : TimeZone) (t : Instant) :
    dayOfLabel (dateToString z t) = some (dayOf (z.fields t)) :=
  dayIn_string (by decide)

/-- A text without a date names no day. -/
theorem dayOfStartDate_empty : dayOfStartDate "" = none := by
  decide

/-- The game a posted name stands for: the app has a name for one of them only. -/
def gameOfName (name : String) : Option MyGame :=
  if name = "league of legends" then some .lol else none

/-! ### The tie between form and model -/

/-- **What is on screen is what `postRoom` would send.** -/
structure FormState.Coupled (myPk : ℤ) (s : FormState) : Prop where
  room_name : (postRoom myPk s.model).roomName = s.form.titleText
  people_number : s.form.countLabel = toString (postRoom myPk s.model).peopleNumber
  start_date : ∃ day, dayOfStartDate (postRoom myPk s.model).startDate = some day ∧
    dayOfLabel s.form.dateLabel = some day
  voice_chat : (postRoom myPk s.model).voiceChat = true ↔ s.form.possibilityButton = true
  game_name : ∀ game, s.form.gameButton game = true →
    gameOfName (postRoom myPk s.model).gameName = some game

/-- What a history leaves behind: whether the last thing done to the title was to
clear it, the last date set, the last game chosen. -/
structure FormHistory where
  titleCleared : Bool
  startDate : Option Instant
  game : Option MyGame
  deriving DecidableEq

def FormHistory.note (h : FormHistory) : FormAction → FormHistory
  | .editTitle _ => { h with titleCleared := false }
  | .clearTitle => { h with titleCleared := true }
  | .setDate date => { h with startDate := some date }
  | .chooseGame game => { h with game := some game }
  | _ => h

/-- The history of the actions on a form. -/
def formHistory (as : List FormAction) : FormHistory :=
  as.foldl FormHistory.note ⟨false, none, none⟩

/-- **The invariant**: form and model, as far as the history determines them. The
clear button is only there next to a title that both of them have. -/
structure FormHistory.Explains (z : TimeZone) (h : FormHistory) (s : FormState) : Prop where
  count : s.form.countLabel = toString s.model.countJoinPeople
  voice : s.model.isVoiceChat = s.form.possibilityButton
  title : h.titleCleared = false → s.model.roomTitle = s.form.titleText
  cleared : h.titleCleared = true → s.form.titleText = "" ∧ s.model.roomTitle ≠ ""
  clearable : s.form.clearHidden = false → h.titleCleared = false ∧ s.form.titleText ≠ ""
  undated : h.startDate = none → s.model.startGameDate = ""
  dated : ∀ date, h.startDate = some date →
    s.model.startGameDate = Date.toString z date ∧ s.form.dateLabel = dateToString z date
  game : ∀ game, s.form.gameButton game = true ↔ h.game = some game

theorem explains_opened (z : TimeZone) (now : Instant) :
    FormHistory.Explains z ⟨false, none, none⟩ ⟨.opened z now, .initial⟩ where
  count := (by decide : "1" = toString (1 : ℤ))
  voice := rfl
  title _ := rfl
  cleared := nofun
  clearable := nofun
  undated _ := rfl
  dated := nofun
  game _ := iff_of_false nofun nofun

theorem explains_step {z : TimeZone} (h : FormHistory) (s : FormState) (a : FormAction)
    (t : FormState) (hs : h.Explains z s) (hstep : s.step z a = some t) :
    (h.note a).Explains z t := by
  obtain ⟨hoffered, rfl⟩ := FormState.step_eq_some.mp hstep
  cases a with
  | editTitle text =>
    refine { hs with title := fun _ => rfl, cleared := nofun, clearable := fun hc => ⟨rfl, ?_⟩ }
    have hlen : text.length ≠ 0 := of_decide_eq_false hc
    exact fun hempty => hlen (by rw [show text = "" from hempty]; rfl)
  | clearTitle =>
    have hshown : s.form.clearHidden = false := by
      simpa [FormState.offered] using (Bool.and_eq_true_iff.mp hoffered).2
    obtain ⟨hkept, hne⟩ := hs.clearable hshown
    exact { hs with
      title := nofun
      cleared := fun _ => ⟨rfl, fun htitle => hne ((hs.title hkept).symm.trans htitle)⟩
      clearable := nofun }
  | countUp => exact { hs with count := rfl }
  | countDown => exact { hs with count := rfl }
  | setDate date =>
    refine { hs with undated := nofun, dated := fun d hd => ?_ }
    obtain rfl := Option.some.inj hd
    exact ⟨rfl, rfl⟩
  | cancelDate => exact hs
  | chooseGame game =>
    refine { hs with game := fun g => ?_ }
    rw [FormHistory.note, Option.some.injEq, @eq_comm _ game]
    exact decide_eq_true_iff
  | possible => exact { hs with voice := rfl }
  | impossible => exact { hs with voice := rfl }
  | openTiers =>
    obtain ⟨smallest, largest, hopened⟩ := FormState.act_openTiers z s
    rw [hopened]
    exact { hs with }
  | leaveTiers => exact { hs with }
  | smallest tier => exact { hs with }
  | largest tier => exact { hs with }

/-! ### Where the tie holds -/

section

variable {z : TimeZone} {h : FormHistory} {s : FormState} (hs : h.Explains z s) (myPk : ℤ)
include hs

/-- The title is that of the text field unless it has been cleared. -/
theorem room_name_iff :
    (postRoom myPk s.model).roomName = s.form.titleText ↔ h.titleCleared = false := by
  constructor
  · intro hname
    refine Bool.eq_false_iff.mpr ?_
    intro hcleared
    obtain ⟨hempty, hne⟩ := hs.cleared hcleared
    exact hne (hname.trans hempty)
  · exact hs.title

/-- The day is that of the label once there is a date. -/
theorem start_date_iff :
    (∃ day, dayOfStartDate (postRoom myPk s.model).startDate = some day ∧
      dayOfLabel s.form.dateLabel = some day) ↔ h.startDate ≠ none := by
  constructor
  · rintro ⟨day, hday, -⟩ hnone
    have hempty : (postRoom myPk s.model).startDate = "" := hs.undated hnone
    rw [hempty, dayOfStartDate_empty] at hday
    exact absurd hday nofun
  · intro hne
    obtain ⟨date, hdate⟩ := Option.ne_none_iff_exists'.mp hne
    obtain ⟨hstart, hlabel⟩ := hs.dated date hdate
    have hposted : (postRoom myPk s.model).startDate = Date.toString z date := hstart
    refine ⟨dayOf (z.fields date), ?_, ?_⟩
    · rw [hposted, dayOfStartDate_toString]
    · rw [hlabel, dayOfLabel_dateToString]

/-- The game is the highlighted one if that is the one the app has a name for. -/
theorem game_name_iff :
    (∀ game, s.form.gameButton game = true →
      gameOfName (postRoom myPk s.model).gameName = some game) ↔
      h.game = none ∨ h.game = some .lol := by
  constructor
  · intro hname
    cases hgame : h.game with
    | none => exact Or.inl rfl
    | some game =>
      have hposted : some MyGame.lol = some game := hname game ((hs.game game).mpr hgame)
      exact Or.inr hposted.symm
  · rintro (hnone | hlol) game hg
    · exact absurd (hnone.symm.trans ((hs.game game).mp hg)) nofun
    · exact hlol.symm.trans ((hs.game game).mp hg)

end

/-- **When the form shows what it would post**: in a form opened on the initial
model, after any actions, exactly when the title has not been cleared since it was
last edited, a date has been set, and no other game than `lol` is chosen. -/
theorem coupled_iff {z : TimeZone} {now : Instant} {as : List FormAction} {s : FormState}
    (myPk : ℤ) (hr : run (FormState.step z) ⟨.opened z now, .initial⟩ as = some s) :
    s.Coupled myPk ↔ (formHistory as).titleCleared = false ∧ (formHistory as).startDate ≠ none ∧
      ((formHistory as).game = none ∨ (formHistory as).game = some .lol) := by
  have hs : (formHistory as).Explains z s :=
    run_invariant_foldl explains_step (explains_opened z now) hr
  constructor
  · intro hc
    exact ⟨(room_name_iff hs myPk).mp hc.room_name, (start_date_iff hs myPk).mp hc.start_date,
      (game_name_iff hs myPk).mp hc.game_name⟩
  · rintro ⟨htitle, hdate, hgame⟩
    have hvoice : (postRoom myPk s.model).voiceChat = s.form.possibilityButton := hs.voice
    exact
      { room_name := (room_name_iff hs myPk).mpr htitle
        people_number := hs.count
        start_date := (start_date_iff hs myPk).mpr hdate
        voice_chat := by rw [hvoice]
        game_name := (game_name_iff hs myPk).mpr hgame }

/-- A title typed and cleared again. -/
def typedAndCleared : List FormAction :=
  [.setDate 86400, .chooseGame .lol, .editTitle "tonight", .clearTitle]

/-- **The form shows no title, and would post one.** -/
theorem typedAndCleared_not_coupled :
    ∃ s, run (FormState.step (TimeZone.fixed 32400))
        ⟨.opened (TimeZone.fixed 32400) 0, .initial⟩ typedAndCleared = some s ∧
      s.form.titleText = "" ∧ (postRoom 1 s.model).roomName = "tonight" ∧ ¬s.Coupled 1 :=
  ⟨_, rfl, rfl, rfl, fun h => absurd h.room_name (by decide)⟩

/-- The same, and the title typed once more. -/
def typedAgain : List FormAction := typedAndCleared ++ [.editTitle "now", .possible]

/-- Now the title is on both sides. -/
theorem typedAgain_coupled :
    ∃ s, run (FormState.step (TimeZone.fixed 32400))
        ⟨.opened (TimeZone.fixed 32400) 0, .initial⟩ typedAgain = some s ∧ s.Coupled 1 := by
  obtain ⟨s, hs⟩ := Option.isSome_iff_exists.mp
    (by decide : (run (FormState.step (TimeZone.fixed 32400))
      ⟨.opened (TimeZone.fixed 32400) 0, .initial⟩ typedAgain).isSome = true)
  exact ⟨s, hs, (coupled_iff 1 hs).mpr (by decide)⟩

end Joinus
