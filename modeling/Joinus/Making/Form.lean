import Joinus.Base.Run
import Joinus.Clock
import Joinus.MyInfo
import Joinus.Tier

/-!
# The form for a new room

The form has its widgets, which are made when it is opened, and its values, which
are in the shared `MakeMatchingModel` and stay there when it is left. Most handlers
write both. What they write is followed here handler by handler: a state is the
form and the model (`Joinus.FormState`), a step is one tap, one edit or one closed
dialog (`Joinus.FormState.step`).

Some of the widgets get their values at once when the form is opened, from subjects
that begin with a value: the count shows `1`, the date shows *today*, the tiers show
that all are welcome. The model is not touched by this.

The tier screen lies over the form. While it is on top, its buttons are the only
ones that can be tapped.
-/

namespace Joinus

open Base

/-! ### The model -/

/-- `MakeMatchingModel`. -/
@[ext]
structure MakeMatchingModel where
  roomTitle : String
  countJoinPeople : ℤ
  selectedGame : String
  startGameDate : String
  isVoiceChat : Bool
  lowestTier : ℤ
  highestTier : ℤ
  deriving DecidableEq

/-- `MakeMatchingModel` at launch. -/
def MakeMatchingModel.initial : MakeMatchingModel where
  roomTitle := ""
  countJoinPeople := 1
  selectedGame := ""
  startGameDate := ""
  isVoiceChat := false
  lowestTier := 0
  highestTier := 7

/-- `MakeMatchingModel.initialized`. -/
def MakeMatchingModel.initialized (_ : MakeMatchingModel) : MakeMatchingModel where
  roomTitle := ""
  countJoinPeople := 1
  selectedGame := ""
  startGameDate := ""
  isVoiceChat := false
  lowestTier := 0
  highestTier := 7

@[simp] theorem initialized_eq (m : MakeMatchingModel) : m.initialized = .initial := rfl

/-- The parameters of `RoomService.postRoom`. -/
structure PostRoom where
  gameName : String
  highestTier : ℤ
  lowestTier : ℤ
  peopleNumber : ℤ
  roomName : String
  startDate : String
  userPk : ℤ
  voiceChat : Bool
  deriving DecidableEq

/-- `RoomService.postRoom`: what it sends. The two tiers change places. -/
def postRoom (myPk : ℤ) (m : MakeMatchingModel) : PostRoom where
  gameName := "league of legends"
  highestTier := m.lowestTier
  lowestTier := m.highestTier
  peopleNumber := m.countJoinPeople
  roomName := m.roomTitle
  startDate := m.startGameDate
  userPk := myPk
  voiceChat := m.isVoiceChat

/-- `didTapMakeMatchingRoomButton`: a form with which the confirm button shows the
alert and sends nothing. -/
def MakeMatchingModel.Incomplete (m : MakeMatchingModel) : Prop :=
  m.roomTitle = "" ∨ m.countJoinPeople = 1 ∨ m.selectedGame = ""

instance (m : MakeMatchingModel) : Decidable m.Incomplete :=
  inferInstanceAs (Decidable (_ ∨ _ ∨ _))

/-- What a tap on the confirm button does: the alert, or a request. -/
def MakeMatchingModel.confirm (myPk : ℤ) (m : MakeMatchingModel) : Option PostRoom :=
  if m.Incomplete then none else some (postRoom myPk m)

/-! ### The form -/

/-- The widgets of the form and of the tier screen over it, as far as they change. -/
structure MakeMatchingForm where
  titleText : String
  clearHidden : Bool
  countLabel : String
  dateLabel : String
  tierLabel : String
  gameButton : MyGame → Bool
  possibilityButton : Bool
  impossibilityButton : Bool
  inputSmallestTierRange : ℤ
  inputLargestTierRange : ℤ
  tierScreen : Bool
  tierScreenLoaded : Bool
  smallestButton : TierTap → Bool
  largestButton : TierTap → Bool

/-- The label that `outputTierRange` is bound to. -/
def tierLabelText (smallest largest : ℤ) : String := rangeText (selectTierRange smallest largest)

/-- A form that has just been opened. -/
def MakeMatchingForm.opened (z : TimeZone) (now : Instant) : MakeMatchingForm where
  titleText := ""
  clearHidden := true
  countLabel := "1"
  dateLabel := dateToString z now
  tierLabel := tierLabelText (-1) (-1)
  gameButton := fun _ => false
  possibilityButton := false
  impossibilityButton := false
  inputSmallestTierRange := -1
  inputLargestTierRange := -1
  tierScreen := false
  tierScreenLoaded := false
  smallestButton := fun _ => false
  largestButton := fun _ => false

/-- An open form and the model. -/
structure FormState where
  form : MakeMatchingForm
  model : MakeMatchingModel

inductive FormAction where
  /-- The text field has been edited, and now has this text. -/
  | editTitle (text : String)
  /-- The clear button next to the text field. -/
  | clearTitle
  | countUp
  | countDown
  /-- The dialog with the date picker, closed with its `okButton`. -/
  | setDate (date : Instant)
  /-- The same dialog, closed with its `cancelButton`. -/
  | cancelDate
  | chooseGame (game : MyGame)
  | possible
  | impossible
  /-- To the tier screen, and back. -/
  | openTiers
  | leaveTiers
  /-- The buttons of the tier screen. -/
  | smallest (tier : TierTap)
  | largest (tier : TierTap)

namespace FormState

/-! ### The handlers -/

/-- `editedRoomTitle`, when the text has been edited. -/
def editedRoomTitle (s : FormState) (title : String) : FormState where
  form := { s.form with titleText := title, clearHidden := decide (title.length = 0) }
  model := { s.model with roomTitle := title }

/-- `editedRoomTitle`, when the clear button is tapped. -/
def clearRoomTitle (s : FormState) : FormState :=
  { s with form := { s.form with titleText := "", clearHidden := true } }

/-- `MakeMatchingViewModel.countJoinPeople`, upwards. -/
def countUp (n : ℤ) : ℤ := if n ≥ 4 then 4 else n + 1

/-- `MakeMatchingViewModel.countJoinPeople`, downwards. -/
def countDown (n : ℤ) : ℤ := if n ≤ 1 then 1 else n - 1

/-- `didTapCountButton`: the new count goes to the model, and its text to the
label. -/
def setCount (s : FormState) (n : ℤ) : FormState where
  form := { s.form with countLabel := toString n }
  model := { s.model with countJoinPeople := n }

/-- `didTapSetGameStartDateButton`. -/
def didTapSetGameStartDateButton (z : TimeZone) (s : FormState) (date : Instant) : FormState where
  form := { s.form with dateLabel := dateToString z date }
  model := { s.model with startGameDate := Date.toString z date }

/-- `didTapGameButton`. -/
def didTapGameButton (s : FormState) (game : MyGame) : FormState where
  form := { s.form with gameButton := fun g => g = game }
  model := { s.model with selectedGame := game.rawValue }

/-- `didTapVoiceChatButton`. -/
def didTapVoiceChatButton (s : FormState) (possible : Bool) : FormState where
  form := { s.form with possibilityButton := possible, impossibilityButton := !possible }
  model := { s.model with isVoiceChat := possible }

/-- `didTapChangeTierRangeButton`, with the tier screen's `initTierRange` the first
time it is shown. -/
def didTapChangeTierRangeButton (s : FormState) : FormState :=
  -- a model with other tiers leaves the buttons of a new tier screen unselected
  if ¬s.form.tierScreenLoaded ∧ s.model.lowestTier = 0 ∧ s.model.highestTier = 7 then
    { s with
      form :=
        { s.form with
          tierScreen := true
          tierScreenLoaded := true
          smallestButton := fun t => t = .allTier
          largestButton := fun t => t = .allTier } }
  else { s with form := { s.form with tierScreen := true, tierScreenLoaded := true } }

/-- `didTapSmallestTierRangeButton`. -/
def didTapSmallestTierRangeButton (s : FormState) (tier : TierTap) : FormState where
  form :=
    { s.form with
      inputSmallestTierRange := tier.rawValue
      tierLabel := tierLabelText tier.rawValue s.form.inputLargestTierRange
      smallestButton := fun t => t = tier }
  model := { s.model with lowestTier := if tier = .allTier then 0 else tier.rawValue }

/-- `didTapLargestTierRangeButton`. -/
def didTapLargestTierRangeButton (s : FormState) (tier : TierTap) : FormState where
  form :=
    { s.form with
      inputLargestTierRange := tier.rawValue
      tierLabel := tierLabelText s.form.inputSmallestTierRange tier.rawValue
      largestButton := fun t => t = tier }
  model := { s.model with highestTier := if tier = .allTier then 7 else tier.rawValue }

/-- What an action does where it is offered. -/
def act (z : TimeZone) (s : FormState) : FormAction → FormState
  | .editTitle text => s.editedRoomTitle text
  | .clearTitle => s.clearRoomTitle
  | .countUp => s.setCount (countUp s.model.countJoinPeople)
  | .countDown => s.setCount (countDown s.model.countJoinPeople)
  | .setDate date => s.didTapSetGameStartDateButton z date
  | .cancelDate => s
  | .chooseGame game => s.didTapGameButton game
  | .possible => s.didTapVoiceChatButton true
  | .impossible => s.didTapVoiceChatButton false
  | .openTiers => s.didTapChangeTierRangeButton
  | .leaveTiers => { s with form := { s.form with tierScreen := false } }
  | .smallest tier => s.didTapSmallestTierRangeButton tier
  | .largest tier => s.didTapLargestTierRangeButton tier

/-- Where an action is offered: the buttons of the tier screen while it is on top,
all others while it is not; the clear button when it is not hidden. -/
def offered (s : FormState) : FormAction → Bool
  | .leaveTiers => s.form.tierScreen
  | .smallest _ => s.form.tierScreen
  | .largest _ => s.form.tierScreen
  | .clearTitle => !s.form.tierScreen && !s.form.clearHidden
  | _ => !s.form.tierScreen

def step (z : TimeZone) (s : FormState) (a : FormAction) : Option FormState :=
  if s.offered a then some (s.act z a) else none

theorem step_eq_some {z : TimeZone} {s t : FormState} {a : FormAction} :
    s.step z a = some t ↔ s.offered a = true ∧ t = s.act z a := by
  rw [step]
  split_ifs with h
  · rw [Option.some.injEq, eq_comm]
    exact (and_iff_right h).symm
  · exact iff_of_false nofun fun hc => h hc.1

/-- **Opening the tier screen** touches the widgets of that screen, and nothing else. -/
theorem act_openTiers (z : TimeZone) (s : FormState) :
    ∃ smallest largest, s.act z .openTiers =
      { s with
        form :=
          { s.form with
            tierScreen := true
            tierScreenLoaded := true
            smallestButton := smallest
            largestButton := largest } } := by
  rw [act, didTapChangeTierRangeButton]
  split_ifs
  · exact ⟨_, _, rfl⟩
  · exact ⟨s.form.smallestButton, s.form.largestButton, rfl⟩

end FormState

end Joinus
