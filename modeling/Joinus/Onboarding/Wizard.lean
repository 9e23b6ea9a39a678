import Joinus.Base.Run
import Joinus.Onboarding.Login

/-!
# The wizard

Sign-in opens a navigation controller on the first of four steps, which ask for
gender and age, a game, a name in that game, and a tier; a screen for the profile
picture comes last, and its button opens the tab bar. Every screen makes the next one
when its own view loads, once: going back and forward again shows the same widgets.
Only going back from the first step leaves the wizard, for the login screen; the
next sign-in makes a new one. `MyInfoModel` is shared by all of this and outlives it.

What enables the button of a step is a subject of the step's `OnboardingViewModel`.
The subjects remember nothing but what was last sent to them, and the first step
waits for a gender *and* an age.

| screen | answers | stored in `MyInfoModel` |
|---|---|---|
| step 1 | gender, row of the wheel of ages | both, at once |
| step 2 | game | – |
| step 3 | name | when the toolbar's button is tapped |
| step 4 | tier | at once |
| profile | – | *when its view loads*: see `Joinus.MyInfoModel.profileDidTapNextButton` |

The wheel and the toolbars are taken to be at hand on their steps, as the other
widgets are. A sign-in is one step, from the tap to the last reply.
-/

namespace Joinus

/-! ### The view model -/

/-- `setNextButtonStatus`. -/
def setNextButtonStatus (gender age : ℤ) : Bool :=
  if age ≠ 0 then
    if gender = 0 ∨ gender = 1 then true else false
  else false

/-- `checkMyFavoriteGames`. -/
def checkMyFavoriteGames (game : String) : Bool := if game.isEmpty then false else true

/-- `inputGameID`, which is used for the tier as well. -/
def inputGameID (id : String) : Bool := if id.isEmpty then false else true

/-! ### The four steps -/

inductive Gender where
  | male
  | female
  deriving DecidableEq

/-- The number that is stored for a gender. -/
def Gender.myGender : Gender → ℤ
  | .male => 0
  | .female => 1

/-- `OnboardingModel.ages`. -/
def ages : List String := (List.range 51).map fun i => (toString (i + 20)).append "세"

/-- `OnboardingStep1ViewController`: the two gender buttons, the label of the age,
what was last sent to the two subjects, and the button. -/
structure Step1 where
  maleButton : Bool
  femaleButton : Bool
  buttonLabel : String
  selectGender : Option ℤ
  selectAge : Option ℤ
  nextButton : Bool
  deriving DecidableEq

/-- `OnboardingStep2ViewController`: at most one of its five buttons is selected. -/
structure Step2 where
  selected : Option MyGame
  nextButton : Bool
  deriving DecidableEq

/-- `OnboardingStep3ViewController`. -/
structure Step3 where
  gameIdInputtextField : String
  clearButtonHidden : Bool
  nextButton : Bool
  deriving DecidableEq

/-- `OnboardingStep4ViewController`: at most one of its eight buttons is selected. -/
structure Step4 where
  selected : Option MyTier
  nextButton : Bool
  deriving DecidableEq

/-- `combineLatest` in `bindCheckNextStep`: it sends when both subjects have sent. -/
def Step1.checkNextStep (s : Step1) : Step1 :=
  match s.selectGender, s.selectAge with
  | some gender, some age => { s with nextButton := setNextButtonStatus gender age }
  | _, _ => s

/-- `didTapSelectGenderButton`. -/
def Step1.didTapSelectGenderButton (s : Step1) (gender : Gender) : Step1 :=
  let maleSelect := gender = .male
  { s with
    maleButton := maleSelect
    femaleButton := !maleSelect
    selectGender := some gender.myGender }.checkNextStep

/-- The toolbar's button of confirmation, in `tapDoneButton`. -/
def Step1.tapDoneButton (s : Step1) (myAge : ℤ) : Step1 :=
  { s with
    buttonLabel := (toString myAge).append "세"
    selectAge := some myAge }.checkNextStep

/-- `didTapGameButton`. -/
def Step2.didTapGameButton (game : MyGame) : Step2 where
  selected := some game
  nextButton := checkMyFavoriteGames game.rawValue

/-- `popViewController` of step 2. -/
def Step2.popViewController : Step2 where
  selected := none
  nextButton := checkMyFavoriteGames ""

/-- `textFieldStatus`. -/
def Step3.textFieldStatus (text : String) : Step3 where
  gameIdInputtextField := text
  clearButtonHidden := text.isEmpty
  nextButton := inputGameID text

/-- `didTapClearButton`. -/
def Step3.didTapClearButton (s : Step3) : Step3 :=
  -- the subject is told nothing, and the button stays as it is
  { s with gameIdInputtextField := "", clearButtonHidden := true }

/-- `popViewController` of step 3. -/
def Step3.popViewController (s : Step3) : Step3 :=
  -- neither the subject is told, nor the clear button hidden
  { s with gameIdInputtextField := "" }

/-- `didTapTierButton`. -/
def Step4.didTapTierButton (tier : MyTier) : Step4 where
  selected := some tier
  nextButton := inputGameID tier.rawValue

/-- `popViewController` of step 4. -/
def Step4.popViewController : Step4 where
  selected := none
  nextButton := inputGameID ""

/-- The number that is stored for a tier. -/
def MyTier.selectTier : MyTier → ℤ
  | .iron => 0
  | .bronze => 1
  | .silver => 2
  | .gold => 3
  | .platinum => 4
  | .diamond => 5
  | .master => 6
  | .challenger => 7

/-! ### The profile screen -/

/-- What `didTapNextButton` of the profile screen does when it is called, which is in
`viewDidLoad`: the tap itself comes later. -/
def MyInfoModel.profileDidTapNextButton (info : MyInfoModel) : MyInfoModel :=
  { info with
    myAge := 25
    myGender := 0
    myGameID := "PreyIOS"
    subToken := "109112693255361562533"
    myGameName := "PreyIOS"
    gameInfoPk := 0
    myTier := 2
    myPk := 7 }

/-! ### The navigation -/

inductive Screen where
  | step1
  | step2
  | step3
  | step4
  | profile
  deriving DecidableEq

/-- The screens of one wizard, and which of them is on top. The profile screen has
nothing to remember but whether its view has been loaded. -/
structure Wizard where
  screen : Screen
  step1 : Step1
  step2 : Step2
  step3 : Step3
  step4 : Step4
  profileLoaded : Bool
  deriving DecidableEq

/-- A new wizard. The subjects behind the buttons start with `false`. -/
def Wizard.opened : Wizard where
  screen := .step1
  step1 := ⟨false, false, "나이를 선택해 주세요.", none, none, false⟩
  step2 := ⟨none, false⟩
  step3 := ⟨"", true, false⟩
  step4 := ⟨none, false⟩
  profileLoaded := false

inductive Window where
  | login
  | wizard (w : Wizard)
  | tabBar
  deriving DecidableEq

/-- How step 4 was left: with the profile screen loaded or not, and with which
values. -/
structure LeftStep4 where
  profileLoaded : Bool
  info : MyInfoModel
  deriving DecidableEq

/-- The app up to the tab bar. Nothing reads `left`, which is about the last time that
step 4 was left by its button. -/
structure Onboarding where
  info : MyInfoModel
  window : Window
  left : Option LeftStep4
  deriving DecidableEq

/-- The app after launch. -/
def Onboarding.launched : Onboarding := ⟨.initial, .login, none⟩

inductive OnboardingAction where
  /-- The button of the login screen, with the replies to come. -/
  | signIn (login : Reply GetLogin) (game : Reply (List GetGame)) (manner : Reply GetManner)
  | selectGender (gender : Gender)
  /-- The wheel of ages stops at a row. -/
  | didSelectRow (row : ℕ)
  /-- The toolbar of the wheel: confirmation. -/
  | confirmAge
  /-- The toolbar of the wheel: close. -/
  | closeAge
  | selectGame (game : MyGame)
  /-- The name is typed, or changed. -/
  | editGameID (text : String)
  | clearGameID
  /-- The toolbar of the name: confirmation. -/
  | confirmGameID
  | selectTier (tier : MyTier)
  | back
  | next

namespace Wizard

/-- An answer on the step that is on top; `none` if it is not offered there. -/
def answer (w : Wizard) (info : MyInfoModel) : OnboardingAction → Option (Wizard × MyInfoModel)
  | .selectGender gender =>
    if w.screen = .step1 then
      some ({ w with step1 := w.step1.didTapSelectGenderButton gender },
        { info with myGender := gender.myGender })
    else none
  | .didSelectRow row =>
    -- stored before the toolbar is tapped, and kept when it is closed
    if w.screen = .step1 ∧ row < ages.length then some (w, { info with myAge := row + 20 })
    else none
  | .confirmAge =>
    if w.screen = .step1 then some ({ w with step1 := w.step1.tapDoneButton info.myAge }, info)
    else none
  | .closeAge => if w.screen = .step1 then some (w, info) else none
  | .selectGame game =>
    if w.screen = .step2 then some ({ w with step2 := .didTapGameButton game }, info) else none
  | .editGameID text =>
    if w.screen = .step3 then some ({ w with step3 := .textFieldStatus text }, info) else none
  | .clearGameID =>
    if w.screen = .step3 ∧ w.step3.clearButtonHidden = false then
      some ({ w with step3 := w.step3.didTapClearButton }, info)
    else none
  | .confirmGameID =>
    if w.screen = .step3 then some (w, { info with myGameID := w.step3.gameIdInputtextField })
    else none
  | .selectTier tier =>
    if w.screen = .step4 then
      some ({ w with step4 := .didTapTierButton tier }, { info with myTier := tier.selectTier })
    else none
  | .signIn _ _ _ | .back | .next => none

end Wizard

namespace Wizard

/-- **What an answer does**, and where it is offered. -/
inductive Answered (w : Wizard) (info : MyInfoModel) :
    OnboardingAction → Wizard → MyInfoModel → Prop where
  | selectGender (gender : Gender) (hscreen : w.screen = .step1) :
    Answered w info (.selectGender gender)
      { w with step1 := w.step1.didTapSelectGenderButton gender }
      { info with myGender := gender.myGender }
  | didSelectRow (row : ℕ) (hscreen : w.screen = .step1) :
    Answered w info (.didSelectRow row) w { info with myAge := row + 20 }
  | confirmAge (hscreen : w.screen = .step1) :
    Answered w info .confirmAge { w with step1 := w.step1.tapDoneButton info.myAge } info
  | closeAge (hscreen : w.screen = .step1) : Answered w info .closeAge w info
  | selectGame (game : MyGame) (hscreen : w.screen = .step2) :
    Answered w info (.selectGame game) { w with step2 := .didTapGameButton game } info
  | editGameID (text : String) (hscreen : w.screen = .step3) :
    Answered w info (.editGameID text) { w with step3 := .textFieldStatus text } info
  | clearGameID (hscreen : w.screen = .step3) (hclear : w.step3.clearButtonHidden = false) :
    Answered w info .clearGameID { w with step3 := w.step3.didTapClearButton } info
  | confirmGameID (hscreen : w.screen = .step3) :
    Answered w info .confirmGameID w { info with myGameID := w.step3.gameIdInputtextField }
  | selectTier (tier : MyTier) (hscreen : w.screen = .step4) :
    Answered w info (.selectTier tier) { w with step4 := .didTapTierButton tier }
      { info with myTier := tier.selectTier }

/-- **What the way back does** to a wizard that is not given up. -/
inductive Popped (w : Wizard) : Wizard → Prop where
  | step2 (hscreen : w.screen = .step2) :
    Popped w { w with screen := .step1, step2 := .popViewController }
  | step3 (hscreen : w.screen = .step3) :
    Popped w { w with screen := .step2, step3 := w.step3.popViewController }
  | step4 (hscreen : w.screen = .step4) :
    Popped w { w with screen := .step3, step4 := .popViewController }
  | profile (hscreen : w.screen = .profile) : Popped w { w with screen := .step4 }

/-- **What the way on does** to a wizard that is not finished, and to the model. -/
inductive Pushed (w : Wizard) (info : MyInfoModel) : Wizard → MyInfoModel → Prop where
  | step1 (hscreen : w.screen = .step1) : Pushed w info { w with screen := .step2 } info
  | step2 (hscreen : w.screen = .step2) : Pushed w info { w with screen := .step3 } info
  | step3 (hscreen : w.screen = .step3) : Pushed w info { w with screen := .step4 } info
  | step4 (hscreen : w.screen = .step4) :
    Pushed w info { w with screen := .profile, profileLoaded := true }
      (if w.profileLoaded then info else info.profileDidTapNextButton)

/-- An answer stays on its screen, which is one of the four steps. -/
theorem Answered.screen {w w' : Wizard} {info info' : MyInfoModel} {a : OnboardingAction}
    (h : Answered w info a w' info') : w'.screen = w.screen ∧ w.screen ≠ .profile := by
  cases h with
  | _ => exact ⟨rfl, by simp [*]⟩

theorem answered {w w' : Wizard} {info info' : MyInfoModel} {a : OnboardingAction}
    (h : w.answer info a = some (w', info')) : Answered w info a w' info' := by
  cases a with
  | signIn login game manner => exact absurd h nofun
  | back => exact absurd h nofun
  | next => exact absurd h nofun
  | _ =>
    rw [answer] at h
    split_ifs at h with hoffered
    rw [Option.some.injEq, Prod.mk.injEq] at h
    obtain ⟨rfl, rfl⟩ := h
    first
    | exact .selectGender _ hoffered
    | exact .didSelectRow _ hoffered.1
    | exact .confirmAge hoffered
    | exact .closeAge hoffered
    | exact .selectGame _ hoffered
    | exact .editGameID _ hoffered
    | exact .clearGameID hoffered.1 hoffered.2
    | exact .confirmGameID hoffered
    | exact .selectTier _ hoffered

end Wizard

namespace Onboarding

/-- The button of the login screen: the chain of sign-in, and the change of window if
it gets that far. -/
def signIn (s : Onboarding) (login : Reply GetLogin) (game : Reply (List GetGame))
    (manner : Reply GetManner) : Onboarding :=
  let result := s.info.didTapButtonAction login game manner
  { s with info := result.1, window := if result.2 then .wizard .opened else .login }

/-- The back button of a screen. -/
def popViewController (s : Onboarding) (w : Wizard) : Onboarding :=
  match w.screen with
  -- the wizard is given up; the next sign-in makes a new one
  | .step1 => { s with window := .login }
  | .step2 => { s with window := .wizard { w with screen := .step1, step2 := .popViewController } }
  | .step3 =>
    { s with window := .wizard { w with screen := .step2, step3 := w.step3.popViewController } }
  | .step4 => { s with window := .wizard { w with screen := .step3, step4 := .popViewController } }
  | .profile => { s with window := .wizard { w with screen := .step4 } }

/-- `pushViewController` of the profile screen, whose view may have to be loaded. -/
def pushProfile (s : Onboarding) (w : Wizard) : Onboarding where
  info := if w.profileLoaded then s.info else s.info.profileDidTapNextButton
  window := .wizard { w with screen := .profile, profileLoaded := true }
  left := some ⟨w.profileLoaded, s.info⟩

/-- The button of a screen, where it is enabled. On the profile screen it always is. -/
def didTapNextButton (s : Onboarding) (w : Wizard) : Option Onboarding :=
  match w.screen with
  | .step1 =>
    if w.step1.nextButton then some { s with window := .wizard { w with screen := .step2 } }
    else none
  | .step2 =>
    if w.step2.nextButton then some { s with window := .wizard { w with screen := .step3 } }
    else none
  | .step3 =>
    if w.step3.nextButton then some { s with window := .wizard { w with screen := .step4 } }
    else none
  | .step4 => if w.step4.nextButton then some (s.pushProfile w) else none
  | .profile => some { s with window := .tabBar }

def step (s : Onboarding) (a : OnboardingAction) : Option Onboarding :=
  match s.window, a with
  | .login, .signIn login game manner => some (s.signIn login game manner)
  | .login, _ => none
  | .wizard w, .back => some (s.popViewController w)
  | .wizard w, .next => s.didTapNextButton w
  | .wizard w, a =>
    (w.answer s.info a).map fun p => { s with info := p.2, window := .wizard p.1 }
  | .tabBar, _ => none

/-! ### What a step can do -/

/-- **The four things a step can be**: a sign-in, an answer, a way back, a way on. -/
theorem step_cases {s t : Onboarding} {a : OnboardingAction} (h : s.step a = some t) :
    (∃ login game manner, a = .signIn login game manner ∧ t = s.signIn login game manner) ∨
    (∃ w w' info, s.window = .wizard w ∧ w.Answered s.info a w' info ∧
      t = { s with info := info, window := .wizard w' }) ∨
    (∃ w, a = .back ∧ s.window = .wizard w ∧ t = s.popViewController w) ∨
    (∃ w, a = .next ∧ s.window = .wizard w ∧ s.didTapNextButton w = some t) := by
  unfold step at h
  split at h
  · exact Or.inl ⟨_, _, _, rfl, (Option.some.inj h).symm⟩
  · exact absurd h nofun
  · next w hw => exact Or.inr (Or.inr (Or.inl ⟨w, rfl, hw, (Option.some.inj h).symm⟩))
  · next w hw => exact Or.inr (Or.inr (Or.inr ⟨w, rfl, hw, h⟩))
  · next w hw _ _ =>
    obtain ⟨⟨w', info⟩, hanswer, rfl⟩ := Option.map_eq_some_iff.mp h
    exact Or.inr (Or.inl ⟨w, w', info, hw, Wizard.answered hanswer, rfl⟩)
  · exact absurd h nofun

/-- A sign-in leads to a new wizard, or nowhere. -/
theorem window_signIn (s : Onboarding) (login : Reply GetLogin) (game : Reply (List GetGame))
    (manner : Reply GetManner) :
    (s.signIn login game manner).window = .wizard .opened ∨
      (s.signIn login game manner).window = .login := by
  rw [signIn]
  dsimp only
  split
  · exact Or.inl rfl
  · exact Or.inr rfl

/-- The way back leads to a step, or out of the wizard. -/
theorem window_popViewController (s : Onboarding) (w : Wizard) :
    (∃ w', (s.popViewController w).window = .wizard w' ∧ w'.screen ≠ .profile) ∨
      (s.popViewController w).window = .login := by
  rw [popViewController]
  split
  · exact Or.inr rfl
  all_goals exact Or.inl ⟨_, rfl, nofun⟩

/-- **The way on** leaves a step for the next one, where its button is enabled, step 4
for the profile screen, and that for the tab bar. -/
theorem didTapNextButton_cases {s t : Onboarding} {w : Wizard}
    (h : s.didTapNextButton w = some t) :
    (w.screen = .step1 ∧ w.step1.nextButton = true ∧
      t = { s with window := .wizard { w with screen := .step2 } }) ∨
    (w.screen = .step2 ∧ w.step2.nextButton = true ∧
      t = { s with window := .wizard { w with screen := .step3 } }) ∨
    (w.screen = .step3 ∧ w.step3.nextButton = true ∧
      t = { s with window := .wizard { w with screen := .step4 } }) ∨
    (w.screen = .step4 ∧ w.step4.nextButton = true ∧ t = s.pushProfile w) ∨
    (w.screen = .profile ∧ t = { s with window := .tabBar }) := by
  rw [didTapNextButton] at h
  split at h
  · next hscreen =>
    split_ifs at h with hbutton
    exact Or.inl ⟨hscreen, hbutton, (Option.some.inj h).symm⟩
  · next hscreen =>
    split_ifs at h with hbutton
    exact Or.inr (Or.inl ⟨hscreen, hbutton, (Option.some.inj h).symm⟩)
  · next hscreen =>
    split_ifs at h with hbutton
    exact Or.inr (Or.inr (Or.inl ⟨hscreen, hbutton, (Option.some.inj h).symm⟩))
  · next hscreen =>
    split_ifs at h with hbutton
    exact Or.inr (Or.inr (Or.inr (Or.inl ⟨hscreen, hbutton, (Option.some.inj h).symm⟩)))
  · next hscreen =>
    exact Or.inr (Or.inr (Or.inr (Or.inr ⟨hscreen, (Option.some.inj h).symm⟩)))

theorem popped {s : Onboarding} {w w' : Wizard}
    (h : (s.popViewController w).window = .wizard w') :
    w.Popped w' ∧ (s.popViewController w).info = s.info := by
  rw [popViewController] at h ⊢
  split at h
  · exact absurd h (by simp)
  · next hscreen =>
    obtain rfl := Window.wizard.inj h
    exact ⟨.step2 hscreen, rfl⟩
  · next hscreen =>
    obtain rfl := Window.wizard.inj h
    exact ⟨.step3 hscreen, rfl⟩
  · next hscreen =>
    obtain rfl := Window.wizard.inj h
    exact ⟨.step4 hscreen, rfl⟩
  · next hscreen =>
    obtain rfl := Window.wizard.inj h
    exact ⟨.profile hscreen, rfl⟩

theorem pushed {s t : Onboarding} {w w' : Wizard} (h : s.didTapNextButton w = some t)
    (hw' : t.window = .wizard w') : w.Pushed s.info w' t.info := by
  rcases didTapNextButton_cases h with ⟨hscreen, -, rfl⟩ | ⟨hscreen, -, rfl⟩ |
    ⟨hscreen, -, rfl⟩ | ⟨hscreen, -, rfl⟩ | ⟨-, rfl⟩
  · obtain rfl := Window.wizard.inj hw'
    exact .step1 hscreen
  · obtain rfl := Window.wizard.inj hw'
    exact .step2 hscreen
  · obtain rfl := Window.wizard.inj hw'
    exact .step3 hscreen
  · obtain rfl := Window.wizard.inj hw'
    exact .step4 hscreen
  · exact absurd hw' (by simp)

/-- **Where a wizard on screen comes from**: it is new, or it is that of the state before,
with an answer, or on the screen before or after. -/
theorem wizard_cases {s t : Onboarding} {a : OnboardingAction} {w' : Wizard}
    (h : s.step a = some t) (hw' : t.window = .wizard w') :
    (∃ login game manner, a = .signIn login game manner ∧
      t.info = (s.signIn login game manner).info ∧ w' = .opened) ∨
    (∃ w, s.window = .wizard w ∧ w.Answered s.info a w' t.info) ∨
    (∃ w, a = .back ∧ s.window = .wizard w ∧ w.Popped w' ∧ t.info = s.info) ∨
    (∃ w, a = .next ∧ s.window = .wizard w ∧ w.Pushed s.info w' t.info) := by
  rcases step_cases h with ⟨login, game, manner, rfl, rfl⟩ | ⟨w, v, info, hw, hanswer, rfl⟩ |
    ⟨w, rfl, hw, rfl⟩ | ⟨w, rfl, hw, hnext⟩
  · rcases window_signIn s login game manner with hwindow | hwindow
    · rw [hwindow] at hw'
      exact Or.inl ⟨login, game, manner, rfl, rfl, (Window.wizard.inj hw').symm⟩
    · rw [hwindow] at hw'
      exact absurd hw' (by simp)
  · obtain rfl := Window.wizard.inj hw'
    exact Or.inr (Or.inl ⟨w, hw, hanswer⟩)
  · exact Or.inr (Or.inr (Or.inl ⟨w, rfl, hw, popped hw'⟩))
  · exact Or.inr (Or.inr (Or.inr ⟨w, rfl, hw, pushed hnext hw'⟩))

end Onboarding

end Joinus
