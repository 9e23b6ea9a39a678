import Joinus.Base.Decimal
import Joinus.Onboarding.Wizard

/-!
# The Next buttons of the four steps

Each step has a subject that enables its button, and tells the subject what has been
answered; taking an answer back has to tell it too. Steps 1, 2 and 4 do so on every way
(`Joinus.Wizard.Steady`). Step 3 does so when the name is edited, and does not when the
name is emptied by the program – by the clear button, and on the way back to step 2 – so
that its button stays as it was.

After the way back nothing is wrong yet: step 3 is not on screen, and its name may be typed
anew. What is left behind is the clear button, which hides with an empty name and is not
hidden on the way back either. It tells how step 3 will look when it is next entered
(`Joinus.Wizard.Coupled`), and so the buttons follow the screen exactly as long as
the clear button is neither tapped nor found there (`Joinus.Onboarding.next_buttons_iff`).
-/

namespace Joinus

open Base

/-! ### Complete answers -/

/-- The text of an age, in the label of step 1. -/
def ageText (age : ℤ) : String := (toString age).append "세"

/-- A gender is highlighted, and the label shows an age, not zero. -/
def Step1.Complete (s : Step1) : Prop :=
  (s.maleButton = true ∨ s.femaleButton = true) ∧ ∃ age, age ≠ 0 ∧ s.buttonLabel = ageText age

/-- A game is highlighted. -/
def Step2.Complete (s : Step2) : Prop := s.selected ≠ none

/-- There is a name in the field. -/
def Step3.Complete (s : Step3) : Prop := s.gameIdInputtextField ≠ ""

/-- A tier is highlighted. -/
def Step4.Complete (s : Step4) : Prop := s.selected ≠ none

/-- **The button of the visible step follows it.** -/
def Wizard.ButtonFollows (w : Wizard) : Prop :=
  match w.screen with
  | .step1 => w.step1.nextButton = true ↔ w.step1.Complete
  | .step2 => w.step2.nextButton = true ↔ w.step2.Complete
  | .step3 => w.step3.nextButton = true ↔ w.step3.Complete
  | .step4 => w.step4.nextButton = true ↔ w.step4.Complete
  | .profile => True

/-! ### Texts of ages -/

theorem toList_ageText (age : ℤ) : (ageText age).toList = (toString age).toList ++ ['세'] :=
  String.toList_append

theorem ageText_inj {a b : ℤ} : ageText a = ageText b ↔ a = b := toString_int_append_inj

/-- The label of a new step 1 shows no age. -/
theorem placeholder_ne_ageText (age : ℤ) : "나이를 선택해 주세요." ≠ ageText age := by
  intro h
  have hlast : "나이를 선택해 주세요.".toList.getLast? = (ageText age).toList.getLast? := by rw [← h]
  rw [toList_ageText, List.getLast?_concat] at hlast
  exact absurd hlast (by decide)

/-! ### What all ways keep -/

/-- Step 1: the widgets show what was last sent to the subjects, and the button has what
was made of both. -/
structure Step1.Steady (s : Step1) : Prop where
  gender : (s.maleButton = true ∨ s.femaleButton = true) ↔ s.selectGender ≠ none
  offered : ∀ gender ∈ s.selectGender, gender = 0 ∨ gender = 1
  label : s.buttonLabel =
    match s.selectAge with
    | none => "나이를 선택해 주세요."
    | some age => ageText age
  button : s.nextButton =
    match s.selectGender, s.selectAge with
    | some gender, some age => setNextButtonStatus gender age
    | _, _ => false

/-- Steps 1, 2 and 4, on screen or not. -/
structure Wizard.Steady (w : Wizard) : Prop where
  step1 : w.step1.Steady
  step2 : w.step2.nextButton = true ↔ w.step2.Complete
  step4 : w.step4.nextButton = true ↔ w.step4.Complete

namespace Step1

theorem steady_opened : Wizard.opened.step1.Steady where
  gender := by simp [Wizard.opened]
  offered := by simp [Wizard.opened]
  label := rfl
  button := rfl

theorem steady_didTapSelectGenderButton {s : Step1} (hs : s.Steady) (gender : Gender) :
    (s.didTapSelectGenderButton gender).Steady := by
  have hlabel := hs.label
  have hbutton := hs.button
  rw [didTapSelectGenderButton, checkNextStep]
  cases hage : s.selectAge with
  | none =>
    rw [hage] at hlabel hbutton
    have hoff : s.nextButton = false := by
      rw [hbutton]
      cases s.selectGender <;> rfl
    cases gender <;>
      exact
        { gender := by simp
          offered := by simp [Gender.myGender]
          label := hlabel
          button := hoff }
  | some age =>
    rw [hage] at hlabel
    cases gender <;>
      exact
        { gender := by simp
          offered := by simp [Gender.myGender]
          label := hlabel
          button := rfl }

theorem steady_tapDoneButton {s : Step1} (hs : s.Steady) (age : ℤ) :
    (s.tapDoneButton age).Steady := by
  have hgender := hs.gender
  have hoffered := hs.offered
  have hbutton := hs.button
  rw [tapDoneButton, checkNextStep]
  cases hsel : s.selectGender with
  | none =>
    rw [hsel] at hgender hoffered hbutton
    exact { gender := hgender, offered := hoffered, label := rfl, button := hbutton }
  | some gender =>
    rw [hsel] at hgender hoffered
    exact { gender := hgender, offered := hoffered, label := rfl, button := rfl }

/-- **The button of step 1 follows it.** -/
theorem Steady.follows {s : Step1} (hs : s.Steady) : s.nextButton = true ↔ s.Complete := by
  rw [Complete, hs.gender, hs.button, hs.label]
  cases hgender : s.selectGender with
  | none => simp
  | some gender =>
    cases hage : s.selectAge with
    | none => simpa using fun age _ => placeholder_ne_ageText age
    | some age =>
      have hoffered := hs.offered gender hgender
      simp [setNextButtonStatus, hoffered, ageText_inj]

end Step1

theorem complete_didTapGameButton (game : MyGame) :
    (Step2.didTapGameButton game).nextButton = true ↔ (Step2.didTapGameButton game).Complete := by
  cases game <;>
    simp [Step2.didTapGameButton, Step2.Complete, MyGame.rawValue, checkMyFavoriteGames]

theorem complete_didTapTierButton (tier : MyTier) :
    (Step4.didTapTierButton tier).nextButton = true ↔ (Step4.didTapTierButton tier).Complete := by
  cases tier <;> simp [Step4.didTapTierButton, Step4.Complete, MyTier.rawValue, inputGameID]

namespace Wizard

theorem steady_opened : Wizard.opened.Steady where
  step1 := Step1.steady_opened
  step2 := by simp [opened, Step2.Complete]
  step4 := by simp [opened, Step4.Complete]

theorem Steady.answered {w w' : Wizard} {info info' : MyInfoModel} {a : OnboardingAction}
    (hw : w.Steady) (h : Answered w info a w' info') : w'.Steady := by
  cases h with
  | selectGender gender =>
    exact { hw with step1 := Step1.steady_didTapSelectGenderButton hw.step1 _ }
  | confirmAge => exact { hw with step1 := Step1.steady_tapDoneButton hw.step1 _ }
  | selectGame game => exact { hw with step2 := complete_didTapGameButton game }
  | selectTier tier => exact { hw with step4 := complete_didTapTierButton tier }
  | editGameID => exact { hw with }
  | clearGameID => exact { hw with }
  | didSelectRow | closeAge | confirmGameID => exact hw

theorem Steady.popped {w w' : Wizard} (hw : w.Steady) (h : w.Popped w') : w'.Steady := by
  cases h with
  | step2 =>
    exact
      { hw with step2 := by simp [Step2.popViewController, Step2.Complete, checkMyFavoriteGames] }
  | step4 =>
    exact { hw with step4 := by simp [Step4.popViewController, Step4.Complete, inputGameID] }
  | step3 | profile => exact { hw with }

theorem Steady.pushed {w w' : Wizard} {info info' : MyInfoModel} (hw : w.Steady)
    (h : w.Pushed info w' info') : w'.Steady := by
  cases h with
  | _ => exact { hw with }

end Wizard

/-! ### What step 3 keeps -/

/-- Step 3 beside the others: its name is empty until it is entered; from then on its
button follows it, whether it is on screen or further back; and the clear button shows
exactly when the button is enabled. -/
structure Wizard.Coupled (w : Wizard) : Prop extends w.Steady where
  before : w.screen = .step1 ∨ w.screen = .step2 → w.step3.gameIdInputtextField = ""
  after : w.screen = .step3 ∨ w.screen = .step4 ∨ w.screen = .profile →
    (w.step3.nextButton = true ↔ w.step3.Complete)
  clear : w.step3.clearButtonHidden = !w.step3.nextButton

theorem Wizard.Coupled.follows {w : Wizard} (hw : w.Coupled) : w.ButtonFollows := by
  rw [ButtonFollows]
  split
  · exact hw.step1.follows
  · exact hw.step2
  · next hscreen => exact hw.after (Or.inl hscreen)
  · exact hw.step4
  · trivial

theorem follows_textFieldStatus (text : String) :
    (Step3.textFieldStatus text).nextButton = true ↔ (Step3.textFieldStatus text).Complete := by
  simp [Step3.textFieldStatus, Step3.Complete, inputGameID]

/-- Where the name is emptied without a word to the subject: by the clear button, and
when step 3 is entered with the clear button still showing from a name that has gone. -/
def Wizard.nameLeft (w : Wizard) : OnboardingAction → Bool
  | .clearGameID => true
  | .next => w.screen = .step2 && !w.step3.clearButtonHidden
  | _ => false

theorem Wizard.coupled_opened : Wizard.opened.Coupled :=
  { Wizard.steady_opened with
    before := fun _ => rfl
    after := fun h => absurd h (by simp [Wizard.opened])
    clear := rfl }

theorem Wizard.Coupled.answered {w w' : Wizard} {info info' : MyInfoModel} {a : OnboardingAction}
    (hw : w.Coupled) (hleft : w.nameLeft a = false) (h : Answered w info a w' info') :
    w'.Coupled := by
  have hsteady : w'.Steady := hw.toSteady.answered h
  cases h with
  | clearGameID => exact absurd hleft (by simp [nameLeft])
  | editGameID text hscreen =>
    exact
      { hsteady with
        before := fun h => by simp [hscreen] at h
        after := fun _ => follows_textFieldStatus text
        clear := by
          simp only [Step3.textFieldStatus, inputGameID]
          cases text.isEmpty <;> rfl }
  | selectGender | confirmAge | selectGame | selectTier =>
    exact { hsteady with before := hw.before, after := hw.after, clear := hw.clear }
  | didSelectRow | closeAge | confirmGameID => exact hw

theorem Wizard.Coupled.popped {w w' : Wizard} (hw : w.Coupled) (h : w.Popped w') :
    w'.Coupled := by
  have hsteady : w'.Steady := hw.toSteady.popped h
  cases h with
  | step2 hscreen =>
    exact
      { hsteady with
        before := fun _ => hw.before (Or.inr hscreen)
        after := fun h => absurd h (by simp)
        clear := hw.clear }
  | step3 =>
    exact
      { hsteady with
        before := fun _ => rfl
        after := fun h => absurd h (by simp)
        clear := hw.clear }
  | step4 hscreen =>
    exact
      { hsteady with
        before := fun h => absurd h (by simp)
        after := fun _ => hw.after (Or.inr (Or.inl hscreen))
        clear := hw.clear }
  | profile hscreen =>
    exact
      { hsteady with
        before := fun h => absurd h (by simp)
        after := fun _ => hw.after (Or.inr (Or.inr hscreen))
        clear := hw.clear }

theorem Wizard.Coupled.pushed {w w' : Wizard} {info info' : MyInfoModel} (hw : w.Coupled)
    (hleft : w.nameLeft .next = false) (h : w.Pushed info w' info') : w'.Coupled := by
  have hsteady : w'.Steady := hw.toSteady.pushed h
  cases h with
  | step1 hscreen =>
    exact
      { hsteady with
        before := fun _ => hw.before (Or.inl hscreen)
        after := fun h => absurd h (by simp)
        clear := hw.clear }
  | step2 hscreen =>
    -- into step 3, whose name is empty: its button has to be disabled
    have hempty := hw.before (Or.inr hscreen)
    have hhidden : w.step3.clearButtonHidden = true := by
      simpa [Wizard.nameLeft, hscreen] using hleft
    have hoff : w.step3.nextButton = false := by
      simpa [hhidden] using hw.clear
    exact
      { hsteady with
        before := fun h => absurd h (by simp)
        after := fun _ => by simp [Step3.Complete, hempty, hoff]
        clear := hw.clear }
  | step3 hscreen =>
    exact
      { hsteady with
        before := fun h => absurd h (by simp)
        after := fun _ => hw.after (Or.inl hscreen)
        clear := hw.clear }
  | step4 hscreen =>
    exact
      { hsteady with
        before := fun h => absurd h (by simp)
        after := fun _ => hw.after (Or.inr (Or.inl hscreen))
        clear := hw.clear }

namespace Onboarding

/-- The wizard on screen. -/
def wizard (s : Onboarding) : Option Wizard :=
  match s.window with
  | .wizard w => some w
  | _ => none

theorem mem_wizard {s : Onboarding} {w : Wizard} : w ∈ s.wizard ↔ s.window = .wizard w := by
  rw [wizard]
  cases s.window <;> simp

def Coupled (s : Onboarding) : Prop := ∀ w ∈ s.wizard, w.Coupled

/-- **The button follows the screen**: that of the visible step is enabled exactly if the
step shows a complete answer. -/
def ButtonFollows (s : Onboarding) : Prop := ∀ w ∈ s.wizard, w.ButtonFollows

/-- **No name is emptied in silence** by an action. -/
def NameKept (s : Onboarding) (a : OnboardingAction) : Prop := ∀ w ∈ s.wizard, w.nameLeft a = false

instance (s : Onboarding) (a : OnboardingAction) : Decidable (s.NameKept a) :=
  inferInstanceAs (Decidable (∀ w ∈ s.wizard, w.nameLeft a = false))

/-! ### Steps -/

/-- **Steps 1, 2 and 4 are steady** in every run. -/
theorem steady_step (s : Onboarding) (a : OnboardingAction) (t : Onboarding)
    (hs : ∀ w ∈ s.wizard, w.Steady) (h : s.step a = some t) : ∀ w ∈ t.wizard, w.Steady := by
  intro w' hw'
  rcases wizard_cases h (mem_wizard.mp hw') with ⟨_, _, _, -, -, rfl⟩ | ⟨w, hw, hanswer⟩ |
    ⟨w, -, hw, hpop, -⟩ | ⟨w, -, hw, hpush⟩
  · exact Wizard.steady_opened
  · exact (hs w (mem_wizard.mpr hw)).answered hanswer
  · exact (hs w (mem_wizard.mpr hw)).popped hpop
  · exact (hs w (mem_wizard.mpr hw)).pushed hpush

/-- **The coupling is kept**, where the name is not left behind. -/
theorem coupled_step (s : Onboarding) (a : OnboardingAction) (t : Onboarding) (hs : s.Coupled)
    (hkept : s.NameKept a) (h : s.step a = some t) : t.Coupled := by
  intro w' hw'
  rcases wizard_cases h (mem_wizard.mp hw') with ⟨_, _, _, -, -, rfl⟩ | ⟨w, hw, hanswer⟩ |
    ⟨w, rfl, hw, hpop, -⟩ | ⟨w, rfl, hw, hpush⟩
  · exact Wizard.coupled_opened
  · exact (hs w (mem_wizard.mpr hw)).answered (hkept w (mem_wizard.mpr hw)) hanswer
  · exact (hs w (mem_wizard.mpr hw)).popped hpop
  · exact (hs w (mem_wizard.mpr hw)).pushed (hkept w (mem_wizard.mpr hw)) hpush

/-- **A name left behind shows**: after such a step the button does not follow the
screen. -/
theorem nameKept_of_follows {s t : Onboarding} {a : OnboardingAction} (hs : s.Coupled)
    (h : s.step a = some t) (ht : t.ButtonFollows) : s.NameKept a := by
  intro w hw
  have hcoupled := hs w hw
  rw [mem_wizard] at hw
  by_contra hleft
  rw [Bool.not_eq_false] at hleft
  rcases step_cases h with ⟨login, game, manner, rfl, -⟩ | ⟨v, w', info, hv, hanswer, rfl⟩ |
    ⟨v, rfl, -, -⟩ | ⟨v, rfl, hv, hnext⟩
  · exact absurd hleft (by simp [Wizard.nameLeft])
  · obtain rfl : w = v := Window.wizard.inj (hw.symm.trans hv)
    have hfollows := ht w' (mem_wizard.mpr rfl)
    cases hanswer with
    | clearGameID hscreen hclear =>
      have hon : w.step3.nextButton = true := by
        simpa [hclear] using hcoupled.clear
      simp [Wizard.ButtonFollows, hscreen, Step3.didTapClearButton, Step3.Complete, hon] at hfollows
    | _ => exact absurd hleft (by simp [Wizard.nameLeft])
  · exact absurd hleft (by simp [Wizard.nameLeft])
  · obtain rfl : w = v := Window.wizard.inj (hw.symm.trans hv)
    obtain ⟨hscreen, hclear⟩ : w.screen = .step2 ∧ w.step3.clearButtonHidden = false := by
      simpa [Wizard.nameLeft] using hleft
    have hempty := hcoupled.before (Or.inr hscreen)
    have hon : w.step3.nextButton = true := by
      simpa [hclear] using hcoupled.clear
    rw [didTapNextButton, hscreen] at hnext
    simp only at hnext
    split_ifs at hnext
    obtain rfl := Option.some.inj hnext
    have hfollows := ht _ (mem_wizard.mpr rfl)
    simp [Wizard.ButtonFollows, Step3.Complete, hempty, hon] at hfollows

/-- **When the buttons follow the screen**: in every run from launch, in all its states,
exactly if the clear button of step 3 is never tapped, and is hidden whenever step 3 is
entered from step 2. -/
theorem next_buttons_iff {s : Onboarding} {history : List OnboardingAction}
    (hr : run step launched history = some s) :
    Throughout step ButtonFollows launched history ↔ Along step NameKept launched history := by
  have hlaunched : launched.wizard = none := rfl
  refine throughout_iff_along_of_kept (I := Coupled)
    (fun s a t hs _ hkept h => coupled_step s a t hs hkept h)
    (fun s a t hs _ h => ⟨nameKept_of_follows hs h, fun hkept w hw => ?_⟩)
    (fun w hw => ?_) (fun w hw => ?_) hr
  · exact (coupled_step s a t hs hkept h w hw).follows
  · exact absurd hw (by simp [hlaunched])
  · exact absurd hw (by simp [hlaunched])

/-- A first sign-in, and the answers up to step 3. -/
def toStep3 : List OnboardingAction :=
  [.signIn (.decoded ⟨30, 1, 42, none, none, some "kim", "token42", false⟩) .failure .failure,
    .selectGender .female, .didSelectRow 11, .confirmAge, .next, .selectGame .lol, .next]

/-- **The name is typed and cleared**: step 3 is empty, and its button enabled. -/
theorem typedAndCleared_enabled :
    ¬Throughout step ButtonFollows launched (toStep3 ++ [.editGameID "faker", .clearGameID]) := by
  intro h
  have hr : run step launched (toStep3 ++ [.editGameID "faker", .clearGameID]) = some _ := rfl
  have hfollows := h.last hr _ (mem_wizard.mpr rfl)
  exact hfollows.mp rfl rfl

/-- The name is typed, and taken back by hand: the button follows. -/
theorem typedAndDeleted_follows :
    Throughout step ButtonFollows launched
      (toStep3 ++ [.editGameID "faker", .editGameID "", .back, .next]) := by
  have hr : run step launched
      (toStep3 ++ [.editGameID "faker", .editGameID "", .back, .next]) = some _ := rfl
  exact (next_buttons_iff hr).mpr (by decide)

end Onboarding

end Joinus
