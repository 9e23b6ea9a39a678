import Joinus.Onboarding.Wizard

/-!
# What the profile screen keeps

The method of the profile screen that prepares its button begins with eight
assignments to `MyInfoModel`, of a user for trying things out, and it is called when
the view of the screen loads. So the values that sign-in and four steps have
collected are overwritten when step 4 is left for the first time. The view is loaded
only once in a wizard; from then on the screen keeps what it finds.

The run is followed from the last time step 4 was left to the tab bar. In between
only the profile screen is shown, and all that happens there is that its view may
load (`Joinus.Onboarding.Carried`); hence the exact condition
(`Joinus.Onboarding.profile_keeps_iff`).
-/

namespace Joinus

open Base

/-- The values that sign-in and the four steps store: `myPk`, `subToken`, `myAge`,
`myGender`, `myGameID`, `myTier`. -/
def MyInfoModel.stored (info : MyInfoModel) : ℤ × String × ℤ × ℤ × String × ℤ :=
  (info.myPk, info.subToken, info.myAge, info.myGender, info.myGameID, info.myTier)

/-- The user for trying things out. -/
def preyIOS : ℤ × String × ℤ × ℤ × String × ℤ :=
  (7, "109112693255361562533", 25, 0, "PreyIOS", 2)

/-- All six values are overwritten. -/
@[simp] theorem stored_profileDidTapNextButton (info : MyInfoModel) :
    info.profileDidTapNextButton.stored = preyIOS := rfl

/-- The model once the profile screen is shown. -/
def LeftStep4.opened (left : LeftStep4) : MyInfoModel :=
  if left.profileLoaded then left.info else left.info.profileDidTapNextButton

/-- What is shown then are the values step 4 was left with, or the other user's. -/
theorem stored_opened_iff (left : LeftStep4) :
    left.opened.stored = left.info.stored ↔
      left.profileLoaded = true ∨ left.info.stored = preyIOS := by
  rw [LeftStep4.opened]
  cases left.profileLoaded with
  | true => simp
  | false => simp [eq_comm]

/-- The profile screen is shown, or has been left for the tab bar. -/
def Window.PastStep4 : Window → Prop
  | .login => False
  | .wizard w => w.screen = .profile
  | .tabBar => True

namespace Onboarding

/-- **From step 4 to the tab bar**, the model is that of the profile screen once it is
shown. -/
def Carried (s : Onboarding) : Prop :=
  s.window.PastStep4 → ∃ left, s.left = some left ∧ s.info = left.opened

theorem carried_step (s : Onboarding) (a : OnboardingAction) (t : Onboarding)
    (hs : s.Carried) (h : s.step a = some t) : t.Carried := by
  rcases step_cases h with ⟨login, game, manner, -, rfl⟩ | ⟨w, w', info, hw, hanswer, rfl⟩ |
    ⟨w, -, hw, rfl⟩ | ⟨w, -, hw, hnext⟩
  · intro hpast
    rcases window_signIn s login game manner with hwindow | hwindow
    · rw [hwindow] at hpast
      exact absurd hpast nofun
    · rw [hwindow] at hpast
      exact absurd hpast id
  · -- Nothing is asked on the profile screen.
    intro hprofile
    obtain ⟨hscreen, hstep⟩ := hanswer.screen
    exact absurd (hscreen.symm.trans hprofile) hstep
  · intro hpast
    rcases window_popViewController s w with ⟨w', hwindow, hscreen⟩ | hwindow
    · rw [hwindow] at hpast
      exact absurd hpast hscreen
    · rw [hwindow] at hpast
      exact absurd hpast id
  · rcases didTapNextButton_cases hnext with ⟨-, -, rfl⟩ | ⟨-, -, rfl⟩ | ⟨-, -, rfl⟩ | ⟨-, -, rfl⟩ |
      ⟨hprofile, rfl⟩
    · exact nofun
    · exact nofun
    · exact nofun
    · exact fun _ => ⟨_, rfl, rfl⟩
    · have hpast : s.window.PastStep4 := by rwa [hw]
      exact fun _ => hs hpast

/-- **What the profile screen keeps**: on entering the tab bar the values are those
step 4 was left with, exactly if the profile screen had been opened in this wizard
before, or they were those of the user for trying things out. -/
theorem profile_keeps_iff {s : Onboarding} {history : List OnboardingAction}
    (hr : run step launched history = some s) (htab : s.window = .tabBar) :
    ∃ left, s.left = some left ∧
      (s.info.stored = left.info.stored ↔
        left.profileLoaded = true ∨ left.info.stored = preyIOS) := by
  have hcarried : s.Carried :=
    run_invariant (P := Carried) carried_step (fun hpast => absurd hpast id) hr
  have hpast : s.window.PastStep4 := by
    rw [htab]
    trivial
  obtain ⟨left, hleft, hinfo⟩ := hcarried hpast
  refine ⟨left, hleft, ?_⟩
  rw [hinfo]
  exact stored_opened_iff left

/-- A first sign-in. -/
def firstSignIn : OnboardingAction :=
  .signIn (.decoded ⟨30, 1, 42, none, none, some "kim", "token42", false⟩) .failure .failure

/-- Four steps answered, up to the profile screen. -/
def fourSteps : List OnboardingAction :=
  [firstSignIn, .selectGender .female, .didSelectRow 11, .confirmAge, .next,
    .selectGame .lol, .next, .editGameID "faker", .confirmGameID, .next, .selectTier .gold, .next]

/-- **The user is replaced**: the four steps are answered, and the tab bar shows
another user. -/
theorem fourSteps_replaced :
    ∃ s left, run step launched (fourSteps ++ [.next]) = some s ∧ s.window = .tabBar ∧
      s.left = some left ∧ left.info.stored = (42, "token42", 31, 1, "faker", 3) ∧
      s.info.stored = preyIOS ∧ s.info.stored ≠ left.info.stored :=
  ⟨_, _, rfl, rfl, rfl, rfl, rfl, by decide⟩

/-- Back from the profile screen, the tier is chosen once more, and kept. -/
theorem secondTier_kept :
    ∃ s left, run step launched
        (fourSteps ++ [.back, .selectTier .diamond, .next, .next]) = some s ∧
      s.left = some left ∧ s.info.stored = left.info.stored ∧ s.info.myTier = 5 := by
  have hr : run step launched
      (fourSteps ++ [.back, .selectTier .diamond, .next, .next]) = some _ := rfl
  obtain ⟨left, hleft, hiff⟩ := profile_keeps_iff hr rfl
  obtain rfl := Option.some.inj hleft
  exact ⟨_, _, hr, hleft, hiff.mpr (Or.inl rfl), rfl⟩

end Onboarding

end Joinus
