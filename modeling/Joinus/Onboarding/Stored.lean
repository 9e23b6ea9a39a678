import Joinus.Onboarding.Buttons

/-!
# What the steps store

Every step shows its answer and stores it in `MyInfoModel`, but not always at once, and not
always both. The wheel of ages stores where it stops, and the label follows when the
toolbar is tapped; the name is shown as it is typed, and stored when the toolbar is
tapped. Genders and tiers are shown and stored together. And the profile screen, when its
view loads, stores values of its own, which no step shows.

So the two can only differ by what has happened since they were last made the same.
This is noted down beside the state (`Joinus.Given`): the values that the model has
been given behind a label or a highlighted button, and the name it was last given. On a tap
of Next the model has what the step shows exactly if these are what the step shows
(`Joinus.Onboarding.stored_as_shown_iff`) – in particular if there are none.
-/

namespace Joinus

open Base

/-- The highlighted gender. -/
def Step1.highlighted (s : Step1) : Option Gender :=
  if s.maleButton then some .male else if s.femaleButton then some .female else none

/-- The model has what the visible step shows. -/
def Wizard.Stored (w : Wizard) (info : MyInfoModel) : Prop :=
  (w.screen = .step1 →
    w.step1.buttonLabel = ageText info.myAge ∧
      w.step1.highlighted.map Gender.myGender = some info.myGender) ∧
  (w.screen = .step3 → info.myGameID = w.step3.gameIdInputtextField) ∧
  (w.screen = .step4 → w.step4.selected.map MyTier.selectTier = some info.myTier)

/-! ### Notes -/

/-- What the model has been given: an age since the label was last set, a gender since one
was last highlighted, a tier since one was last highlighted; and the last name. -/
structure Given where
  age : Option ℤ
  gender : Option ℤ
  gameID : String
  tier : Option ℤ
  deriving DecidableEq

/-- Nothing has been given yet. -/
def Given.initial : Given := ⟨none, none, "", none⟩

/-- The next tap of Next loads the view of the profile screen. -/
def Wizard.loadsProfile (w : Wizard) : Bool := w.screen = .step4 && !w.profileLoaded

/-- What is noted down of an event. -/
def Given.note (n : Given) (s : Onboarding) : OnboardingAction → Given
  -- sign-in stores values too, but the steps that it opens show none yet
  | .signIn login game manner => ⟨none, none, (s.signIn login game manner).info.myGameID, none⟩
  | .didSelectRow row => { n with age := some (row + 20) }
  | .confirmAge => { n with age := none }
  | .selectGender _ => { n with gender := none }
  | .confirmGameID =>
    match s.wizard with
    | some w => { n with gameID := w.step3.gameIdInputtextField }
    | none => n
  | .selectTier _ => { n with tier := none }
  | .next =>
    match s.wizard with
    | some w => if w.loadsProfile then ⟨some 25, some 0, "PreyIOS", some 2⟩ else n
    | none => n
  | .closeAge | .selectGame _ | .editGameID _ | .clearGameID | .back => n

/-- What the model has been given is what the visible step shows. -/
def Given.Shown (n : Given) (w : Wizard) : Prop :=
  (w.screen = .step1 →
    (∀ age ∈ n.age, w.step1.buttonLabel = ageText age) ∧
      ∀ gender ∈ n.gender, w.step1.highlighted.map Gender.myGender = some gender) ∧
  (w.screen = .step3 → n.gameID = w.step3.gameIdInputtextField) ∧
  (w.screen = .step4 → ∀ tier ∈ n.tier, w.step4.selected.map MyTier.selectTier = some tier)

instance (n : Given) (w : Wizard) : Decidable (n.Shown w) :=
  inferInstanceAs (Decidable ((_ → _ ∧ _) ∧ (_ → _) ∧ (_ → _)))

/-- **The notes are about the model**: it has what they say it was given, and where they
say nothing it has what is shown. -/
structure Given.Explains (n : Given) (w : Wizard) (info : MyInfoModel) : Prop where
  age : ∀ age ∈ n.age, info.myAge = age
  ageShown : n.age = none → ∀ age, w.step1.buttonLabel = ageText age → info.myAge = age
  gender : ∀ gender ∈ n.gender, info.myGender = gender
  genderShown : n.gender = none → ∀ g ∈ w.step1.highlighted, info.myGender = g.myGender
  gameID : info.myGameID = n.gameID
  tier : ∀ tier ∈ n.tier, info.myTier = tier
  tierShown : n.tier = none → ∀ t ∈ w.step4.selected, info.myTier = t.selectTier

/-! ### What the answers do to the notes -/

theorem highlighted_didTapSelectGenderButton (s : Step1) (gender : Gender) :
    (s.didTapSelectGenderButton gender).highlighted = some gender := by
  rw [Step1.didTapSelectGenderButton, Step1.checkNextStep]
  split <;> cases gender <;> rfl

theorem buttonLabel_didTapSelectGenderButton (s : Step1) (gender : Gender) :
    (s.didTapSelectGenderButton gender).buttonLabel = s.buttonLabel := by
  rw [Step1.didTapSelectGenderButton, Step1.checkNextStep]
  split <;> rfl

theorem highlighted_tapDoneButton (s : Step1) (age : ℤ) :
    (s.tapDoneButton age).highlighted = s.highlighted := by
  rw [Step1.tapDoneButton, Step1.checkNextStep]
  split <;> rfl

theorem buttonLabel_tapDoneButton (s : Step1) (age : ℤ) :
    (s.tapDoneButton age).buttonLabel = ageText age := by
  rw [Step1.tapDoneButton, Step1.checkNextStep]
  split <;> rfl

namespace Onboarding

/-- The notes explain the model while the wizard is on screen. -/
def Explained (n : Given) (s : Onboarding) : Prop := ∀ w ∈ s.wizard, n.Explains w s.info

theorem explains_opened (gameID : String) (info : MyInfoModel) (hgameID : info.myGameID = gameID) :
    Given.Explains ⟨none, none, gameID, none⟩ .opened info where
  age := by simp
  ageShown := fun _ age hage => absurd hage (placeholder_ne_ageText age)
  gender := by simp
  genderShown := by simp [Step1.highlighted, Wizard.opened]
  gameID := hgameID
  tier := by simp
  tierShown := by simp [Wizard.opened]

theorem explains_answered {n : Given} {s : Onboarding} {a : OnboardingAction} {w w' : Wizard}
    {info : MyInfoModel} (hw : s.wizard = some w) (hx : n.Explains w s.info)
    (h : w.Answered s.info a w' info) : (n.note s a).Explains w' info := by
  cases h with
  | selectGender gender =>
    exact
      { hx with
        ageShown := by rw [buttonLabel_didTapSelectGenderButton]; exact hx.ageShown
        gender := by simp [Given.note]
        genderShown := by
          rw [highlighted_didTapSelectGenderButton]
          rintro - g ⟨⟩
          rfl }
  | didSelectRow row =>
    exact { hx with age := by rintro age ⟨⟩; rfl, ageShown := by simp [Given.note] }
  | confirmAge =>
    exact
      { hx with
        age := by simp [Given.note]
        ageShown := by
          rw [buttonLabel_tapDoneButton]
          exact fun _ age hage => ageText_inj.mp hage
        genderShown := by rw [highlighted_tapDoneButton]; exact hx.genderShown }
  | confirmGameID =>
    rw [Given.note, hw]
    exact { hx with gameID := rfl }
  | selectTier tier =>
    exact { hx with tier := by simp [Given.note], tierShown := by rintro - t ⟨⟩; rfl }
  | closeAge => exact hx
  | selectGame | editGameID | clearGameID => exact { hx with }

theorem explains_popped {n : Given} {w w' : Wizard} {info : MyInfoModel} (hx : n.Explains w info)
    (h : w.Popped w') : n.Explains w' info := by
  cases h with
  | step4 => exact { hx with tierShown := by simp [Step4.popViewController] }
  | step2 | step3 | profile => exact { hx with }

theorem loadsProfile_iff {w : Wizard} :
    w.loadsProfile = true ↔ w.screen = .step4 ∧ w.profileLoaded = false := by
  simp [Wizard.loadsProfile]

theorem explains_pushed {n : Given} {s : Onboarding} {w w' : Wizard} {info : MyInfoModel}
    (hw : s.wizard = some w) (hx : n.Explains w s.info) (h : w.Pushed s.info w' info) :
    (n.note s .next).Explains w' info := by
  rw [Given.note, hw]
  cases h with
  | step4 hscreen =>
    cases hloaded : w.profileLoaded with
    | true =>
      have hloads : ¬w.loadsProfile = true := by simp [loadsProfile_iff, hloaded]
      simp only [if_neg hloads, if_true]
      exact { hx with }
    | false =>
      have hloads : w.loadsProfile = true := loadsProfile_iff.mpr ⟨hscreen, hloaded⟩
      simp only [if_pos hloads, Bool.false_eq_true, if_false]
      exact
        { age := by rintro age ⟨⟩; rfl
          ageShown := by simp
          gender := by rintro gender ⟨⟩; rfl
          genderShown := by simp
          gameID := rfl
          tier := by rintro tier ⟨⟩; rfl
          tierShown := by simp }
  | step1 hscreen | step2 hscreen | step3 hscreen =>
    have hloads : ¬w.loadsProfile = true := by simp [loadsProfile_iff, hscreen]
    simp only [if_neg hloads]
    exact { hx with }

theorem explained_step {n m : Given} {s t : Onboarding} {a : OnboardingAction}
    (hs : s.Explained n) (h : s.step a = some t) (hnote : n.note s a = m) : t.Explained m := by
  intro w' hw'
  subst hnote
  rcases wizard_cases h (mem_wizard.mp hw') with ⟨login, game, manner, rfl, hinfo, rfl⟩ |
    ⟨w, hw, hanswer⟩ | ⟨w, rfl, hw, hpop, hinfo⟩ | ⟨w, rfl, hw, hpush⟩
  · rw [hinfo]
    exact explains_opened _ _ rfl
  · exact explains_answered (mem_wizard.mpr hw) (hs w (mem_wizard.mpr hw)) hanswer
  · rw [hinfo]
    exact explains_popped (hs w (mem_wizard.mpr hw)) hpop
  · exact explains_pushed (mem_wizard.mpr hw) (hs w (mem_wizard.mpr hw)) hpush

/-! ### On a tap of Next -/

/-- A tap of Next; it is offered where it moves the user forward. -/
def isNext : OnboardingAction → Bool
  | .next => true
  | _ => false

theorem isNext_iff {a : OnboardingAction} : isNext a = true ↔ a = .next := by
  cases a <;> simp [isNext]

/-- **What is shown is stored**: when Next moves the user forward, the model has what the
step shows. -/
def StoredAsShown (s : Onboarding) (a : OnboardingAction) : Prop :=
  isNext a = true → ∀ w ∈ s.wizard, w.Stored s.info

/-- **What is shown has been given**: when Next is tapped, the answers that have been noted
down are those on screen. -/
def GivenAsShown (s : Given × Onboarding) (a : OnboardingAction) : Prop :=
  isNext a = true → ∀ w ∈ s.2.wizard, s.1.Shown w

instance (s : Given × Onboarding) (a : OnboardingAction) : Decidable (GivenAsShown s a) :=
  inferInstanceAs (Decidable (_ → ∀ w ∈ s.2.wizard, s.1.Shown w))

/-- A step that is left by its button shows a complete answer, except for step 3. -/
theorem stored_iff_shown {n : Given} {w : Wizard} {info : MyInfoModel} (hx : n.Explains w info)
    (hone : w.screen = .step1 → w.step1.Complete) (hfour : w.screen = .step4 → w.step4.Complete) :
    w.Stored info ↔ n.Shown w := by
  refine and_congr (imp_congr_right fun hscreen => ?_)
    (and_congr (imp_congr_right fun _ => ?_) (imp_congr_right fun hscreen => ?_))
  · obtain ⟨hgender, age, -, hlabel⟩ := hone hscreen
    refine and_congr ?_ ?_
    · cases hage : n.age with
      | none => simp [hx.ageShown hage age hlabel, hlabel]
      | some given => simp [hx.age given hage]
    · obtain ⟨g, hg⟩ : ∃ g, w.step1.highlighted = some g := by
        rw [Step1.highlighted]
        rcases hgender with hmale | hfemale
        · exact ⟨.male, by rw [if_pos hmale]⟩
        · split_ifs
          · exact ⟨.male, rfl⟩
          · exact ⟨.female, rfl⟩
      cases hgiven : n.gender with
      | none => simp [hx.genderShown hgiven g hg, hg]
      | some given => simp [hx.gender given hgiven]
  · rw [hx.gameID]
  · obtain ⟨tier, htier⟩ := Option.ne_none_iff_exists'.mp (hfour hscreen)
    cases hgiven : n.tier with
    | none => simp [hx.tierShown hgiven tier htier, htier]
    | some given => simp [hx.tier given hgiven]

/-- Where Next is tapped, the step on screen is complete; of step 3 this is not said. -/
theorem complete_of_next {s t : Onboarding} {w : Wizard} (hw : s.window = .wizard w)
    (hsteady : w.Steady) (h : s.step .next = some t) :
    (w.screen = .step1 → w.step1.Complete) ∧ (w.screen = .step4 → w.step4.Complete) := by
  have hnext : s.didTapNextButton w = some t := by
    unfold step at h
    rwa [hw] at h
  constructor
  · intro hscreen
    rw [didTapNextButton, hscreen] at hnext
    exact hsteady.step1.follows.mp (Option.ite_none_right_eq_some.mp hnext).1
  · intro hscreen
    rw [didTapNextButton, hscreen] at hnext
    exact hsteady.step4.mp (Option.ite_none_right_eq_some.mp hnext).1

/-- **When what a step shows is what it stores**: on every tap of Next of a run, exactly
if the ages, genders and tiers the model has been given behind the widgets, and the last
name it was given, are those on screen. -/
theorem stored_as_shown_iff {s : Onboarding} {history : List OnboardingAction}
    (hr : run step launched history = some s) :
    Along step StoredAsShown launched history ↔
      Along (noting step Given.note) GivenAsShown (.initial, launched) history := by
  obtain ⟨n, hn⟩ : ∃ n, run (noting step Given.note) (Given.initial, launched) history =
      some (n, s) := exists_run_noting Given.initial hr
  have hnotes : Along (noting step Given.note) (fun s a => StoredAsShown s.2 a)
      (.initial, launched) history ↔ Along step StoredAsShown launched history :=
    along_noting_iff Given.initial hr
  rw [← hnotes]
  refine along_congr
    (P := fun s : Given × Onboarding => s.2.Explained s.1 ∧ ∀ w ∈ s.2.wizard, w.Steady)
    (fun s a t hs h => ?_) (fun s a t hs h => ?_) ⟨?_, ?_⟩ hn
  · obtain ⟨hstep, hnote⟩ := noting_eq_some.mp h
    exact ⟨explained_step hs.1 hstep hnote, steady_step _ a _ hs.2 hstep⟩
  · refine imp_congr_right fun ha => forall₂_congr fun w hw => ?_
    obtain rfl := isNext_iff.mp ha
    obtain ⟨hstep, -⟩ := noting_eq_some.mp h
    obtain ⟨hone, hfour⟩ := complete_of_next (mem_wizard.mp hw) (hs.2 w hw) hstep
    exact stored_iff_shown (hs.1 w hw) hone hfour
  · intro w hw
    exact absurd (mem_wizard.mp hw) (by simp [launched])
  · intro w hw
    exact absurd (mem_wizard.mp hw) (by simp [launched])

/-- A first sign-in, and an age that is confirmed. -/
def ageConfirmed : List OnboardingAction :=
  [.signIn (.decoded ⟨30, 1, 42, none, none, some "kim", "token42", false⟩) .failure .failure,
    .selectGender .female, .didSelectRow 11, .confirmAge]

/-- **The wheel is turned on and closed**: the label says 31, and 40 is stored. -/
theorem turnedAndClosed_differs :
    (run step launched (ageConfirmed ++ [.didSelectRow 20, .closeAge, .next])).isSome = true ∧
      ¬Along step StoredAsShown launched
        (ageConfirmed ++ [.didSelectRow 20, .closeAge, .next]) := by
  refine ⟨rfl, fun h => ?_⟩
  have hr : run step launched (ageConfirmed ++ [.didSelectRow 20, .closeAge]) = some _ := rfl
  obtain ⟨hstored, -⟩ :=
    @Along.of_append _ _ _ _ _ _ _ [.next] h hr
  have hlabel := ((hstored rfl _ (mem_wizard.mpr rfl)).1 rfl).1
  exact absurd hlabel (by decide)

/-- The wheel is turned back before Next. -/
theorem turnedBack_stored :
    Along step StoredAsShown launched
      (ageConfirmed ++ [.didSelectRow 20, .didSelectRow 11, .closeAge, .next]) := by
  have hr : run step launched
      (ageConfirmed ++ [.didSelectRow 20, .didSelectRow 11, .closeAge, .next]) = some _ := rfl
  exact (stored_as_shown_iff hr).mpr (by decide)

end Onboarding

end Joinus
