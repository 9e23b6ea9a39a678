import Joinus.Pictures.Sheet

/-!
# What becomes of a chosen picture

A picture that is chosen should be seen on the screen from which it was chosen, and be
the user's picture from then on. On the last screen of the wizard it is: the input it is
sent to is bound, to the model and to the view. On the screen for editing the profile it
is not: there the sheet sends it to the input of one view model, and what is bound is the
input of another, to which nobody ever sends anything. The picture is lost without a
sign, the view keeps showing the default image, and the model keeps what the wizard has
put there.

So the network holds, at any time, what the pictures chosen so far say it holds
(`Joinus.Pictures.explained`), and those chosen on a screen for editing do not count.
Such a choice does what it should only by chance: if it is a reset to the default image,
and the last picture that the wizard has put into the model was the default image too
(`Joinus.Pictures.chosen_pictures_shown_iff`).
-/

namespace Joinus

open Base

/-- The pictures that have been chosen, the last one first, each with the screen that had opened
the sheet. -/
abbrev Choices (Data : Type*) := List (PhotoScreen × UIImage Data)

variable {Data : Type*}

/-- A screen of the wizard. -/
def PhotoScreen.isProfile : PhotoScreen → Bool
  | .profile _ => true
  | .myProfileEdit _ => false

/-! ### The pictures that count -/

/-- The picture a screen shows: in the wizard the last one chosen there. -/
def Choices.pictureOn (choices : Choices Data) : PhotoScreen → UIImage Data
  | .profile number =>
    ((choices.find? fun c => c.1 = .profile number).map Prod.snd).getD defaultImage
  | .myProfileEdit _ => defaultImage

/-- The last picture chosen in the wizard. -/
def Choices.lastInWizard (choices : Choices Data) : Option (UIImage Data) :=
  (choices.find? fun c => c.1.isProfile).map Prod.snd

namespace Choices

variable {choices : Choices Data} {screen : PhotoScreen} {number : ℕ} {image : UIImage Data}

theorem pictureOn_cons_self :
    pictureOn ((.profile number, image) :: choices) (.profile number) = image := by
  simp [pictureOn]

theorem pictureOn_cons_of_ne (h : screen ≠ .profile number) :
    pictureOn ((.profile number, image) :: choices) screen = choices.pictureOn screen := by
  cases screen with
  | profile other =>
    have hne : (PhotoScreen.profile number) ≠ .profile other := fun heq => h heq.symm
    rw [pictureOn, List.find?_cons_of_neg (by simpa using hne), pictureOn]
  | myProfileEdit other => rfl

theorem pictureOn_cons_edit :
    pictureOn ((.myProfileEdit number, image) :: choices) screen = choices.pictureOn screen := by
  cases screen with
  | profile other => rw [pictureOn, List.find?_cons_of_neg (by simp), pictureOn]
  | myProfileEdit other => rfl

theorem lastInWizard_cons_profile :
    lastInWizard ((.profile number, image) :: choices) = some image := rfl

theorem lastInWizard_cons_edit :
    lastInWizard ((.myProfileEdit number, image) :: choices) = choices.lastInWizard := rfl

end Choices

theorem mem_bindings {screen : PhotoScreen} {a b : PhotoSubject} :
    (a, b) ∈ screen.bindings ↔
      a = .selectProfileImageInputSubject screen.viewModel ∧ b = .myProfileImg ∨
      a = .selectProfileImageInputSubject screen.viewModel ∧
        b = .myProfileImageOutputSubject screen.viewModel ∨
      a = .myProfileImageOutputSubject screen.viewModel ∧ b = .profileImageView screen := by
  simp [PhotoScreen.bindings]

/-- The sheet of a screen of the wizard has the view model that this screen binds. -/
@[simp] theorem viewModel_eq_profile {screen : PhotoScreen} {number : ℕ} :
    screen.viewModel = .onboarding (.profile number) ↔ screen = .profile number := by
  cases screen with
  | profile other => simp [PhotoScreen.viewModel]
  | myProfileEdit other => simp [PhotoScreen.viewModel]

/-- The sheet of a screen for editing has one that nobody binds. -/
@[simp] theorem viewModel_ne_edit {screen : PhotoScreen} {number : ℕ} :
    screen.viewModel ≠ .onboarding (.myProfileEdit number) := by
  cases screen with
  | profile other => simp [PhotoScreen.viewModel]
  | myProfileEdit other => simp [PhotoScreen.viewModel]

namespace Pictures

/-! ### What an event reaches -/

/-- **The invariant**: bound are the screens that have been loaded, and outputs, views and the model
have the pictures that count. -/
structure Explained (choices : Choices Data) (s : Pictures Data) : Prop where
  bindings : ∀ {a b}, (a, b) ∈ s.network.bindings ↔ ∃ screen ∈ s.loaded, (a, b) ∈ screen.bindings
  top : ∀ {screen}, s.top = some screen → screen ∈ s.loaded
  chosen : ∀ {c}, c ∈ choices → c.1 ∈ s.loaded
  output : ∀ screen, s.network.value (.myProfileImageOutputSubject screen.viewModel) =
    some (choices.pictureOn screen)
  view : ∀ {screen}, screen ∈ s.loaded →
    s.network.value (.profileImageView screen) = some (choices.pictureOn screen)
  saved : s.network.value .myProfileImg = some (choices.lastInWizard.getD .empty)

theorem explained_launched : Explained [] (launched : Pictures Data) where
  bindings := by simp [launched, PhotoNetwork.initial]
  top h := absurd h (by simp [Pictures.top, launched])
  chosen h := absurd h List.not_mem_nil
  output screen := by
    cases screen with
    | profile number => rfl
    | myProfileEdit number => rfl
  view h := absurd h List.not_mem_nil
  saved := rfl

section

variable {choices : Choices Data} {s t : Pictures Data} (hx : s.Explained choices)
include hx

/-- **From the sheet of the wizard** a picture reaches the model, the output and the view. -/
theorem reaches_profile {number : ℕ} (hmem : .profile number ∈ s.loaded) :
    {m | s.network.Reaches
      (.selectProfileImageInputSubject (.onboarding (.profile number))) m} =
      {.selectProfileImageInputSubject (.onboarding (.profile number)), .myProfileImg,
        .myProfileImageOutputSubject (.onboarding (.profile number)),
        .profileImageView (.profile number)} := by
  have hbound : ∀ {a b}, (a, b) ∈ (PhotoScreen.profile number).bindings →
      (a, b) ∈ s.network.bindings := fun hb => hx.bindings.mpr ⟨_, hmem, hb⟩
  have hinput := Network.Reaches.refl s.network
    (.selectProfileImageInputSubject (.onboarding (.profile number)))
  have hsaved := hinput.tail (hbound (mem_bindings.mpr (Or.inl ⟨rfl, rfl⟩)))
  have houtput := hinput.tail (hbound (mem_bindings.mpr (Or.inr (Or.inl ⟨rfl, rfl⟩))))
  have hview := houtput.tail (hbound (mem_bindings.mpr (Or.inr (Or.inr ⟨rfl, rfl⟩))))
  refine Set.Subset.antisymm (fun m hm => hm.mem_of_closed (fun a b hb ha => ?_) (by simp)) ?_
  · obtain ⟨screen, -, hscreen⟩ := hx.bindings.mp hb
    rcases mem_bindings.mp hscreen with ⟨rfl, rfl⟩ | ⟨rfl, rfl⟩ | ⟨rfl, rfl⟩
    · simp
    · obtain rfl : screen = .profile number := by simpa using ha
      simp [PhotoScreen.viewModel]
    · obtain rfl : screen = .profile number := by simpa using ha
      simp
  · rintro m (rfl | rfl | rfl | rfl)
    · exact hinput
    · exact hsaved
    · exact houtput
    · exact hview

/-- **From the sheet of a screen for editing** it reaches nobody. -/
theorem reaches_edit {number : ℕ} {m : PhotoSubject}
    (hm : s.network.Reaches
      (.selectProfileImageInputSubject (.onboarding (.myProfileEdit number))) m) :
    m = .selectProfileImageInputSubject (.onboarding (.myProfileEdit number)) := by
  refine hm.mem_of_closed (S := {_}) (fun a b hb ha => ?_) rfl
  obtain ⟨screen, -, hscreen⟩ := hx.bindings.mp hb
  rcases mem_bindings.mp hscreen with ⟨rfl, rfl⟩ | ⟨rfl, rfl⟩ | ⟨rfl, rfl⟩
  · exact absurd ha (by simp)
  · exact absurd ha (by simp)
  · exact absurd ha (by simp)

/-- A picture chosen in the wizard is in the output, the view and the model; elsewhere nothing
changes. -/
theorem delivered_profile {number : ℕ} (hmem : .profile number ∈ s.loaded) (image : UIImage Data) :
    Delivered photoKinds.keeps image
      {.selectProfileImageInputSubject (.onboarding (.profile number)), .myProfileImg,
        .myProfileImageOutputSubject (.onboarding (.profile number)),
        .profileImageView (.profile number)}
      s.network.value (s.selectProfileImage (.profile number) image).network.value := by
  rw [← reaches_profile hx hmem]
  exact Network.delivered_send

/-- **A picture chosen on a screen for editing is lost.** -/
theorem value_select_edit (number : ℕ) (image : UIImage Data) :
    (s.selectProfileImage (.myProfileEdit number) image).network.value = s.network.value := by
  refine Network.value_send_of_forgetful fun m hm => ?_
  obtain rfl := reaches_edit hx hm
  rfl

/-- After a choice, what is in the network is all there is to show. -/
theorem explained_select {screen : PhotoScreen} {image : UIImage Data} (hmem : screen ∈ s.loaded)
    (houtput : ∀ other, (s.selectProfileImage screen image).network.value
      (.myProfileImageOutputSubject other.viewModel) =
        some (Choices.pictureOn ((screen, image) :: choices) other))
    (hview : ∀ {other}, other ∈ s.loaded →
      (s.selectProfileImage screen image).network.value (.profileImageView other) =
        some (Choices.pictureOn ((screen, image) :: choices) other))
    (hsaved : (s.selectProfileImage screen image).network.value .myProfileImg =
      some ((Choices.lastInWizard ((screen, image) :: choices)).getD .empty)) :
    (s.selectProfileImage screen image).Explained ((screen, image) :: choices) where
  bindings := hx.bindings
  top htop := by
    obtain rfl := Option.some.inj htop
    exact hmem
  chosen hc := by
    rcases List.mem_cons.mp hc with rfl | hbefore
    · exact hmem
    · exact hx.chosen hbefore
  output := houtput
  view := hview
  saved := hsaved

theorem explained_profile {number : ℕ} (hmem : .profile number ∈ s.loaded)
    (image : UIImage Data) :
    (s.selectProfileImage (.profile number) image).Explained
      ((.profile number, image) :: choices) := by
  have hsent := delivered_profile hx hmem image
  refine explained_select hx hmem (fun other => ?_) (fun {other} hother => ?_) ?_
  · by_cases heq : other = .profile number
    · obtain rfl := heq
      rw [Choices.pictureOn_cons_self]
      exact hsent.reached (by simp [PhotoScreen.viewModel]) rfl
    · rw [Choices.pictureOn_cons_of_ne heq, hsent.other (by simp [heq])]
      exact hx.output other
  · by_cases heq : other = .profile number
    · obtain rfl := heq
      rw [Choices.pictureOn_cons_self]
      exact hsent.reached (by simp) rfl
    · rw [Choices.pictureOn_cons_of_ne heq, hsent.other (by simp [heq])]
      exact hx.view hother
  · rw [Choices.lastInWizard_cons_profile, Option.getD_some]
    exact hsent.reached (by simp) rfl

theorem explained_edit {number : ℕ} (hmem : .myProfileEdit number ∈ s.loaded)
    (image : UIImage Data) :
    (s.selectProfileImage (.myProfileEdit number) image).Explained
      ((.myProfileEdit number, image) :: choices) := by
  have hvalue := value_select_edit hx number image
  refine explained_select hx hmem (fun other => ?_) (fun {other} hother => ?_) ?_
  · rw [hvalue, Choices.pictureOn_cons_edit]
    exact hx.output other
  · rw [hvalue, Choices.pictureOn_cons_edit]
    exact hx.view hother
  · rw [hvalue, Choices.lastInWizard_cons_edit]
    exact hx.saved

theorem explained_loadView {screen : PhotoScreen} (seen : Presented Data) :
    Explained choices
      ⟨screen.loadView s.network, screen :: s.loaded, some (screen, seen)⟩ := by
  have hvalue := value_loadView (hx.output screen)
  refine
    { bindings := fun {a b} => ?_
      top := fun htop => ?_
      chosen := fun hc => List.mem_cons_of_mem _ (hx.chosen hc)
      output := fun other => ?_
      view := fun {other} hother => ?_
      saved := ?_ }
  · rw [bindings_loadView, List.mem_append, hx.bindings]
    simp [or_comm]
  · obtain rfl := Option.some.inj htop
    exact List.mem_cons_self
  · rw [hvalue, Function.update_of_ne (by simp)]
    exact hx.output other
  · rw [hvalue]
    by_cases heq : other = screen
    · rw [heq, Function.update_self]
    · rw [Function.update_of_ne (by simpa using heq)]
      exact hx.view ((List.mem_cons.mp hother).resolve_left heq)
  · rw [hvalue, Function.update_of_ne (by simp)]
    exact hx.saved

/-- **The invariant is kept**, with the picture chosen in a step put first. -/
theorem explained_step {a : PictureAction Data} (h : s.step a = some t) :
    t.Explained ((s.choice a).toList ++ choices) := by
  cases effect_of_step h with
  | loads _ hnone =>
    rw [hnone]
    exact explained_loadView hx .nothing
  | @chooses screen image htop hchoice =>
    rw [hchoice]
    cases screen with
    | profile number => exact explained_profile hx (hx.top htop) image
    | myProfileEdit number => exact explained_edit hx (hx.top htop) image
  | shows hnone hseen =>
    rw [hnone]
    refine { hx with top := fun htop => ?_ }
    rcases hseen htop with hmem | hbefore
    · exact hmem
    · exact hx.top hbefore

end

/-! ### The pictures chosen in a run -/

/-- The pictures chosen so far, after one more action. -/
def note (choices : Choices Data) (s : Pictures Data) (a : PictureAction Data) : Choices Data :=
  (s.choice a).toList ++ choices

theorem explained_noting {s t : Choices Data × Pictures Data} {a : PictureAction Data}
    (hs : s.2.Explained s.1) (h : noting step note s a = some t) : t.2.Explained t.1 := by
  obtain ⟨hstep, hnote⟩ := noting_eq_some.mp h
  rw [← hnote]
  exact explained_step hs hstep

/-- **What is in the network is explained by what has been chosen**, in every state that can be
reached. -/
theorem explained {choices : Choices Data} {s : Pictures Data}
    {history : List (PictureAction Data)}
    (hr : run (noting step note) ([], launched) history = some (choices, s)) :
    s.Explained choices :=
  run_invariant (P := fun s : Choices Data × Pictures Data => s.2.Explained s.1)
    (fun _ _ _ => explained_noting) explained_launched hr

/-- **The picture chosen last is shown and kept**: the screen that had opened the sheet displays
it, and `MyInfoModel.myProfileImg` is it. -/
def Shown (s : Choices Data × Pictures Data) : Prop :=
  ∀ c ∈ s.1.head?, s.2.network.value (.profileImageView c.1) = some c.2 ∧
    s.2.network.value .myProfileImg = some c.2

/-- A picture that an action chooses arrives: it is chosen in the wizard, or it is the default
image, which the wizard has chosen last. -/
def ChoiceArrives (s : Choices Data × Pictures Data) (a : PictureAction Data) : Prop :=
  ∀ c ∈ s.2.choice a, c.1.isProfile = true ∨
    c.2 = defaultImage ∧ s.1.lastInWizard = some defaultImage

instance [DecidableEq Data] (s : Choices Data × Pictures Data) (a : PictureAction Data) :
    Decidable (ChoiceArrives s a) :=
  inferInstanceAs (Decidable (∀ c ∈ s.2.choice a, _ ∨ _))

/-- What is shown depends on the pictures chosen alone. -/
theorem shown_iff {choices : Choices Data} {s : Pictures Data} (hx : s.Explained choices) :
    Shown (choices, s) ↔ ∀ c ∈ choices.head?,
      choices.pictureOn c.1 = c.2 ∧ choices.lastInWizard.getD .empty = c.2 := by
  refine forall₂_congr fun c hc => ?_
  rw [hx.view (hx.chosen (List.mem_of_mem_head? hc)), hx.saved, Option.some_inj, Option.some_inj]

/-- **After a choice**: the picture is shown and kept if it arrives. -/
theorem head_shown_iff {choices : Choices Data} {screen : PhotoScreen} {image : UIImage Data} :
    (Choices.pictureOn ((screen, image) :: choices) screen = image ∧
      (Choices.lastInWizard ((screen, image) :: choices)).getD .empty = image) ↔
    screen.isProfile = true ∨ image = defaultImage ∧ choices.lastInWizard = some defaultImage := by
  cases screen with
  | profile number =>
    exact iff_of_true ⟨Choices.pictureOn_cons_self, rfl⟩ (Or.inl rfl)
  | myProfileEdit number =>
    rw [Choices.pictureOn_cons_edit, Choices.lastInWizard_cons_edit]
    constructor
    · rintro ⟨rfl, hsaved⟩
      refine Or.inr ⟨rfl, ?_⟩
      cases hlast : choices.lastInWizard with
      | none =>
        rw [hlast] at hsaved
        exact absurd hsaved (by simp [Choices.pictureOn, defaultImage])
      | some image =>
        rw [hlast] at hsaved
        exact congrArg some hsaved
    · rintro (hprofile | ⟨rfl, hlast⟩)
      · exact absurd hprofile (by simp [PhotoScreen.isProfile])
      · exact ⟨rfl, by rw [hlast, Option.getD_some]⟩

/-- **When chosen pictures are shown and kept**: throughout a run, exactly if every picture
arrives that is chosen in it. -/
theorem chosen_pictures_shown_iff {s : Pictures Data} {history : List (PictureAction Data)}
    (hr : run step launched history = some s) :
    Throughout (noting step note) Shown ([], launched) history ↔
      Along (noting step note) ChoiceArrives ([], launched) history := by
  obtain ⟨choices, hnoted⟩ : ∃ choices, run (noting step note) ([], launched) history =
      some (choices, s) := exists_run_noting [] hr
  refine throughout_iff_along (I := fun s : Choices Data × Pictures Data => s.2.Explained s.1)
    (fun _ _ _ => explained_noting) (fun s a t hs hshown h => ?_) explained_launched
    (fun c hc => absurd hc (by simp)) hnoted
  obtain ⟨-, hnote⟩ := noting_eq_some.mp h
  refine (shown_iff (explained_noting hs h)).trans ?_
  rw [← hnote, note, ChoiceArrives]
  cases s.2.choice a with
  | none =>
    -- nothing has been chosen, and the last choice is still shown
    exact iff_of_true ((shown_iff hs).mp hshown) fun c hc => absurd hc (by simp)
  | some c => simpa using head_shown_iff

/-- A picture from the album, cut out on the screen for editing the profile. -/
def croppedOnEdit : List (PictureAction (List UInt8)) :=
  [.appear (.myProfileEdit 0), .tapProfileView, .didTapSelectAlbumButton .authorized .authorized,
    .didFinishPickingMedia (some (.data [255, 216])), .didTapOk (some [137, 80, 78, 71])]

/-- **It is lost**: the screen shows the default image, and the model has the empty one. -/
theorem croppedOnEdit_lost :
    ∃ s, run step launched croppedOnEdit = some s ∧
      s.network.value (.profileImageView (.myProfileEdit 0)) = some defaultImage ∧
      s.network.value .myProfileImg = some .empty ∧
      ¬Throughout (noting step note) Shown ([], launched) croppedOnEdit := by
  refine ⟨_, rfl, by decide, by decide, fun h => ?_⟩
  have hr : run (noting step note) ([], launched) croppedOnEdit = some (_, _) := rfl
  obtain ⟨hview, -⟩ := h.last hr _ rfl
  exact absurd hview (by decide)

/-- In the wizard a picture is cut out, and the default image chosen again; then it
is chosen once more on the screen for editing. -/
def resetEverywhere : List (PictureAction (List UInt8)) :=
  [.appear (.profile 0), .tapProfileView, .didTapSelectAlbumButton .notDetermined .authorized,
    .didFinishPickingMedia (some (.data [255, 216])), .didTapOk (some [137, 80, 78, 71]),
    .tapProfileView, .didTapChangeDefaultImageButton, .leave, .appear (.myProfileEdit 0),
    .tapProfileView, .didTapChangeDefaultImageButton]

/-- All these are shown and kept. -/
theorem resetEverywhere_shown :
    Throughout (noting step note) Shown ([], launched) resetEverywhere := by
  have hr : run step launched resetEverywhere = some _ := rfl
  exact (chosen_pictures_shown_iff hr).mpr (by decide)

end Pictures

end Joinus
