import Joinus.Base.Run
import Joinus.Base.Subjects

/-!
# The picture sheet

Two screens show the picture of the user and let it be changed: the last one of the
wizard, and the one for editing the profile. Each has a sheet of its own, with three
buttons – an album, the default image, and cancel – and over the sheet come the picker of
the system and the screen that crops what has been picked. Whatever is chosen in the end
is sent to one subject, the input of the view model that the *sheet* has.

What happens then depends on what is bound to this input, and binding is left to the
screen that has the sheet: `loadView` binds a view model to the shared model and to the
image view, once, when the screen is first shown.

| screen | the view model that `loadView` binds | name |
|---|---|---|
| the last one of the wizard | that of the sheet | `Joinus.ProfileViewController.loadView` |
| editing the profile | its own | `Joinus.MyProfileEditViewController.loadView` |

View models and views are followed here as a network of subjects
(`Joinus.Pictures.network`): an input is a `PublishSubject` and keeps nothing, an output
is a `BehaviorSubject`; the image view of a screen and the picture in the shared model
have the last value they were given. There may be any number of screens of either kind,
in any order. Which of them is shown when, navigation decides; a screen is not left while
something lies over it.
-/

namespace Joinus

open Base

/-! ### Pictures -/

/-- `UIImage`: without a picture in it, from the assets of the app, or made of data. -/
inductive UIImage (Data : Type*) where
  | empty
  | named (name : String)
  | data (imageData : Data)
  deriving DecidableEq

variable {Data : Type*}

/-- The image that an output begins with, and to which the sheet resets. -/
def defaultImage : UIImage Data := .named "defaultProfile_60x60"

/-! ### Screens and subjects -/

/-- A screen with a sheet: a `ProfileViewControllerViewController` of the wizard, or a
`MyProfileEditViewController`. -/
inductive PhotoScreen where
  | profile (number : ℕ)
  | myProfileEdit (number : ℕ)
  deriving DecidableEq

/-- A view model with a picture: the `OnboardingViewModel` that the sheet of a screen has, or the
`MyInfoViewModel` of a `MyProfileEditViewController`. -/
inductive PhotoViewModel where
  | onboarding (screen : PhotoScreen)
  | myInfo (number : ℕ)
  deriving DecidableEq

/-- Where a picture can come by. -/
inductive PhotoSubject where
  | selectProfileImageInputSubject (viewModel : PhotoViewModel)
  | myProfileImageOutputSubject (viewModel : PhotoViewModel)
  /-- The image view in the `profilePhotoView` of a screen. -/
  | profileImageView (screen : PhotoScreen)
  /-- `MyInfoModel.myProfileImg`. -/
  | myProfileImg
  deriving DecidableEq

/-- An input is bound to an output, and an output to a view. -/
def photoKinds : SubjectKinds PhotoSubject where
  height
    | .selectProfileImageInputSubject _ => 2
    | .myProfileImageOutputSubject _ => 1
    | .profileImageView _ => 0
    | .myProfileImg => 0
  keeps
    | .selectProfileImageInputSubject _ => false
    | .myProfileImageOutputSubject _ => true
    | .profileImageView _ => true
    | .myProfileImg => true

theorem myProfileImg_below (viewModel : PhotoViewModel) :
    photoKinds.height .myProfileImg <
      photoKinds.height (.selectProfileImageInputSubject viewModel) := Nat.two_pos

theorem output_below_input (viewModel : PhotoViewModel) :
    photoKinds.height (.myProfileImageOutputSubject viewModel) <
      photoKinds.height (.selectProfileImageInputSubject viewModel) := Nat.one_lt_two

theorem view_below_output (screen : PhotoScreen) (viewModel : PhotoViewModel) :
    photoKinds.height (.profileImageView screen) <
      photoKinds.height (.myProfileImageOutputSubject viewModel) := Nat.one_pos

theorem input_forgets (viewModel : PhotoViewModel) :
    photoKinds.keeps (.selectProfileImageInputSubject viewModel) = false := rfl

/-- Pictures on their way. -/
abbrev PhotoNetwork (Data : Type*) := Network photoKinds (UIImage Data)

/-- Nothing is bound: the outputs have the default image, the model has an empty one, the views
have none. -/
def PhotoNetwork.initial : PhotoNetwork Data where
  bindings := []
  value
    | .selectProfileImageInputSubject _ => none
    | .myProfileImageOutputSubject _ => some defaultImage
    | .profileImageView _ => none
    | .myProfileImg => some .empty
  downwards _ hb := absurd hb List.not_mem_nil
  forgetful
    | .selectProfileImageInputSubject _, _ => rfl

/-! ### Binding -/

/-- `bindSelectProfileImage`, which both kinds of view models have: what comes in is
saved by `saveMyProfileImage`, and goes out. -/
def PhotoViewModel.bindSelectProfileImage (viewModel : PhotoViewModel) (net : PhotoNetwork Data) :
    PhotoNetwork Data :=
  (net.bind (.selectProfileImageInputSubject viewModel) .myProfileImg
    (myProfileImg_below viewModel)).bind
      (.selectProfileImageInputSubject viewModel) (.myProfileImageOutputSubject viewModel)
      (output_below_input viewModel)

/-- What a `loadView` does: the view model is bound, and its output to the image view. -/
def PhotoScreen.bindTo (screen : PhotoScreen) (viewModel : PhotoViewModel)
    (net : PhotoNetwork Data) : PhotoNetwork Data :=
  (viewModel.bindSelectProfileImage net).bind (.myProfileImageOutputSubject viewModel)
    (.profileImageView screen) (view_below_output screen viewModel)

/-- `ProfileViewControllerViewController.loadView`: the view model of its sheet. -/
def ProfileViewController.loadView (number : ℕ) (net : PhotoNetwork Data) : PhotoNetwork Data :=
  PhotoScreen.bindTo (.profile number) (.onboarding (.profile number)) net

/-- `MyProfileEditViewController.loadView`: a view model of its own. -/
def MyProfileEditViewController.loadView (number : ℕ) (net : PhotoNetwork Data) :
    PhotoNetwork Data :=
  PhotoScreen.bindTo (.myProfileEdit number) (.myInfo number) net

def PhotoScreen.loadView (net : PhotoNetwork Data) : PhotoScreen → PhotoNetwork Data
  | .profile number => ProfileViewController.loadView number net
  | .myProfileEdit number => MyProfileEditViewController.loadView number net

/-- The view model that a screen binds. -/
def PhotoScreen.viewModel : PhotoScreen → PhotoViewModel
  | .profile number => .onboarding (.profile number)
  | .myProfileEdit number => .myInfo number

/-- The bindings that a screen makes. -/
def PhotoScreen.bindings (screen : PhotoScreen) : List (PhotoSubject × PhotoSubject) :=
  [(.selectProfileImageInputSubject screen.viewModel, .myProfileImg),
    (.selectProfileImageInputSubject screen.viewModel,
      .myProfileImageOutputSubject screen.viewModel),
    (.myProfileImageOutputSubject screen.viewModel, .profileImageView screen)]

theorem loadView_eq (screen : PhotoScreen) (net : PhotoNetwork Data) :
    screen.loadView net = screen.bindTo screen.viewModel net := by
  cases screen with
  | profile number => rfl
  | myProfileEdit number => rfl

theorem bindings_loadView (screen : PhotoScreen) (net : PhotoNetwork Data) :
    (screen.loadView net).bindings = net.bindings ++ screen.bindings := by
  rw [loadView_eq, PhotoScreen.bindTo, PhotoViewModel.bindSelectProfileImage]
  simp [PhotoScreen.bindings]

/-- **A view that is loaded shows what the output has**, and nothing else has changed. -/
theorem value_loadView {screen : PhotoScreen} {net : PhotoNetwork Data} {image : UIImage Data}
    (h : net.value (.myProfileImageOutputSubject screen.viewModel) = some image) :
    (screen.loadView net).value =
      Function.update net.value (.profileImageView screen) (some image) := by
  have hbound : (screen.viewModel.bindSelectProfileImage net).value = net.value := by
    rw [PhotoViewModel.bindSelectProfileImage, Network.value_bind_of_forgetful _ (input_forgets _),
      Network.value_bind_of_forgetful _ (input_forgets _)]
  have hout : (screen.viewModel.bindSelectProfileImage net).value
      (.myProfileImageOutputSubject screen.viewModel) = some image := by
    rw [hbound, h]
  rw [loadView_eq, PhotoScreen.bindTo, Network.value_bind_of_bottom _ hout rfl rfl, hbound]

/-! ### What is on screen -/

/-- What lies over a screen: nothing, its sheet, or the picker or the
`CircleCropViewController` over the sheet. -/
inductive Presented (Data : Type*) where
  | nothing
  | joinusAlert
  | picker
  | circleCrop (image : UIImage Data)

/-- `PHAuthorizationStatus`. -/
inductive PHAuthorizationStatus where
  | notDetermined
  | restricted
  | denied
  | authorized
  | limited

/-- The screens with a picture: their subjects, those of them whose view is loaded, and the one
that is seen, with what lies over it. -/
structure Pictures (Data : Type*) where
  network : PhotoNetwork Data
  loaded : List PhotoScreen
  seen : Option (PhotoScreen × Presented Data)

inductive PictureAction (Data : Type*) where
  /-- Navigation comes to a screen with a picture, or to one without. -/
  | appear (screen : PhotoScreen)
  | leave
  | tapProfileView
  /-- The cancel button of the sheet, or a tap beside it. -/
  | didTapCancelButton
  /-- The album button, when the status is found to be `found`; where that is not determined,
  the user is asked and answers. -/
  | didTapSelectAlbumButton (found answered : PHAuthorizationStatus)
  | didTapChangeDefaultImageButton
  /-- The picker, with the original image of what has been picked, if it has one. -/
  | didFinishPickingMedia (originalImage : Option (UIImage Data))
  | cancelPicker
  /-- The buttons of the crop screen: what is cut out comes as data, if it can be
  written as data and read again. -/
  | didTapOk (imageData : Option Data)
  | didTapBack

namespace Pictures

/-- The app before any screen with a picture has been shown. -/
def launched : Pictures Data where
  network := .initial
  loaded := []
  seen := none

/-! ### The handlers -/

/-- A screen is shown; the first time its view is loaded. -/
def showScreen (s : Pictures Data) (screen : PhotoScreen) : Pictures Data :=
  if screen ∈ s.loaded then { s with seen := some (screen, .nothing) }
  else
    { network := screen.loadView s.network
      loaded := screen :: s.loaded
      seen := some (screen, .nothing) }

/-- `JoinusAlertViewController.requestPhotosPermission`: whether it comes to
`requestCollection`. -/
def requestPhotosPermission (found answered : PHAuthorizationStatus) : Bool :=
  match found with
  | .authorized => true
  | .notDetermined =>
    match answered with
    | .authorized => true
    | _ => false
  | _ => false

/-- A picture has been chosen in the sheet of a screen: it is sent to the input, and everything
that lies over the screen goes away. -/
def selectProfileImage (s : Pictures Data) (screen : PhotoScreen) (image : UIImage Data) :
    Pictures Data :=
  { s with
    network := s.network.send (.selectProfileImageInputSubject (.onboarding screen)) image
    seen := some (screen, .nothing) }

/-- `JoinusAlertViewController.didTapChangeDefaultImageButton`. -/
def didTapChangeDefaultImageButton (s : Pictures Data) (screen : PhotoScreen) : Pictures Data :=
  s.selectProfileImage screen defaultImage

/-- `JoinusAlertViewController.circleCropDidCropImage`. -/
def circleCropDidCropImage (s : Pictures Data) (screen : PhotoScreen) (image : UIImage Data) :
    Pictures Data :=
  s.selectProfileImage screen image

/-- `JoinusAlertViewController.circleCropDidCancel`: back to the sheet. -/
def circleCropDidCancel (s : Pictures Data) (screen : PhotoScreen) : Pictures Data :=
  { s with seen := some (screen, .joinusAlert) }

/-- `CircleCropViewController.didTapOk`. -/
def didTapOk (s : Pictures Data) (screen : PhotoScreen) : Option Data → Pictures Data
  | some imageData => s.circleCropDidCropImage screen (.data imageData)
  | none => s.circleCropDidCancel screen

/-- `imagePickerController(_:didFinishPickingMediaWithInfo:)`: without an original image the picker
stays. -/
def didFinishPickingMedia (s : Pictures Data) (screen : PhotoScreen) :
    Option (UIImage Data) → Pictures Data
  | some image => { s with seen := some (screen, .circleCrop image) }
  | none => s

def step (s : Pictures Data) (a : PictureAction Data) : Option (Pictures Data) :=
  match s.seen, a with
  | none, .appear screen => some (s.showScreen screen)
  | some (_, .nothing), .appear screen => some (s.showScreen screen)
  | some (_, .nothing), .leave => some { s with seen := none }
  | some (screen, .nothing), .tapProfileView =>
    some { s with seen := some (screen, .joinusAlert) }
  | some (screen, .joinusAlert), .didTapCancelButton =>
    some { s with seen := some (screen, .nothing) }
  | some (screen, .joinusAlert), .didTapSelectAlbumButton found answered =>
    some (if requestPhotosPermission found answered then
      { s with seen := some (screen, .picker) } else s)
  | some (screen, .joinusAlert), .didTapChangeDefaultImageButton =>
    some (s.didTapChangeDefaultImageButton screen)
  | some (screen, .picker), .didFinishPickingMedia originalImage =>
    some (s.didFinishPickingMedia screen originalImage)
  | some (screen, .picker), .cancelPicker =>
    some { s with seen := some (screen, .joinusAlert) }
  | some (screen, .circleCrop _), .didTapOk imageData => some (s.didTapOk screen imageData)
  | some (screen, .circleCrop _), .didTapBack => some (s.circleCropDidCancel screen)
  | _, _ => none

/-- The screen and the picture, if an action chooses one: the default image from the
sheet, or what has been cut out. -/
def choice (s : Pictures Data) (a : PictureAction Data) : Option (PhotoScreen × UIImage Data) :=
  match s.seen, a with
  | some (screen, .joinusAlert), .didTapChangeDefaultImageButton => some (screen, defaultImage)
  | some (screen, .circleCrop _), .didTapOk (some imageData) => some (screen, .data imageData)
  | _, _ => none

/-- The screen with a picture that is seen, itself or under something else. -/
def top (s : Pictures Data) : Option PhotoScreen := s.seen.map Prod.fst

/-! ### What a step does -/

/-- **What a step can do**: load the view of a screen and show it, choose a picture, or show
something else and leave the network as it is – then no screen is seen that had not been loaded or
seen. -/
inductive Effect (s : Pictures Data) (a : PictureAction Data) : Pictures Data → Prop where
  | loads {screen : PhotoScreen} (hnew : screen ∉ s.loaded) (hnone : s.choice a = none) :
    Effect s a ⟨screen.loadView s.network, screen :: s.loaded, some (screen, .nothing)⟩
  | chooses {screen : PhotoScreen} {image : UIImage Data} (htop : s.top = some screen)
    (hchoice : s.choice a = some (screen, image)) : Effect s a (s.selectProfileImage screen image)
  | shows {seen : Option (PhotoScreen × Presented Data)} (hnone : s.choice a = none)
    (hseen : ∀ {screen}, seen.map Prod.fst = some screen →
      screen ∈ s.loaded ∨ s.top = some screen) :
    Effect s a { s with seen := seen }

/-- To show a screen chooses no picture. -/
theorem choice_appear (s : Pictures Data) (screen : PhotoScreen) :
    s.choice (.appear screen) = none := by
  obtain ⟨net, loaded, _ | ⟨screen', _ | _⟩⟩ := s <;> rfl

theorem effect_showScreen (s : Pictures Data) (screen : PhotoScreen) :
    s.Effect (.appear screen) (s.showScreen screen) := by
  rw [showScreen]
  split_ifs with hmem
  · refine .shows (choice_appear s screen) fun htop => Or.inl ?_
    obtain rfl := Option.some.inj htop
    exact hmem
  · exact .loads hmem (choice_appear s screen)

/-- Over the screen that is seen anything may be shown. -/
theorem effect_over {s : Pictures Data} {a : PictureAction Data} {screen : PhotoScreen}
    (hnone : s.choice a = none) (htop : s.top = some screen) (presented : Presented Data) :
    s.Effect a { s with seen := some (screen, presented) } :=
  .shows hnone fun h => Or.inr (htop.trans h)

theorem effect_of_step {s t : Pictures Data} {a : PictureAction Data} (h : s.step a = some t) :
    s.Effect a t := by
  obtain ⟨net, loaded, seen⟩ := s
  rcases seen with _ | ⟨screen, presented⟩
  · -- nothing is seen that could be tapped
    cases a with
    | appear screen =>
      obtain rfl := Option.some.inj h
      exact effect_showScreen _ screen
    | _ => exact absurd h (by simp [step])
  · cases presented with
    | nothing =>
      cases a with
      | appear screen =>
        obtain rfl := Option.some.inj h
        exact effect_showScreen _ screen
      | leave =>
        obtain rfl := Option.some.inj h
        exact .shows rfl fun htop => absurd htop (by simp)
      | tapProfileView =>
        obtain rfl := Option.some.inj h
        exact effect_over rfl rfl .joinusAlert
      | _ => exact absurd h (by simp [step])
    | joinusAlert =>
      cases a with
      | didTapCancelButton =>
        obtain rfl := Option.some.inj h
        exact effect_over rfl rfl .nothing
      | didTapSelectAlbumButton found answered =>
        obtain rfl := Option.some.inj h
        split_ifs
        · exact effect_over rfl rfl .picker
        · exact effect_over rfl rfl .joinusAlert
      | didTapChangeDefaultImageButton =>
        obtain rfl := Option.some.inj h
        exact .chooses rfl rfl
      | _ => exact absurd h (by simp [step])
    | picker =>
      cases a with
      | didFinishPickingMedia originalImage =>
        obtain rfl := Option.some.inj h
        cases originalImage with
        | none => exact effect_over rfl rfl .picker
        | some image => exact effect_over rfl rfl (.circleCrop image)
      | cancelPicker =>
        obtain rfl := Option.some.inj h
        exact effect_over rfl rfl .joinusAlert
      | _ => exact absurd h (by simp [step])
    | circleCrop image =>
      cases a with
      | didTapOk imageData =>
        obtain rfl := Option.some.inj h
        cases imageData with
        | none => exact effect_over rfl rfl .joinusAlert
        | some imageData => exact .chooses rfl rfl
      | didTapBack =>
        obtain rfl := Option.some.inj h
        exact effect_over rfl rfl .joinusAlert
      | _ => exact absurd h (by simp [step])

end Pictures

end Joinus
