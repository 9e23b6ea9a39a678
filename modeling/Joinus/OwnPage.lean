import Joinus.Base.Run
import Joinus.Base.Subjects
import Joinus.Navigation.Manner

/-!
# The own page, and the name that is edited

The own page shows the name of the user, the tier and the manner. The three are written
once, when the page is loaded (`Joinus.OwnPage.setMyProfile`); what changes later is the
name only, and it changes on the screen for editing the profile. That screen is made
together with the page and there is one of it: its text field gets the name when it is
loaded for the first time, and keeps its text from one visit to the next.

The name comes back over two subjects. The view model of the edit screen – which the page
takes over as its own before it binds anything – passes on what its input is sent to its
output, and the label of the page is bound to the output. Neither subject keeps a value, so
that a name that is sent before the page has been loaded would be lost.

| way to leave the edit screen | the name | the text field |
|---|---|---|
| back button, with a text | is the text | keeps it |
| back button, without a text | stays as it is | stays empty |
| item of the tab bar, while the tab bar is seen | stays as it is | keeps what has been typed |

The tab bar is hidden when the edit screen is loaded, and shown when the back button is
tapped, so that from the second visit on the third way is there. So the page always shows the
name (`Joinus.OwnPage.name_shown`), and the edit screen does unless it has been left
otherwise (`Joinus.OwnPage.field_tells_iff`).
-/

namespace Joinus

open Base

/-! ### Tiers -/

/-- `TierToString.toString(tier:)`. -/
def TierToString.toString : ℤ → String
  | 0 => "아이언"
  | 1 => "브론즈"
  | 2 => "실버"
  | 3 => "골드"
  | 4 => "플래티넘"
  | 5 => "다이아"
  | 6 => "마스터"
  | 7 => "챌린저"
  | _ => ""

/-! ### The subjects of the name -/

/-- Where a name can come by. -/
inductive NameSubject where
  | inputEditMyGameID
  | outputShowGameID
  /-- The label in the `myProfileInfoView` of the page. -/
  | nickNameLabel
  deriving DecidableEq

/-- The two subjects of the view model are `PublishSubject`s. -/
def nameKinds : SubjectKinds NameSubject where
  height
    | .inputEditMyGameID => 2
    | .outputShowGameID => 1
    | .nickNameLabel => 0
  keeps
    | .inputEditMyGameID => false
    | .outputShowGameID => false
    | .nickNameLabel => true

abbrev NameNetwork := Network nameKinds String

/-- Nothing is bound, and the label is empty. -/
def NameNetwork.initial : NameNetwork where
  bindings := []
  value _ := none
  downwards _ hb := absurd hb List.not_mem_nil
  forgetful _ _ := rfl

/-- `MyInfoViewModel.bindShowGameID`. -/
def NameNetwork.bindShowGameID (net : NameNetwork) : NameNetwork :=
  net.bind .inputEditMyGameID .outputShowGameID Nat.one_lt_two

/-- The text of the label is set. -/
def NameNetwork.setText (net : NameNetwork) (text : String) : NameNetwork where
  bindings := net.bindings
  value := Function.update net.value .nickNameLabel (some text)
  downwards := net.downwards
  forgetful n hn := by
    cases n with
    | inputEditMyGameID => exact net.forgetful _ hn
    | outputShowGameID => exact net.forgetful _ hn
    | nickNameLabel => exact absurd hn (by simp [nameKinds])

/-! ### The page -/

/-- The page and its edit screen, with the shared model. `tabBarIsHidden` is what the
edit screen is left by. -/
structure OwnPage where
  myInfoModel : MyInfoModel
  network : NameNetwork
  isLoaded : Bool
  myTierLabel : String
  mannerImages : List String
  editIsLoaded : Bool
  editIsShown : Bool
  gameIdEditTextField : String
  clearButtonIsHidden : Bool
  tabBarIsHidden : Bool

/-- After the sign-in. -/
def OwnPage.signedIn (myInfoModel : MyInfoModel) : OwnPage where
  myInfoModel := myInfoModel
  network := .initial
  isLoaded := false
  myTierLabel := ""
  mannerImages := []
  editIsLoaded := false
  editIsShown := false
  gameIdEditTextField := ""
  clearButtonIsHidden := true
  tabBarIsHidden := false

inductive OwnPageAction where
  /-- The tab is selected for the first time. -/
  | loadView
  | didTapEditProfileButton
  /-- The text field has been edited, and now has this text. -/
  | editingChanged (text : String)
  | didTapClearButton
  /-- The back button of the edit screen. -/
  | popViewController
  /-- The item of the tab, while the edit screen is shown. -/
  | didSelectTab
  /-- What other screens do to the tab bar. -/
  | tabBar (isHidden : Bool)

namespace OwnPage

/-- `setMyProfile`. -/
def setMyProfile (s : OwnPage) : OwnPage :=
  { s with
    network := s.network.setText s.myInfoModel.myGameID
    myTierLabel := TierToString.toString s.myInfoModel.myTier
    mannerImages := setMannerStatus s.mannerImages s.myInfoModel.myMannerScore }

/-- `MyInfoViewController.loadView`. -/
def loadView (s : OwnPage) : OwnPage :=
  setMyProfile
    { s with
      isLoaded := true
      network := s.network.bindShowGameID.bind .outputShowGameID .nickNameLabel Nat.one_pos }

/-- `MyProfileEditViewController.textFieldStatus`, when the screen is loaded. -/
def textFieldStatus (s : OwnPage) : OwnPage :=
  { s with
    gameIdEditTextField := s.myInfoModel.myGameID
    clearButtonIsHidden := if s.myInfoModel.myGameID ≠ "" then false else s.clearButtonIsHidden }

/-- `didTapEditProfileButton`: the screen is loaded the first time it is pushed. -/
def didTapEditProfileButton (s : OwnPage) : OwnPage :=
  if s.editIsLoaded then { s with editIsShown := true }
  else textFieldStatus { s with editIsShown := true, editIsLoaded := true, tabBarIsHidden := true }

/-- `textFieldStatus`, when the text has been edited. -/
def editingChanged (s : OwnPage) (text : String) : OwnPage :=
  { s with
    gameIdEditTextField := text
    clearButtonIsHidden := if text ≠ "" then false else true }

/-- `didTapClearButton`. -/
def didTapClearButton (s : OwnPage) : OwnPage :=
  { s with gameIdEditTextField := "", clearButtonIsHidden := true }

/-- `MyProfileEditViewController.popViewController`: a text is sent to the page, and is the
name from now on. -/
def popViewController (s : OwnPage) : OwnPage :=
  let s :=
    if s.gameIdEditTextField ≠ "" then
      { s with
        network := s.network.send .inputEditMyGameID s.gameIdEditTextField
        myInfoModel := { s.myInfoModel with myGameID := s.gameIdEditTextField } }
    else s
  { s with editIsShown := false, tabBarIsHidden := false }

/-- What an action does, and where it is offered. -/
def step (s : OwnPage) : OwnPageAction → Option OwnPage
  | .loadView => if s.isLoaded then none else some s.loadView
  | .didTapEditProfileButton =>
    if s.isLoaded ∧ ¬s.editIsShown then some s.didTapEditProfileButton else none
  | .editingChanged text => if s.editIsShown then some (s.editingChanged text) else none
  | .didTapClearButton =>
    if s.editIsShown ∧ ¬s.clearButtonIsHidden then some s.didTapClearButton else none
  | .popViewController => if s.editIsShown then some s.popViewController else none
  | .didSelectTab =>
    if s.editIsShown ∧ ¬s.tabBarIsHidden then some { s with editIsShown := false } else none
  | .tabBar isHidden =>
    if s.editIsShown then none else some { s with tabBarIsHidden := isHidden }

/-- The name that an action saves. -/
def saves (s : OwnPage) : OwnPageAction → Option String
  | .popViewController =>
    if s.gameIdEditTextField ≠ "" then some s.gameIdEditTextField else none
  | _ => none

/-- The names that have been saved, the last one first. -/
def note (saved : List String) (s : OwnPage) (a : OwnPageAction) : List String :=
  (s.saves a).toList ++ saved

/-! ### The name -/

/-- The label is bound to what the edit screen sends. -/
def Bound (net : NameNetwork) : Prop :=
  net.bindings = [(.inputEditMyGameID, .outputShowGameID), (.outputShowGameID, .nickNameLabel)]

/-- **What is sent comes out at the label.** -/
theorem value_send_of_bound {net : NameNetwork} (h : Bound net) (text : String) :
    (net.send .inputEditMyGameID text).value .nickNameLabel = some text := by
  have hbindings : net.bindings =
      [(.inputEditMyGameID, .outputShowGameID), (.outputShowGameID, .nickNameLabel)] := h
  have hreach : net.Reaches .inputEditMyGameID .nickNameLabel := by
    refine ((Network.Reaches.refl net _).tail (b := .outputShowGameID) ?_).tail ?_
    · rw [hbindings]
      exact List.mem_cons_self
    · rw [hbindings]
      exact List.mem_cons_of_mem _ List.mem_cons_self
  exact Network.delivered_send.reached hreach rfl

/-- **What holds between the page, its edit screen and the model**, for a user who has signed
in with some name and has saved others since. -/
structure Tells (name : String) (saved : List String) (s : OwnPage) : Prop where
  name : s.myInfoModel.myGameID = saved.head?.getD name
  saved : ∀ text ∈ saved, text ≠ ""
  unbound : s.isLoaded = false → s.network.bindings = [] ∧ s.editIsShown = false
  bound : s.isLoaded = true → Bound s.network
  label : s.isLoaded = true → s.network.value .nickNameLabel = some s.myInfoModel.myGameID
  clear : s.clearButtonIsHidden = true ↔ s.gameIdEditTextField = ""
  unloaded : s.editIsLoaded = false → s.clearButtonIsHidden = true ∧ s.editIsShown = false

variable {name : String} {saved : List String} {s t : OwnPage}

theorem tells_signedIn (myInfoModel : MyInfoModel) :
    Tells myInfoModel.myGameID [] (signedIn myInfoModel) where
  name := rfl
  saved := by simp
  unbound _ := ⟨rfl, rfl⟩
  bound := nofun
  label := nofun
  clear := iff_of_true rfl rfl
  unloaded _ := ⟨rfl, rfl⟩

theorem tells_loadView (hs : s.Tells name saved) (hloaded : s.isLoaded = false) :
    s.loadView.Tells name saved where
  name := hs.name
  saved := hs.saved
  unbound := nofun
  bound _ := by
    change s.network.bindings ++ [_] ++ [_] = _
    rw [(hs.unbound hloaded).1]
    rfl
  label _ := by
    change Function.update s.loadView.network.value .nickNameLabel _ .nickNameLabel = _
    exact Function.update_self _ _ _
  clear := hs.clear
  unloaded := hs.unloaded

theorem tells_didTapEditProfileButton (hs : s.Tells name saved) (hloaded : s.isLoaded = true) :
    s.didTapEditProfileButton.Tells name saved := by
  rw [didTapEditProfileButton]
  split_ifs with hedit
  · exact
      { name := hs.name, saved := hs.saved, bound := hs.bound, label := hs.label, clear := hs.clear,
        unbound := fun h => absurd (hloaded.symm.trans h) nofun
        unloaded := fun h => absurd (hedit.symm.trans h) nofun }
  · refine
      { name := hs.name, saved := hs.saved, bound := hs.bound, label := hs.label,
        unbound := fun h => absurd (hloaded.symm.trans h) nofun
        clear := ?_
        unloaded := nofun }
    -- the button was hidden, and it is shown if there is a name to clear
    have hhidden := (hs.unloaded (Bool.eq_false_iff.mpr hedit)).1
    by_cases hname : s.myInfoModel.myGameID = "" <;> simp [textFieldStatus, hname, hhidden]

theorem tells_popViewController (hs : s.Tells name saved) (hloaded : s.isLoaded = true) :
    s.popViewController.Tells name (note saved s .popViewController) := by
  rw [popViewController, note, saves]
  split_ifs with htext
  · refine
      { name := rfl, clear := hs.clear, bound := hs.bound
        unloaded := fun h => ⟨(hs.unloaded h).1, rfl⟩
        saved := ?_
        unbound := fun h => absurd (hloaded.symm.trans h) nofun
        label := fun _ => value_send_of_bound (hs.bound hloaded) _ }
    intro text hmem
    rcases List.mem_cons.mp hmem with rfl | hmem
    · exact htext
    · exact hs.saved text hmem
  · exact
      { name := hs.name, saved := hs.saved, bound := hs.bound, label := hs.label, clear := hs.clear,
        unbound := fun h => absurd (hloaded.symm.trans h) nofun
        unloaded := fun h => ⟨(hs.unloaded h).1, rfl⟩ }

theorem Tells.loaded_of_shown (hs : s.Tells name saved) (h : s.editIsShown = true) :
    s.isLoaded = true := by
  by_contra hnot
  exact absurd ((hs.unbound (Bool.eq_false_iff.mpr hnot)).2.symm.trans h) nofun

theorem tells_step {a : OwnPageAction} (hs : s.Tells name saved) (h : s.step a = some t) :
    t.Tells name (note saved s a) := by
  cases a with
  | loadView =>
    rw [step] at h
    split_ifs at h with hloaded
    obtain rfl := Option.some.inj h
    exact tells_loadView hs (Bool.eq_false_iff.mpr hloaded)
  | didTapEditProfileButton =>
    rw [step] at h
    split_ifs at h with hoffered
    obtain rfl := Option.some.inj h
    exact tells_didTapEditProfileButton hs hoffered.1
  | editingChanged text =>
    rw [step] at h
    split_ifs at h with hshown
    obtain rfl := Option.some.inj h
    have hloaded := hs.loaded_of_shown hshown
    exact
      { name := hs.name, saved := hs.saved, bound := hs.bound, label := hs.label
        unbound := fun hnot => absurd (hloaded.symm.trans hnot) nofun
        clear := by by_cases htext : text = "" <;> simp [editingChanged, htext]
        unloaded := fun hnot => absurd ((hs.unloaded hnot).2.symm.trans hshown) nofun }
  | didTapClearButton =>
    rw [step] at h
    split_ifs at h with hoffered
    obtain rfl := Option.some.inj h
    exact
      { name := hs.name, saved := hs.saved, bound := hs.bound, label := hs.label
        unbound := hs.unbound
        clear := iff_of_true rfl rfl
        unloaded := fun hnot => ⟨rfl, (hs.unloaded hnot).2⟩ }
  | popViewController =>
    rw [step] at h
    split_ifs at h with hshown
    obtain rfl := Option.some.inj h
    exact tells_popViewController hs (hs.loaded_of_shown hshown)
  | didSelectTab =>
    rw [step] at h
    split_ifs at h with hoffered
    obtain rfl := Option.some.inj h
    exact ⟨hs.name, hs.saved, fun hnot => ⟨(hs.unbound hnot).1, rfl⟩, hs.bound, hs.label, hs.clear,
      fun hnot => ⟨(hs.unloaded hnot).1, rfl⟩⟩
  | tabBar isHidden =>
    rw [step] at h
    split_ifs at h with hshown
    obtain rfl := Option.some.inj h
    exact ⟨hs.name, hs.saved, hs.unbound, hs.bound, hs.label, hs.clear, hs.unloaded⟩

/-- **The page shows the name**, which is the last one that has been saved: in every run after
a sign-in, with the names noted down that the edit screen has been left with. No empty name
is ever saved; once the page has been loaded its label has the name of the shared model; and
the clear button of the edit screen is hidden exactly while there is nothing to clear. -/
theorem name_shown {myInfoModel : MyInfoModel} {as : List OwnPageAction}
    (hr : run step (signedIn myInfoModel) as = some s) :
    ∃ saved, run (noting step note) ([], signedIn myInfoModel) as = some (saved, s) ∧
      s.myInfoModel.myGameID = saved.head?.getD myInfoModel.myGameID ∧
      (∀ text ∈ saved, text ≠ "") ∧
      (s.isLoaded = true → s.network.value .nickNameLabel = some s.myInfoModel.myGameID) ∧
      (s.clearButtonIsHidden = true ↔ s.gameIdEditTextField = "") := by
  obtain ⟨saved, hsaved⟩ : ∃ saved, run (noting step note) ([], signedIn myInfoModel) as =
      some (saved, s) := exists_run_noting [] hr
  have htells : s.Tells myInfoModel.myGameID saved :=
    run_invariant (P := fun u => u.2.Tells myInfoModel.myGameID u.1)
      (fun u a v hu h => by
        obtain ⟨hstep, hnote⟩ := noting_eq_some.mp h
        rw [← hnote]
        exact tells_step hu hstep)
      (tells_signedIn myInfoModel) hsaved
  exact ⟨saved, hsaved, htells.name, htells.saved, htells.label, htells.clear⟩

/-- A user. -/
def faker : MyInfoModel := { MyInfoModel.initial with myGameID := "Faker" }

/-- The name is changed, then the text is cleared and left so; the third visit ends with the
item of the tab bar. -/
def threeVisits : List OwnPageAction :=
  [.loadView, .didTapEditProfileButton, .editingChanged "Score", .popViewController,
    .didTapEditProfileButton, .didTapClearButton, .popViewController,
    .didTapEditProfileButton, .editingChanged "Bengi", .didSelectTab]

/-- The name that has been saved is shown. -/
theorem threeVisits_shown :
    ∃ s, run step (signedIn faker) threeVisits = some s ∧
      s.network.value .nickNameLabel = some "Score" ∧ s.gameIdEditTextField = "Bengi" := by
  have hr : run step (signedIn faker) threeVisits = some _ := rfl
  obtain ⟨saved, -, -, -, hlabel, -⟩ := name_shown hr
  exact ⟨_, hr, hlabel rfl, rfl⟩

/-! ### The text field -/

/-- **The text field has the name** when the edit screen is opened again. -/
def FieldTells (s : OwnPage) : Prop :=
  s.editIsLoaded = true → s.editIsShown = false →
    s.gameIdEditTextField = s.myInfoModel.myGameID

/-- **The edit screen is left with the name**: by the back button with a text, or by the item of
the tab bar with the text that is the name. -/
def LeftWithName (s : OwnPage) : OwnPageAction → Prop
  | .popViewController => s.gameIdEditTextField = "" → s.myInfoModel.myGameID = ""
  | .didSelectTab => s.gameIdEditTextField = s.myInfoModel.myGameID
  | _ => True

instance (s : OwnPage) : ∀ a, Decidable (s.LeftWithName a)
  | .popViewController => inferInstanceAs (Decidable (_ → _))
  | .didSelectTab => inferInstanceAs (Decidable (_ = _))
  | .loadView | .didTapEditProfileButton | .editingChanged _ | .didTapClearButton | .tabBar _ =>
    isTrue trivial

theorem fieldTells_step_iff (s : OwnPage) (a : OwnPageAction) (t : OwnPage)
    (hs : ∃ saved, s.Tells name saved) (hfield : s.FieldTells) (h : s.step a = some t) :
    t.FieldTells ↔ s.LeftWithName a := by
  obtain ⟨saved, hs⟩ := hs
  have hedit : s.editIsShown = true → s.editIsLoaded = true := by
    intro hshown
    by_contra hnot
    exact absurd ((hs.unloaded (Bool.eq_false_iff.mpr hnot)).2.symm.trans hshown) nofun
  cases a with
  | loadView =>
    rw [step] at h
    split_ifs at h
    obtain rfl := Option.some.inj h
    exact iff_of_true hfield trivial
  | didTapEditProfileButton =>
    rw [step] at h
    split_ifs at h
    obtain rfl := Option.some.inj h
    refine iff_of_true (fun _ hnot => absurd hnot ?_) trivial
    rw [didTapEditProfileButton]
    split_ifs <;> exact nofun
  | editingChanged text =>
    rw [step] at h
    split_ifs at h with hshown
    obtain rfl := Option.some.inj h
    exact iff_of_true (fun _ hnot => absurd (hshown.symm.trans hnot) nofun) trivial
  | didTapClearButton =>
    rw [step] at h
    split_ifs at h with hoffered
    obtain rfl := Option.some.inj h
    exact iff_of_true (fun _ hnot => absurd (hoffered.1.symm.trans hnot) nofun) trivial
  | popViewController =>
    rw [step] at h
    split_ifs at h with hshown
    obtain rfl := Option.some.inj h
    rw [LeftWithName, FieldTells, popViewController]
    by_cases htext : s.gameIdEditTextField = ""
    · simp only [htext, ne_eq, not_true_eq_false, if_false, true_implies, hedit hshown]
      exact eq_comm
    · simp [htext]
  | didSelectTab =>
    rw [step] at h
    split_ifs at h with hoffered
    obtain rfl := Option.some.inj h
    exact ⟨fun ht => ht (hedit hoffered.1) rfl, fun hleft _ _ => hleft⟩
  | tabBar isHidden =>
    rw [step] at h
    split_ifs at h
    obtain rfl := Option.some.inj h
    exact iff_of_true hfield trivial

/-- **The edit screen comes back with the name** throughout a run exactly when it is never left
with another text – a text that is cleared and left empty, or one that has been typed and not
saved. -/
theorem field_tells_iff {myInfoModel : MyInfoModel} {as : List OwnPageAction}
    (hr : run step (signedIn myInfoModel) as = some s) :
    Throughout step FieldTells (signedIn myInfoModel) as ↔
      Along step LeftWithName (signedIn myInfoModel) as :=
  throughout_iff_along (I := fun s => ∃ saved, s.Tells myInfoModel.myGameID saved)
    (fun _ _ _ ⟨_, hs⟩ h => ⟨_, tells_step hs h⟩) fieldTells_step_iff
    ⟨[], tells_signedIn myInfoModel⟩ (nofun) hr

/-- **The edit screen comes back empty**, with a name on the page. -/
theorem threeVisits_otherwise : ¬Throughout step FieldTells (signedIn faker) threeVisits := by
  have hr : run step (signedIn faker) threeVisits = some _ := rfl
  rw [field_tells_iff hr]
  decide

end OwnPage

end Joinus
