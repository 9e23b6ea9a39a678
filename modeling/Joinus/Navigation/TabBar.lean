import Joinus.Navigation.Moves

/-!
# The tab bar on the roots

A screen that hides the tab bar shows it again in the handler of its left button, and
nowhere else. So the user who leaves by that button finds the tab bar on the root, and
this holds of every screen and in every order. But there is a second way to leave a form:
when the room has been posted and the list of rooms fetched again, the *completion* pops
the navigation stack, and it only resets the form's values. If what it pops is the form
itself, the user is on the home list without a tab bar; if it is the tier screen over the
form, the form is still there, and its left button does what it always does.

So the tab bar is on every root throughout a run exactly when no confirmation completes
while the form it was made with is the top screen
(`Joinus.Navigation.tab_bar_on_roots_iff`). That the root of My Matching shows the tab bar
whenever it appears does not help: without a tab bar there is no way there.
-/

namespace Joinus

open Base

namespace Navigation

variable {z : TimeZone} {myPk : ℤ} {s t : Navigation} {tab : Tab} {screen : Controller}

/-- **If the root of the selected tab is on screen, the tab bar is not hidden.** -/
def BarOnRoot (s : Navigation) : Prop := s.ui.topScreen = none → s.ui.tabBarHidden = false

instance (s : Navigation) : Decidable s.BarOnRoot := inferInstanceAs (Decidable (_ → _))

/-- The action does not complete the confirmation of the form that is seen. -/
def FormNotPopped (s : Navigation) (a : NavigationAction) : Prop :=
  ∀ form ∈ a.completes, s.ui.topScreen ≠ some (.makeMatching form)

instance (s : Navigation) (a : NavigationAction) : Decidable (s.FormNotPopped a) :=
  inferInstanceAs (Decidable (∀ form ∈ a.completes, _))

theorem barOnRoot_of_top (h : s.ui.topScreen = some screen) : s.BarOnRoot := fun hnone =>
  absurd (h.symm.trans hnone) (by simp)

/-! ### What keeps the tab bar on the roots -/

/-- A push over a root, or over a screen that is seen. -/
theorem barOnRoot_push (htab : s.ui.selected = tab) (hnot : screen ∉ s.ui.stack tab) :
    (s.pushViewController z tab screen).BarOnRoot :=
  barOnRoot_of_top (topScreen_pushViewController htab hnot)

/-- The items of the tab bar leave it where it is. -/
theorem hidden_didSelectTab (hbar : s.ui.tabBarHidden = false) (tab : Tab) :
    (s.didSelectTab tab).ui.tabBarHidden = false := by
  rw [didSelectTab]
  split_ifs
  · split
    · exact hbar
    · rw [hidden_replaceStack, hbar, ite_self]
  · simp [TabBarController.viewWillAppear, TabBarController.setHidden, topDidDisappear, hbar]

/-- **Every left button leads to a screen, or to a root with the tab bar.** -/
theorem barOnRoot_leftButton (hs : s.ui.Laid) (htop : s.ui.topScreen = some screen)
    (h : s.leftButton screen = some t) : t.BarOnRoot := by
  obtain ⟨s', rfl, hcases⟩ := leftButton_cases htop h
  rcases hcases with ⟨-, rfl⟩ | ⟨hbar, rfl⟩
  · exact fun _ => rfl
  · intro hnone
    -- the screens that leave the tab bar alone have another screen below them, but for
    -- the chat of My Matching, whose root is what shows the tab bar
    have hpop : (s.ui.stack s.ui.selected).pop.top = none := by
      rwa [topScreen_replaceStack rfl] at hnone
    have hshape := hs.shape_top htop
    rw [Stack.top_eq_none.mp hpop] at hshape
    rw [hidden_replaceStack]
    generalize s.ui.selected = tab at hshape hpop
    cases hshape with
    | form => exact absurd trivial hbar
    | select => exact absurd trivial hbar
    | row n => exact if_pos ⟨rfl, hpop⟩
    | friend => exact absurd trivial hbar
    | blackList => exact absurd trivial hbar
    | profileEdit => exact absurd trivial hbar
    | plain n => exact absurd h (by simp [leftButton])

theorem barOnRoot_move {a : NavigationAction} (hs : s.ui.Laid) (hbar : s.BarOnRoot)
    (h : Move z s a t) : t.BarOnRoot := by
  cases h with
  | still _ hsame =>
    rw [BarOnRoot, hsame.ui]
    exact hbar
  | tabItem tab hshown => exact fun _ => hidden_didSelectTab hshown tab
  | left htop hleft => exact barOnRoot_leftButton hs htop hleft
  | createMatchingRoom hroot => exact barOnRoot_push hroot.1 (notMem_of_atRoot hroot)
  | homeRow now hroot _ =>
    rw [didSelectHomeRow]
    split
    · exact hbar
    · exact barOnRoot_push hroot.1 (notMem_of_atRoot hroot)
  | @changeTierRange form htop =>
    obtain ⟨hsel, helems⟩ := hs.form_top htop
    refine barOnRoot_push hsel ?_
    rw [Stack.mem_iff_of_elems helems]
    simp
  | matchingRow hroot _ => exact barOnRoot_push hroot.1 (notMem_of_atRoot hroot)
  | editProfile hroot => exact barOnRoot_push hroot.1 (notMem_of_atRoot hroot)
  | administrateRow row hroot => exact barOnRoot_push hroot.1 (notMem_of_atRoot hroot)

/-- The chat that the reply `1` pushes is a screen. -/
theorem barOnRoot_joined (hs : s.ui.Laid) (hbar : s.BarOnRoot) (r : Request)
    (vc : SelectJoinGame) : ((s.answered r).answerPostRoomUser z vc (.decoded 1)).BarOnRoot := by
  rw [answerPostRoomUser, if_pos rfl]
  split_ifs with hmem
  · by_cases hchat : .joinChatting (.select vc) ∈ s.ui.stack .game
    · rw [pushViewController_of_mem (s := (s.answered r).setRoomInfo vc) hchat]
      exact hbar
    · exact barOnRoot_push (hs.selected_of_mem (by simp) hmem) hchat
  · exact hbar

/-! ### The completion of a confirmation -/

/-- The form itself is popped: the tab bar stays hidden on the home list. Otherwise what
was seen – or, instead of its tier screen, the form – is seen. -/
theorem barOnRoot_completed_iff (hs : s.ui.Laid) (hbar : s.BarOnRoot) (r : Request) (form : ℕ)
    (data : List GetRoomInfo) :
    ((s.answered r).answerGetRoom form (.decoded data)).BarOnRoot ↔
      s.ui.topScreen ≠ some (.makeMatching form) := by
  rw [BarOnRoot, (sameScreens_completed s r form data).ui, popForm]
  split_ifs with hmem
  · have hsel : s.ui.selected = .game := hs.selected_of_mem (by simp) hmem
    rcases elems_of_form hs hmem with helems | helems
    · -- the form is what is seen, and what is popped
      have htop : (s.ui.stack .game).top = some (.makeMatching form) := Stack.top_of_elems helems
      have hhidden := (hs.shown .game (by simp) (helems ▸ List.cons_ne_nil _ _)).2
      rw [popViewController_of_top htop, topScreen_replaceStack hsel, hidden_replaceStack,
        if_neg (by simp), hhidden, TabBarController.topScreen, hsel, htop]
      refine iff_of_false (fun hroot => ?_) fun hnot => hnot rfl
      exact absurd (hroot (Stack.top_eq_none.mpr (congrArg List.tail helems))) (by simp)
    · have htop : (s.ui.stack .game).top = some (.selectTier form) := Stack.top_of_elems helems
      have hbelow : (s.ui.stack .game).pop.top = some (.makeMatching form) :=
        Stack.top_of_elems (congrArg List.tail helems)
      rw [popViewController_of_top htop, topScreen_replaceStack hsel, hbelow,
        TabBarController.topScreen, hsel, htop]
      exact iff_of_true (fun hnone => absurd hnone (by simp)) (by simp)
  · refine iff_of_true hbar fun htop => hmem ?_
    obtain ⟨-, helems⟩ := hs.form_top htop
    exact Stack.mem_of_elems helems

/-! ### Runs -/

theorem barOnRoot_step_iff (s : Navigation) (a : NavigationAction) (t : Navigation)
    (hs : s.trap = none → s.ui.Laid) (hbar : s.BarOnRoot) (h : s.step z myPk a = some t) :
    t.BarOnRoot ↔ s.FormNotPopped a := by
  have hlaid := hs (act_of_step h).1
  rcases step_cases h with ⟨vc, r, hjoins, rfl⟩ | ⟨form, data, r, hcompletes, rfl⟩ |
    ⟨-, hcompletes, hmove⟩
  · refine iff_of_true (barOnRoot_joined hlaid hbar r vc) fun form hform => ?_
    rw [NavigationAction.joins_of_completes hform] at hjoins
    exact absurd hjoins (by simp)
  · rw [barOnRoot_completed_iff hlaid hbar, FormNotPopped, hcompletes]
    simp
  · exact iff_of_true (barOnRoot_move hlaid hbar hmove) (forall_mem_of_eq_none hcompletes)

/-- **The tab bar is on every root throughout a run exactly when no confirmation completes
while its form is what is seen.** -/
theorem tab_bar_on_roots_iff {as : List NavigationAction}
    (hr : run (step z myPk) signedIn as = some t) :
    Throughout (step z myPk) BarOnRoot signedIn as ↔
      Along (step z myPk) FormNotPopped signedIn as :=
  throughout_iff_along laid_step barOnRoot_step_iff (fun _ => TabBarController.laid_initial)
    (fun _ => rfl) hr

/-- A form filled in. -/
def someForm : MakeMatchingModel :=
  { MakeMatchingModel.initial with
    roomTitle := "tonight", countJoinPeople := 2, selectedGame := "league of legends" }

/-- A form is opened, filled in and confirmed; the room is posted and the list fetched. -/
def postedFromForm : List NavigationAction :=
  [.tap .createMatchingRoom, .tap (.edit someForm), .tap .makeMatchingRoom,
    .postRoomReply 0 (Joinus.postRoom 1 someForm) (.decoded 7), .getRoomReply 0 (.decoded [])]

/-- **The home list without a tab bar.** -/
theorem postedFromForm_strands :
    ∃ s, run (step (TimeZone.fixed 32400) 1) signedIn postedFromForm = some s ∧
      s.ui.AtRoot .game ∧ s.ui.tabBarHidden = true ∧
      ¬Throughout (step (TimeZone.fixed 32400) 1) BarOnRoot signedIn postedFromForm := by
  have hr : run (step (TimeZone.fixed 32400) 1) signedIn postedFromForm = some _ := rfl
  exact ⟨_, hr, by decide, by decide, fun h => absurd (h.last hr) (by decide)⟩

/-- The same form, with the tier screen open when the list arrives; it is left by its
close button. -/
def postedFromTiers : List NavigationAction :=
  [.tap .createMatchingRoom, .tap (.edit someForm), .tap .makeMatchingRoom,
    .tap .changeTierRange, .postRoomReply 0 (Joinus.postRoom 1 someForm) (.decoded 7),
    .getRoomReply 0 (.decoded []), .tap .left]

/-- Whoever is at the tiers by then finds the tab bar. -/
theorem postedFromTiers_returns :
    ∃ s, run (step (TimeZone.fixed 32400) 1) signedIn postedFromTiers = some s ∧
      s.ui.AtRoot .game ∧
      Throughout (step (TimeZone.fixed 32400) 1) BarOnRoot signedIn postedFromTiers := by
  have hr : run (step (TimeZone.fixed 32400) 1) signedIn postedFromTiers = some _ := rfl
  exact ⟨_, hr, by decide, (tab_bar_on_roots_iff hr).mpr (by decide)⟩

end Navigation

end Joinus
