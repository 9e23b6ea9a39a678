import Joinus.Navigation.Screens

/-!
# Where the screens are

Eighteen kinds of action, and for the screens nine kinds of moves and two kinds of
replies: most replies and many taps leave all stacks as they are. This file says once what
a step can do to the screens (`Joinus.Navigation.step_cases`), and derives from it which
stacks there are at all (`Joinus.TabBarController.Laid`):

| tab | what can lie over its root, from the bottom |
|---|---|
| home list | a form; a form and its tier screen; a Select screen; a Select screen and *its* chat |
| My Matching | a chat made for one of its rows |
| own page | one of its four screens |

While anything lies over the home list or over My Matching, that tab is selected and the
tab bar is hidden, so that the tab cannot be left. The own page is different: the profile
edit screen hides the tab bar only the first time it is shown, and the screen without a
back button does not hide it at all.
-/

namespace Joinus

open Base

/-- The Select screen that an action lets join: its request is answered with `1`. -/
def NavigationAction.joins : NavigationAction → Option SelectJoinGame
  | .postRoomUserReply vc _ _ (.decoded res) => if res = 1 then some vc else none
  | _ => none

/-- The form whose confirmation an action completes: its list of rooms has been
fetched. -/
def NavigationAction.completes : NavigationAction → Option ℕ
  | .getRoomReply form (.decoded _) => some form
  | _ => none

/-- The action taps a row of a list of rooms. -/
def NavigationAction.tapsRow : NavigationAction → Bool
  | .tap (.homeRow _ _) | .tap (.matchingRow _) => true
  | _ => false

theorem NavigationAction.joins_of_completes {a : NavigationAction} {form : ℕ}
    (h : a.completes = some form) : a.joins = none := by
  cases a with
  | postRoomUserReply vc roomPk userPk r => exact absurd h (by simp [completes])
  | _ => rfl

/-- What is asked of the screen an action is for is asked of no other action. -/
theorem forall_mem_of_eq_none {α : Type} {o : Option α} {P : α → Prop} (h : o = none) :
    ∀ a ∈ o, P a := by
  intro a ha
  rw [h] at ha
  exact absurd ha (Option.not_mem_none a)

/-! ### The stacks there can be -/

/-- **What can lie on the stack of a tab**, its top first. -/
inductive Shape : Tab → List Controller → Prop
  | root (tab : Tab) : Shape tab []
  | form (n : ℕ) : Shape .game [.makeMatching n]
  | tiers (n : ℕ) : Shape .game [.selectTier n, .makeMatching n]
  | select (vc : SelectJoinGame) : Shape .game [.selectJoinGame vc]
  | joined (vc : SelectJoinGame) : Shape .game [.joinChatting (.select vc), .selectJoinGame vc]
  | row (n : ℕ) : Shape .myMatching [.joinChatting (.row n)]
  | friend (n : ℕ) : Shape .myInfo [.myFriend n]
  | blackList (n : ℕ) : Shape .myInfo [.myBlackList n]
  | profileEdit : Shape .myInfo [.myProfileEdit]
  | plain (n : ℕ) : Shape .myInfo [.plain n]

/-- To go back is to come to a stack that can be. -/
theorem Shape.tail {tab : Tab} {l : List Controller} (h : Shape tab l) : Shape tab l.tail := by
  cases h with
  | root => exact .root tab
  | form => exact .root _
  | tiers n => exact .form n
  | select => exact .root _
  | joined vc => exact .select vc
  | row => exact .root _
  | friend => exact .root _
  | blackList => exact .root _
  | profileEdit => exact .root _
  | plain => exact .root _

/-- A form with nothing over it, and a Select screen with nothing over it, lie over the
root of the home list. -/
theorem Shape.form_top {tab : Tab} {l : List Controller} {n : ℕ}
    (h : Shape tab (.makeMatching n :: l)) : tab = .game ∧ l = [] := by
  cases h
  exact ⟨rfl, rfl⟩

theorem Shape.select_top {tab : Tab} {l : List Controller} {vc : SelectJoinGame}
    (h : Shape tab (.selectJoinGame vc :: l)) : tab = .game ∧ l = [] := by
  cases h
  exact ⟨rfl, rfl⟩

theorem Shape.chat_top {tab : Tab} {l : List Controller} {vc : SelectJoinGame}
    (h : Shape tab (.joinChatting (.select vc) :: l)) : tab = .game ∧ l = [.selectJoinGame vc] := by
  cases h
  exact ⟨rfl, rfl⟩

/-- A chat lies on top, if it lies on a stack. -/
theorem Shape.chat_notMem_tail {tab : Tab} {l : List Controller} {chat : Chatting}
    (h : Shape tab l) : .joinChatting chat ∉ l.tail := by
  cases h with
  | root => exact List.not_mem_nil
  | tiers n => simp
  | joined vc => simp
  | form | select | row | friend | blackList | profileEdit | plain => exact List.not_mem_nil

/-- There are no chats over the own page. -/
theorem Shape.chat_notMem_myInfo {l : List Controller} {chat : Chatting}
    (h : Shape .myInfo l) : .joinChatting chat ∉ l := by
  cases h with
  | root => exact List.not_mem_nil
  | friend | blackList | profileEdit | plain => simp

namespace TabBarController

/-- **The tab bar controller is in order**: the stacks are as they can be, and a tab with
something over its root is the selected one, with the tab bar hidden – unless it is the
own page. -/
structure Laid (ui : TabBarController) : Prop where
  shape : ∀ tab, Shape tab (ui.stack tab).elems
  shown : ∀ tab, tab ≠ .myInfo → (ui.stack tab).elems ≠ [] →
    ui.selected = tab ∧ ui.tabBarHidden = true

theorem laid_initial : Laid .initial where
  shape tab := .root tab
  shown _ _ h := absurd rfl h

variable {ui ui' : TabBarController} {tab : Tab} {screens : Stack Controller}

theorem topScreen_of_elems {screen : Controller} {l : List Controller} (hsel : ui.selected = tab)
    (h : (ui.stack tab).elems = screen :: l) : ui.topScreen = some screen := by
  rw [topScreen, hsel]
  exact Stack.top_of_elems h

/-- Another stack for the selected tab. -/
theorem Laid.replace (hs : Laid ui) (htab : ui.selected = tab)
    (hstack : ui'.stack = Function.update ui.stack tab screens) (hsel : ui'.selected = ui.selected)
    (hshape : Shape tab screens.elems)
    (hhidden : tab ≠ .myInfo → screens.elems ≠ [] → ui'.tabBarHidden = true) : Laid ui' := by
  constructor
  · intro tab'
    rw [hstack]
    rcases eq_or_ne tab' tab with rfl | hne
    · rwa [Function.update_self]
    · rw [Function.update_of_ne hne]
      exact hs.shape tab'
  · intro tab' hinfo hnil
    rw [hstack] at hnil
    rcases eq_or_ne tab' tab with rfl | hne
    · rw [Function.update_self] at hnil
      exact ⟨hsel.trans htab, hhidden hinfo hnil⟩
    · -- another tab has nothing over its root, for it is not selected
      rw [Function.update_of_ne hne] at hnil
      exact absurd ((hs.shown tab' hinfo hnil).1.symm.trans htab) hne

/-- While the tab bar is seen, only the own page can have something over its root. -/
theorem Laid.elems_of_visible (hs : Laid ui) (hbar : ui.tabBarHidden = false)
    (htab : tab ≠ .myInfo) : (ui.stack tab).elems = [] := by
  by_contra hnil
  have hhidden := (hs.shown tab htab hnil).2
  rw [hbar] at hhidden
  exact absurd hhidden (by simp)

/-- While the tab bar is seen, there are no chats. -/
theorem Laid.no_chat_of_visible (hs : Laid ui) (hbar : ui.tabBarHidden = false) (tab : Tab)
    (chat : Chatting) : .joinChatting chat ∉ ui.stack tab := by
  rcases eq_or_ne tab .myInfo with rfl | hinfo
  · exact (hs.shape .myInfo).chat_notMem_myInfo
  · rw [Stack.mem_iff_of_elems (hs.elems_of_visible hbar hinfo)]
    exact List.not_mem_nil

/-- A chat is on the stack of the selected tab. -/
theorem Laid.selected_of_chat (hs : Laid ui) {chat : Chatting}
    (h : .joinChatting chat ∈ ui.stack tab) : ui.selected = tab := by
  rcases eq_or_ne tab .myInfo with rfl | hinfo
  · exact absurd h (hs.shape .myInfo).chat_notMem_myInfo
  · refine (hs.shown tab hinfo fun hnil => ?_).1
    rw [Stack.mem_iff_of_elems hnil] at h
    exact absurd h List.not_mem_nil

/-- What is seen is on a stack that can be. -/
theorem Laid.shape_top (hs : Laid ui) {screen : Controller} (h : ui.topScreen = some screen) :
    Shape ui.selected (screen :: (ui.stack ui.selected).pop.elems) := by
  have hshape := hs.shape ui.selected
  rwa [Stack.elems_of_top h] at hshape

/-- A form that is seen lies over the home list. -/
theorem Laid.form_top (hs : Laid ui) {n : ℕ} (h : ui.topScreen = some (.makeMatching n)) :
    ui.selected = .game ∧ (ui.stack .game).elems = [.makeMatching n] := by
  obtain ⟨hsel, hnil⟩ := (hs.shape_top h).form_top
  have helems := Stack.elems_of_top h
  rw [hnil, hsel] at helems
  exact ⟨hsel, helems⟩

theorem Laid.select_top (hs : Laid ui) {vc : SelectJoinGame}
    (h : ui.topScreen = some (.selectJoinGame vc)) :
    ui.selected = .game ∧ (ui.stack .game).elems = [.selectJoinGame vc] := by
  obtain ⟨hsel, hnil⟩ := (hs.shape_top h).select_top
  have helems := Stack.elems_of_top h
  rw [hnil, hsel] at helems
  exact ⟨hsel, helems⟩

/-- What lies over the home list is seen there. -/
theorem Laid.selected_of_mem (hs : Laid ui) {screen : Controller} (htab : tab ≠ .myInfo)
    (h : screen ∈ ui.stack tab) : ui.selected = tab := by
  refine (hs.shown tab htab ?_).1
  intro hnil
  rw [Stack.mem_iff_of_elems hnil] at h
  exact absurd h List.not_mem_nil

end TabBarController

namespace Navigation

variable {z : TimeZone} {myPk : ℤ} {s t : Navigation} {tab : Tab} {screen : Controller}

/-! ### Loading a view -/

theorem loadSelect_cases (z : TimeZone) (s : Navigation) (vc : SelectJoinGame) :
    (∃ manner e, s.loadSelect z vc =
        { s with
          selectedRoomPk := vc.roomInfo.roomPk
          selectedRoomManner := manner
          trap := some e } ∧ ∀ c, e ≠ .pushedTwice c) ∨
      ∃ manner, s.loadSelect z vc =
        { s with
          selectedRoomPk := vc.roomInfo.roomPk
          selectedRoomManner := manner
          ui := s.ui.setHidden true } := by
  rw [loadSelect]
  dsimp only
  split_ifs
  · exact Or.inl ⟨_, _, rfl, by simp⟩
  · split
    · exact Or.inl ⟨_, _, rfl, by simp⟩
    · exact Or.inr ⟨_, rfl⟩

/-- What loading the view of a screen leaves alone. -/
structure LoadFrame (s t : Navigation) (screen : Controller) : Prop where
  stack : t.ui.stack = s.ui.stack
  selected : t.ui.selected = s.ui.selected
  hidden : s.ui.tabBarHidden = true → t.ui.tabBarHidden = true
  pending : t.pending = s.pending
  roomInfo : ∀ chat, (t.chats chat).roomInfo = (s.chats chat).roomInfo
  chats : ∀ chat, screen ≠ .joinChatting chat → t.chats chat = s.chats chat
  selectedRoomPk : (∀ vc, screen ≠ .selectJoinGame vc) → t.selectedRoomPk = s.selectedRoomPk
  selectedRoomManner : (∀ vc, screen ≠ .selectJoinGame vc) →
    t.selectedRoomManner = s.selectedRoomManner
  divides : (∀ vc, screen ≠ .selectJoinGame vc) → t.trap = some .divisionByZero →
    s.trap = some .divisionByZero
  trap : ∀ c, t.trap = some (.pushedTwice c) → s.trap = some (.pushedTwice c)

theorem loadFrame_refl (s : Navigation) (screen : Controller) : LoadFrame s s screen :=
  ⟨rfl, rfl, id, rfl, fun _ => rfl, fun _ _ => rfl, fun _ => rfl, fun _ => rfl, fun _ => id,
    fun _ => id⟩

theorem loadFrame_hide (s : Navigation) (screen : Controller) :
    LoadFrame s { s with ui := s.ui.setHidden true } screen :=
  { loadFrame_refl s screen with hidden := fun _ => rfl }

theorem loadFrame_loadSelect (z : TimeZone) (s : Navigation) (vc : SelectJoinGame) :
    LoadFrame s (s.loadSelect z vc) (.selectJoinGame vc) := by
  rcases loadSelect_cases z s vc with ⟨manner, e, h, he⟩ | ⟨manner, h⟩
  · rw [h]
    exact { loadFrame_refl s (.selectJoinGame vc) with
      selectedRoomPk := fun hvc => absurd rfl (hvc vc)
      selectedRoomManner := fun hvc => absurd rfl (hvc vc)
      divides := fun hvc => absurd rfl (hvc vc)
      trap := fun c hc => absurd (Option.some.inj hc) (he c) }
  · rw [h]
    exact { loadFrame_refl s (.selectJoinGame vc) with
      hidden := fun _ => rfl
      selectedRoomPk := fun hvc => absurd rfl (hvc vc)
      selectedRoomManner := fun hvc => absurd rfl (hvc vc) }

theorem loadFrame_loadChat (s : Navigation) (chat : Chatting) :
    LoadFrame s (s.loadChat chat) (.joinChatting chat) := by
  rw [loadChat]
  split
  · exact { loadFrame_refl s (.joinChatting chat) with divides := by simp, trap := by simp }
  · refine { loadFrame_refl s (.joinChatting chat) with
      roomInfo := fun chat' => ?_
      chats := fun chat' hne => Function.update_of_ne (fun heq => hne (by rw [heq])) _ _ }
    dsimp only
    rcases eq_or_ne chat' chat with rfl | hne
    · rw [Function.update_self]
    · rw [Function.update_of_ne hne]

theorem loadFrame_viewDidLoad (z : TimeZone) (s : Navigation) (screen : Controller) :
    LoadFrame s (s.viewDidLoad z screen) screen := by
  cases screen with
  | makeMatching form => exact loadFrame_hide s _
  | selectTier form => exact loadFrame_refl s _
  | selectJoinGame vc => exact loadFrame_loadSelect z s vc
  | joinChatting chat =>
    rw [viewDidLoad]
    split_ifs
    · exact loadFrame_refl s _
    · exact loadFrame_loadChat s chat
  | myFriend n => exact loadFrame_hide s _
  | myBlackList n => exact loadFrame_hide s _
  | myProfileEdit =>
    rw [viewDidLoad]
    split_ifs
    · exact loadFrame_refl s _
    · exact { loadFrame_refl s .myProfileEdit with hidden := fun _ => rfl }
  | plain n => exact loadFrame_refl s _

/-- The views of the home list hide the tab bar, if they can be loaded. -/
theorem hidden_loadSelect (z : TimeZone) (s : Navigation) (vc : SelectJoinGame)
    (h : (s.loadSelect z vc).trap = none) : (s.loadSelect z vc).ui.tabBarHidden = true := by
  rcases loadSelect_cases z s vc with ⟨manner, e, hs, -⟩ | ⟨manner, hs⟩
  · rw [hs] at h
    exact absurd h (by simp)
  · rw [hs]
    rfl

/-- The room of a Select screen is noted down, whatever happens then. -/
theorem selectedRoomPk_loadSelect (z : TimeZone) (s : Navigation) (vc : SelectJoinGame) :
    (s.loadSelect z vc).selectedRoomPk = vc.roomInfo.roomPk := by
  rcases loadSelect_cases z s vc with ⟨manner, e, hs, -⟩ | ⟨manner, hs⟩
  · rw [hs]
  · rw [hs]

/-! ### Pushing -/

/-- A screen that is on the stack cannot be pushed. -/
theorem pushViewController_of_mem (h : screen ∈ s.ui.stack tab) :
    s.pushViewController z tab screen = { s with trap := some (.pushedTwice screen) } := by
  rw [pushViewController, Stack.push_eq_none.mpr h]

/-- Any other lies over what has been there, and its view is loaded. -/
theorem pushViewController_of_notMem (h : screen ∉ s.ui.stack tab) :
    ∃ screens : Stack Controller, screens.elems = screen :: (s.ui.stack tab).elems ∧
      s.pushViewController z tab screen =
        viewDidLoad z { s with ui := s.ui.setStack tab screens } screen := by
  cases hpush : (s.ui.stack tab).push screen with
  | none => exact absurd (Stack.push_eq_none.mp hpush) h
  | some screens =>
    refine ⟨screens, (Stack.push_eq_some.mp hpush).2, ?_⟩
    rw [pushViewController, hpush]

/-- **What pushing does to the stacks.** -/
theorem stack_pushViewController (h : screen ∉ s.ui.stack tab) :
    ∃ screens : Stack Controller, screens.elems = screen :: (s.ui.stack tab).elems ∧
      (s.pushViewController z tab screen).ui.stack = Function.update s.ui.stack tab screens := by
  obtain ⟨screens, helems, hpush⟩ := pushViewController_of_notMem (z := z) h
  refine ⟨screens, helems, ?_⟩
  rw [hpush, (loadFrame_viewDidLoad z _ screen).stack]
  rfl

theorem mem_push_iff {tab' : Tab} {screen' : Controller} (hnot : screen ∉ s.ui.stack tab) :
    screen' ∈ (s.pushViewController z tab screen).ui.stack tab' ↔
      (tab' = tab ∧ screen' = screen) ∨ screen' ∈ s.ui.stack tab' := by
  obtain ⟨screens, helems, hstack⟩ := stack_pushViewController (z := z) hnot
  rw [hstack]
  rcases eq_or_ne tab' tab with rfl | hne
  · rw [Function.update_self, Stack.mem_iff_of_elems helems, List.mem_cons, and_iff_right rfl,
      Stack.mem_elems]
  · rw [Function.update_of_ne hne]
    exact (or_iff_right fun h => hne h.1).symm

/-- **A screen over a root.** -/
theorem topScreen_pushViewController (htab : s.ui.selected = tab) (h : screen ∉ s.ui.stack tab) :
    (s.pushViewController z tab screen).ui.topScreen = some screen := by
  obtain ⟨screens, helems, hpush⟩ := pushViewController_of_notMem (z := z) h
  have hframe := loadFrame_viewDidLoad z { s with ui := s.ui.setStack tab screens } screen
  rw [hpush, TabBarController.topScreen, hframe.selected, hframe.stack]
  refine Stack.top_of_elems (l := (s.ui.stack tab).elems) ?_
  simpa [TabBarController.setStack, htab] using helems

/-- **The first push of a chat** loads its view. -/
theorem chats_push_of_first {chat : Chatting} {room : GetRoomInfo}
    (hnot : .joinChatting chat ∉ s.ui.stack tab) (hroom : (s.chats chat).roomInfo = some room)
    (hfirst : (s.chats chat).viewLoaded = false) :
    (s.pushViewController z tab (.joinChatting chat)).chats =
      Function.update s.chats chat
        { s.chats chat with
          viewLoaded := true
          listener := some room.roomPk
          centerButtonItem := some (setRoomMannerImage s.selectedRoomManner) } := by
  obtain ⟨screens, -, hpush⟩ := pushViewController_of_notMem (z := z) hnot
  rw [hpush, viewDidLoad, if_neg (by simp [hfirst]), loadChat]
  dsimp only
  rw [hroom]

/-- Another push of it does not. -/
theorem chats_push_of_loaded {chat : Chatting} (hnot : .joinChatting chat ∉ s.ui.stack tab)
    (hloaded : (s.chats chat).viewLoaded = true) :
    (s.pushViewController z tab (.joinChatting chat)).chats = s.chats := by
  obtain ⟨screens, -, hpush⟩ := pushViewController_of_notMem (z := z) hnot
  rw [hpush, viewDidLoad, if_pos hloaded]

/-- What a push leaves alone, whether it raises an exception or not. -/
structure PushFrame (s t : Navigation) (tab : Tab) (screen : Controller) : Prop where
  mem : ∀ {tab' screen'}, screen' ∈ t.ui.stack tab' →
    (tab' = tab ∧ screen' = screen) ∨ screen' ∈ s.ui.stack tab'
  roomInfo : ∀ chat, (t.chats chat).roomInfo = (s.chats chat).roomInfo
  chats : ∀ chat, screen ≠ .joinChatting chat → t.chats chat = s.chats chat
  pending : t.pending = s.pending
  selectedRoomPk : (∀ vc, screen ≠ .selectJoinGame vc) → t.selectedRoomPk = s.selectedRoomPk
  selectedRoomManner : (∀ vc, screen ≠ .selectJoinGame vc) →
    t.selectedRoomManner = s.selectedRoomManner
  divides : (∀ vc, screen ≠ .selectJoinGame vc) → t.trap = some .divisionByZero →
    s.trap = some .divisionByZero

theorem pushFrame (z : TimeZone) (s : Navigation) (tab : Tab) (screen : Controller) :
    PushFrame s (s.pushViewController z tab screen) tab screen := by
  by_cases hmem : screen ∈ s.ui.stack tab
  · rw [pushViewController_of_mem hmem]
    exact ⟨Or.inr, fun _ => rfl, fun _ _ => rfl, rfl, fun _ => rfl, fun _ => rfl, by simp⟩
  · obtain ⟨screens, helems, hpush⟩ := pushViewController_of_notMem (z := z) hmem
    have hframe := loadFrame_viewDidLoad z { s with ui := s.ui.setStack tab screens } screen
    refine ⟨(mem_push_iff hmem).mp, ?_, ?_, ?_, ?_, ?_, ?_⟩
    · rw [hpush]
      exact hframe.roomInfo
    · rw [hpush]
      exact hframe.chats
    · rw [hpush]
      exact hframe.pending
    · rw [hpush]
      exact hframe.selectedRoomPk
    · rw [hpush]
      exact hframe.selectedRoomManner
    · rw [hpush]
      exact hframe.divides

/-! ### Popping -/

/-- The tab bar after a stack has been replaced: the root of My Matching shows it. -/
theorem hidden_replaceStack (s : Navigation) (tab : Tab) (screens : Stack Controller) :
    (s.replaceStack tab screens).ui.tabBarHidden =
      if tab = .myMatching ∧ screens.top = none then false else s.ui.tabBarHidden := by
  simp [replaceStack, topDidDisappear, TabBarController.viewWillAppear,
    TabBarController.setHidden, TabBarController.setStack]

/-- The chats after a stack has been replaced: the one that was on top has removed its
listener. -/
theorem chats_replaceStack (s : Navigation) (tab : Tab) (screens : Stack Controller) :
    (s.replaceStack tab screens).chats = (s.topDidDisappear (s.ui.stack tab).top).chats := rfl

theorem popViewController_of_top (h : (s.ui.stack tab).top = some screen) :
    s.popViewController tab = s.replaceStack tab (s.ui.stack tab).pop := by
  rw [popViewController, h]

/-- What is seen after the stack of the selected tab has been replaced. -/
theorem topScreen_replaceStack (htab : s.ui.selected = tab) (screens : Stack Controller) :
    (s.replaceStack tab screens).ui.topScreen = screens.top := by
  rw [TabBarController.topScreen]
  change (Function.update s.ui.stack tab screens s.ui.selected).top = screens.top
  rw [htab, Function.update_self]

/-- **What leaving screens leaves alone.** Nothing new is on a stack, and the chats keep
their rooms. -/
structure LeaveFrame (s t : Navigation) : Prop where
  mem : ∀ {tab screen}, screen ∈ t.ui.stack tab → screen ∈ s.ui.stack tab
  roomInfo : ∀ chat, (t.chats chat).roomInfo = (s.chats chat).roomInfo
  viewLoaded : ∀ chat, (t.chats chat).viewLoaded = (s.chats chat).viewLoaded
  centerButtonItem : ∀ chat, (t.chats chat).centerButtonItem = (s.chats chat).centerButtonItem
  listener : ∀ chat, (t.chats chat).listener = (s.chats chat).listener ∨
    (t.chats chat).listener = none
  pending : t.pending = s.pending
  selectedRoomPk : t.selectedRoomPk = s.selectedRoomPk
  selectedRoomManner : t.selectedRoomManner = s.selectedRoomManner
  trap : t.trap = s.trap

theorem leaveFrame_refl (s : Navigation) : LeaveFrame s s :=
  ⟨id, fun _ => rfl, fun _ => rfl, fun _ => rfl, fun _ => Or.inl rfl, rfl, rfl, rfl, rfl⟩

/-- Of what disappears, only a chat changes, and of the chat only its listener. -/
theorem chats_topDidDisappear (s : Navigation) (top : Option Controller) (chat : Chatting) :
    (s.topDidDisappear top).chats chat =
      if top = some (.joinChatting chat) then { s.chats chat with listener := none }
      else s.chats chat := by
  cases top with
  | none => rfl
  | some screen =>
    cases screen with
    | joinChatting chat' =>
      rcases eq_or_ne chat' chat with rfl | hne
      · rw [if_pos rfl]
        exact Function.update_self _ _ _
      · rw [if_neg (by simpa using hne)]
        exact Function.update_of_ne hne.symm _ _
    | _ => exact (if_neg (by simp)).symm

theorem roomInfo_topDidDisappear (s : Navigation) (top : Option Controller) (chat : Chatting) :
    ((s.topDidDisappear top).chats chat).roomInfo = (s.chats chat).roomInfo := by
  rw [chats_topDidDisappear]
  split_ifs <;> rfl

theorem viewLoaded_topDidDisappear (s : Navigation) (top : Option Controller) (chat : Chatting) :
    ((s.topDidDisappear top).chats chat).viewLoaded = (s.chats chat).viewLoaded := by
  rw [chats_topDidDisappear]
  split_ifs <;> rfl

theorem centerButtonItem_topDidDisappear (s : Navigation) (top : Option Controller)
    (chat : Chatting) :
    ((s.topDidDisappear top).chats chat).centerButtonItem = (s.chats chat).centerButtonItem := by
  rw [chats_topDidDisappear]
  split_ifs <;> rfl

theorem listener_topDidDisappear (s : Navigation) (top : Option Controller) (chat : Chatting) :
    ((s.topDidDisappear top).chats chat).listener = (s.chats chat).listener ∨
      ((s.topDidDisappear top).chats chat).listener = none := by
  rw [chats_topDidDisappear]
  split_ifs
  · exact Or.inr rfl
  · exact Or.inl rfl

theorem leaveFrame_replaceStack {screens : Stack Controller}
    (hsub : ∀ c ∈ screens, c ∈ s.ui.stack tab) : LeaveFrame s (s.replaceStack tab screens) where
  mem {tab' screen} h := by
    change screen ∈ Function.update s.ui.stack tab screens tab' at h
    rcases eq_or_ne tab' tab with rfl | hne
    · rw [Function.update_self] at h
      exact hsub screen h
    · rwa [Function.update_of_ne hne] at h
  roomInfo := roomInfo_topDidDisappear s _
  viewLoaded := viewLoaded_topDidDisappear s _
  centerButtonItem := centerButtonItem_topDidDisappear s _
  listener := listener_topDidDisappear s _
  pending := rfl
  selectedRoomPk := rfl
  selectedRoomManner := rfl
  trap := rfl

theorem leaveFrame_popViewController (s : Navigation) (tab : Tab) :
    LeaveFrame s (s.popViewController tab) := by
  rw [popViewController]
  split
  · exact leaveFrame_refl s
  · exact leaveFrame_replaceStack fun c hc => Stack.mem_of_mem_pop hc

theorem leaveFrame_didSelectTab (s : Navigation) (tab : Tab) :
    LeaveFrame s (s.didSelectTab tab) := by
  rw [didSelectTab]
  split_ifs
  · split
    · exact leaveFrame_refl s
    · exact leaveFrame_replaceStack fun c hc => absurd hc Stack.notMem_empty
  · exact ⟨id, roomInfo_topDidDisappear s _, viewLoaded_topDidDisappear s _,
      centerButtonItem_topDidDisappear s _, listener_topDidDisappear s _, rfl, rfl, rfl, rfl⟩

theorem leaveFrame_popForm (s : Navigation) (form : ℕ) : LeaveFrame s (s.popForm form) := by
  rw [popForm]
  split_ifs
  · exact leaveFrame_popViewController s .game
  · exact leaveFrame_refl s

/-- The left buttons that show the tab bar. -/
def ShowsBar : Controller → Prop
  | .makeMatching _ | .selectJoinGame _ | .myFriend _ | .myBlackList _ | .myProfileEdit => True
  | .selectTier _ | .joinChatting _ | .plain _ => False

/-- **What a left button does.** -/
theorem leftButton_cases (htop : s.ui.topScreen = some screen)
    (h : s.leftButton screen = some t) :
    ∃ s', s' = s.replaceStack s.ui.selected (s.ui.stack s.ui.selected).pop ∧
      ((ShowsBar screen ∧ t = { s' with ui := s'.ui.setHidden false }) ∨
        (¬ShowsBar screen ∧ t = s')) := by
  have hpop : s.popViewController s.ui.selected =
      s.replaceStack s.ui.selected (s.ui.stack s.ui.selected).pop :=
    popViewController_of_top htop
  refine ⟨_, rfl, ?_⟩
  rw [← hpop]
  cases screen with
  | makeMatching n => exact Or.inl ⟨trivial, (Option.some.inj h).symm⟩
  | selectTier n => exact Or.inr ⟨id, (Option.some.inj h).symm⟩
  | selectJoinGame vc => exact Or.inl ⟨trivial, (Option.some.inj h).symm⟩
  | joinChatting chat => exact Or.inr ⟨id, (Option.some.inj h).symm⟩
  | myFriend n => exact Or.inl ⟨trivial, (Option.some.inj h).symm⟩
  | myBlackList n => exact Or.inl ⟨trivial, (Option.some.inj h).symm⟩
  | myProfileEdit => exact Or.inl ⟨trivial, (Option.some.inj h).symm⟩
  | plain n => exact absurd h (by simp [leftButton])

theorem leaveFrame_leftButton (htop : s.ui.topScreen = some screen)
    (h : s.leftButton screen = some t) : LeaveFrame s t := by
  have hpop : LeaveFrame s (s.replaceStack s.ui.selected (s.ui.stack s.ui.selected).pop) :=
    leaveFrame_replaceStack fun c hc => Stack.mem_of_mem_pop hc
  obtain ⟨s', rfl, ⟨-, rfl⟩ | ⟨-, rfl⟩⟩ := leftButton_cases htop h
  · exact { hpop with }
  · exact hpop

/-! ### Moves -/

/-- A state with the same screens, and chats that listen and show as before – save that
the chat of a Select screen may have been given that screen's room. -/
structure SameScreens (s t : Navigation) : Prop where
  ui : t.ui = s.ui
  viewLoaded : ∀ chat, (t.chats chat).viewLoaded = (s.chats chat).viewLoaded
  centerButtonItem : ∀ chat, (t.chats chat).centerButtonItem = (s.chats chat).centerButtonItem
  listener : ∀ chat, (t.chats chat).listener = (s.chats chat).listener
  rooms : ∀ vc, (t.chats (.select vc)).roomInfo = (s.chats (.select vc)).roomInfo ∨
    (t.chats (.select vc)).roomInfo = some vc.roomInfo
  rows : ∀ n, (t.chats (.row n)).roomInfo = (s.chats (.row n)).roomInfo
  selectedRoomPk : t.selectedRoomPk = s.selectedRoomPk
  selectedRoomManner : t.selectedRoomManner = s.selectedRoomManner
  trap : t.trap = s.trap

/-- **What a step can do to the screens**, apart from the completions of a request to join
and of a confirmed form. -/
inductive Move (z : TimeZone) (s : Navigation) : NavigationAction → Navigation → Prop
  | still {a : NavigationAction} {t : Navigation} : a.tapsRow = false → SameScreens s t →
      Move z s a t
  | tabItem (tab : Tab) : s.ui.tabBarHidden = false →
      Move z s (.tap (.tabItem tab)) (s.didSelectTab tab)
  | left {screen : Controller} {t : Navigation} : s.ui.topScreen = some screen →
      s.leftButton screen = some t → Move z s (.tap .left) t
  | createMatchingRoom : s.ui.AtRoot .game →
      Move z s (.tap .createMatchingRoom) (s.didTapMakeMatchingButton z)
  | homeRow {row : ℕ} {room : GetRoomInfo} (now : Instant) : s.ui.AtRoot .game →
      s.gameList[row]? = some room →
      Move z s (.tap (.homeRow row now)) (s.didSelectHomeRow z now room)
  | changeTierRange {form : ℕ} : s.ui.topScreen = some (.makeMatching form) →
      Move z s (.tap .changeTierRange) (s.pushViewController z .game (.selectTier form))
  | matchingRow {row : ℕ} {room : GetRoomInfo} : s.ui.AtRoot .myMatching →
      s.matchingList[row]? = some room →
      Move z s (.tap (.matchingRow row)) (s.didSelectMatchingRow z room)
  | editProfile : s.ui.AtRoot .myInfo →
      Move z s (.tap .editProfile) (s.didTapEditProfileButton z)
  | administrateRow (row : ℕ) : s.ui.AtRoot .myInfo →
      Move z s (.tap (.administrateRow row)) (s.didSelectAdministrateRow z row)

/-- **What a tap does**, and where it is offered. -/
inductive Tapped (z : TimeZone) (myPk : ℤ) (s : Navigation) : Tap → Navigation → Prop
  | tabItem (tab : Tab) : s.ui.tabBarHidden = false →
      Tapped z myPk s (.tabItem tab) (s.didSelectTab tab)
  | left {screen : Controller} {t : Navigation} : s.ui.topScreen = some screen →
      s.leftButton screen = some t → Tapped z myPk s .left t
  | createMatchingRoom : s.ui.AtRoot .game →
      Tapped z myPk s .createMatchingRoom (s.didTapMakeMatchingButton z)
  | homeRow {row : ℕ} {room : GetRoomInfo} (now : Instant) : s.ui.AtRoot .game →
      s.gameList[row]? = some room →
      Tapped z myPk s (.homeRow row now) (s.didSelectHomeRow z now room)
  | edit (model : MakeMatchingModel) :
      Tapped z myPk s (.edit model) { s with makeMatchingModel := model }
  | changeTierRange {form : ℕ} : s.ui.topScreen = some (.makeMatching form) →
      Tapped z myPk s .changeTierRange (s.pushViewController z .game (.selectTier form))
  | makeMatchingRoom {form : ℕ} : s.ui.topScreen = some (.makeMatching form) →
      Tapped z myPk s .makeMatchingRoom (s.didTapMakeMatchingRoomButton myPk form)
  | join {vc : SelectJoinGame} : s.ui.topScreen = some (.selectJoinGame vc) →
      Tapped z myPk s .join (s.postRoomUser myPk vc)
  | matchingButton (made : Bool) :
      Tapped z myPk s (.matchingButton made) { s with madeMatchingButton := made }
  | matchingRow {row : ℕ} {room : GetRoomInfo} : s.ui.AtRoot .myMatching →
      s.matchingList[row]? = some room →
      Tapped z myPk s (.matchingRow row) (s.didSelectMatchingRow z room)
  | editProfile : s.ui.AtRoot .myInfo →
      Tapped z myPk s .editProfile (s.didTapEditProfileButton z)
  | administrateRow (row : ℕ) : s.ui.AtRoot .myInfo →
      Tapped z myPk s (.administrateRow row) (s.didSelectAdministrateRow z row)

theorem tapped {a : Tap} (h : s.tap z myPk a = some t) : Tapped z myPk s a t := by
  cases a with
  | tabItem tab =>
    rw [tap] at h
    split_ifs at h with hbar
    rw [← Option.some.inj h]
    exact .tabItem tab (by simpa using hbar)
  | left =>
    rw [tap] at h
    split at h
    · exact absurd h (by simp)
    · next screen htop => exact .left htop h
  | createMatchingRoom =>
    rw [tap] at h
    split_ifs at h with hroot
    rw [← Option.some.inj h]
    exact .createMatchingRoom hroot
  | homeRow row now =>
    rw [tap] at h
    split_ifs at h with hroot
    obtain ⟨room, hroom, rfl⟩ := Option.map_eq_some_iff.mp h
    exact .homeRow now hroot hroom
  | edit model =>
    rw [tap] at h
    split at h
    · rw [← Option.some.inj h]
      exact .edit model
    · rw [← Option.some.inj h]
      exact .edit model
    · exact absurd h (by simp)
  | changeTierRange =>
    rw [tap] at h
    split at h
    · next form htop =>
      rw [← Option.some.inj h]
      exact .changeTierRange htop
    · exact absurd h (by simp)
  | makeMatchingRoom =>
    rw [tap] at h
    split at h
    · next form htop =>
      rw [← Option.some.inj h]
      exact .makeMatchingRoom htop
    · exact absurd h (by simp)
  | join =>
    rw [tap] at h
    split at h
    · next vc htop =>
      split_ifs at h
      rw [← Option.some.inj h]
      exact .join htop
    · exact absurd h (by simp)
  | matchingButton made =>
    rw [tap] at h
    split_ifs at h
    rw [← Option.some.inj h]
    exact .matchingButton made
  | matchingRow row =>
    rw [tap] at h
    split_ifs at h with hroot
    obtain ⟨room, hroom, rfl⟩ := Option.map_eq_some_iff.mp h
    exact .matchingRow hroot hroom
  | editProfile =>
    rw [tap] at h
    split_ifs at h with hroot
    rw [← Option.some.inj h]
    exact .editProfile hroot
  | administrateRow row =>
    rw [tap] at h
    split_ifs at h with hroot
    rw [← Option.some.inj h]
    exact .administrateRow row hroot.1

theorem sameScreens_of_eq (hui : t.ui = s.ui) (hchats : t.chats = s.chats)
    (hpk : t.selectedRoomPk = s.selectedRoomPk)
    (hmanner : t.selectedRoomManner = s.selectedRoomManner) (htrap : t.trap = s.trap) :
    SameScreens s t :=
  ⟨hui, fun chat => by rw [hchats], fun chat => by rw [hchats], fun chat => by rw [hchats],
    fun vc => Or.inl (by rw [hchats]), fun n => by rw [hchats], hpk, hmanner, htrap⟩

theorem sameScreens_present (s : Navigation) (screen : Controller) (alert : JoinusAlert) :
    SameScreens s (s.present screen alert) := by
  rw [present]
  split_ifs
  · exact sameScreens_of_eq rfl rfl rfl rfl rfl
  · exact sameScreens_of_eq rfl rfl rfl rfl rfl

theorem sameScreens_setRoomInfo (s : Navigation) (vc : SelectJoinGame) :
    SameScreens s (s.setRoomInfo vc) := by
  -- a chat keeps everything but its room
  have hchat : ∀ chat, ∃ room,
      (s.setRoomInfo vc).chats chat = { s.chats chat with roomInfo := room } := by
    intro chat
    rcases eq_or_ne chat (.select vc) with rfl | hne
    · exact ⟨some vc.roomInfo, Function.update_self _ _ _⟩
    · exact ⟨(s.chats chat).roomInfo, Function.update_of_ne hne _ _⟩
  refine ⟨rfl, fun chat => ?_, fun chat => ?_, fun chat => ?_, fun vc' => ?_, fun n => ?_, rfl,
    rfl, rfl⟩
  · obtain ⟨room, hroom⟩ := hchat chat
    rw [hroom]
  · obtain ⟨room, hroom⟩ := hchat chat
    rw [hroom]
  · obtain ⟨room, hroom⟩ := hchat chat
    rw [hroom]
  · rcases eq_or_ne vc' vc with rfl | hne
    · exact Or.inr (by simp [setRoomInfo])
    · exact Or.inl (by simp [setRoomInfo, Function.update_of_ne, hne])
  · simp [setRoomInfo]

theorem roomInfo_setRoomInfo (s : Navigation) (vc : SelectJoinGame) :
    ((s.setRoomInfo vc).chats (.select vc)).roomInfo = some vc.roomInfo := by
  simp [setRoomInfo]

theorem SameScreens.trans {u : Navigation} (h : SameScreens s t) (h' : SameScreens t u) :
    SameScreens s u where
  ui := h'.ui.trans h.ui
  viewLoaded chat := (h'.viewLoaded chat).trans (h.viewLoaded chat)
  centerButtonItem chat := (h'.centerButtonItem chat).trans (h.centerButtonItem chat)
  listener chat := (h'.listener chat).trans (h.listener chat)
  rooms vc := by
    rcases h'.rooms vc with hsame | hroom
    · rw [hsame]
      exact h.rooms vc
    · exact Or.inr hroom
  rows n := (h'.rows n).trans (h.rows n)
  selectedRoomPk := h'.selectedRoomPk.trans h.selectedRoomPk
  selectedRoomManner := h'.selectedRoomManner.trans h.selectedRoomManner
  trap := h'.trap.trans h.trap

theorem sameScreens_answered (s : Navigation) (r : Request) : SameScreens s (s.answered r) :=
  sameScreens_of_eq rfl rfl rfl rfl rfl

/-- A tap is a move. -/
theorem Tapped.move {a : Tap} (h : Tapped z myPk s a t) : Move z s (.tap a) t := by
  cases h with
  | tabItem tab hbar => exact .tabItem tab hbar
  | left htop hleft => exact .left htop hleft
  | createMatchingRoom hroot => exact .createMatchingRoom hroot
  | homeRow now hroot hroom => exact .homeRow now hroot hroom
  | changeTierRange htop => exact .changeTierRange htop
  | matchingRow hroot hroom => exact .matchingRow hroot hroom
  | editProfile hroot => exact .editProfile hroot
  | administrateRow row hroot => exact .administrateRow row hroot
  | makeMatchingRoom htop =>
    rw [didTapMakeMatchingRoomButton]
    split
    · exact .still rfl (sameScreens_present s _ _)
    · exact .still rfl (sameScreens_of_eq rfl rfl rfl rfl rfl)
  | edit | join | matchingButton => exact .still rfl (sameScreens_of_eq rfl rfl rfl rfl rfl)

theorem act_of_step {a : NavigationAction} (h : s.step z myPk a = some t) :
    s.trap = none ∧ s.act z myPk a = some t := by
  rw [step] at h
  split_ifs at h with htrap
  exact ⟨htrap, h⟩

/-- **What a step can do.** The three kinds of steps that the results about the screens
tell apart: a request to join has been answered with `1`, the list has been fetched for a
confirmed form, or there is a move. -/
theorem step_cases {a : NavigationAction} (h : s.step z myPk a = some t) :
    (∃ vc r, a.joins = some vc ∧
        t = (s.answered r).answerPostRoomUser z vc (.decoded 1)) ∨
      (∃ form data r, a.completes = some form ∧
        t = (s.answered r).answerGetRoom form (.decoded data)) ∨
      (a.joins = none ∧ a.completes = none ∧ Move z s a t) := by
  obtain ⟨-, hact⟩ := act_of_step h
  cases a with
  | tap a =>
    rw [act] at hact
    split_ifs at hact
    exact Or.inr (Or.inr ⟨rfl, rfl, (tapped hact).move⟩)
  | okButton =>
    rw [act] at hact
    split_ifs at hact
    rw [← Option.some.inj hact]
    exact Or.inr (Or.inr ⟨rfl, rfl, .still rfl (sameScreens_of_eq rfl rfl rfl rfl rfl)⟩)
  | gameList rooms =>
    rw [← Option.some.inj hact]
    exact Or.inr (Or.inr ⟨rfl, rfl, .still rfl (sameScreens_of_eq rfl rfl rfl rfl rfl)⟩)
  | matchingList rooms =>
    rw [← Option.some.inj hact]
    exact Or.inr (Or.inr ⟨rfl, rfl, .still rfl (sameScreens_of_eq rfl rfl rfl rfl rfl)⟩)
  | postRoomReply form room r =>
    rw [act] at hact
    split_ifs at hact
    rw [← Option.some.inj hact]
    refine Or.inr (Or.inr ⟨rfl, rfl, .still rfl ?_⟩)
    cases r with
    | decoded n => exact sameScreens_of_eq rfl rfl rfl rfl rfl
    | undecodable => exact sameScreens_answered s _
    | failure => exact sameScreens_answered s _
  | getRoomReply form r =>
    rw [act] at hact
    split_ifs at hact
    rw [← Option.some.inj hact]
    cases r with
    | decoded data => exact Or.inr (Or.inl ⟨form, data, _, rfl, rfl⟩)
    | undecodable => exact Or.inr (Or.inr ⟨rfl, rfl, .still rfl (sameScreens_answered s _)⟩)
    | failure => exact Or.inr (Or.inr ⟨rfl, rfl, .still rfl (sameScreens_answered s _)⟩)
  | postRoomUserReply vc roomPk userPk r =>
    rw [act] at hact
    split_ifs at hact
    rw [← Option.some.inj hact]
    cases r with
    | decoded res =>
      by_cases hres : res = 1
      · subst hres
        exact Or.inl ⟨vc, _, rfl, rfl⟩
      · refine Or.inr (Or.inr ⟨if_neg hres, rfl, .still rfl ?_⟩)
        -- the refusal gives the chat its room all the same
        rw [answerPostRoomUser, if_neg hres]
        exact ((sameScreens_answered s _).trans (sameScreens_setRoomInfo _ vc)).trans
          (sameScreens_present _ _ _)
    | undecodable => exact Or.inr (Or.inr ⟨rfl, rfl, .still rfl (sameScreens_answered s _)⟩)
    | failure => exact Or.inr (Or.inr ⟨rfl, rfl, .still rfl (sameScreens_answered s _)⟩)

/-! ### The stacks of a run -/

/-- **The left buttons that show the tab bar belong to screens with the root below
them.** -/
theorem nil_of_showsBar {l : List Controller} (h : Shape tab (screen :: l))
    (hbar : ShowsBar screen) : l = [] := by
  cases h with
  | form | select | row | friend | blackList | profileEdit | plain => rfl
  | tiers => exact absurd hbar id
  | joined => exact absurd hbar id

/-- A form on the stack is there alone, or under its tier screen. -/
theorem elems_of_form (hs : s.ui.Laid) {form : ℕ} (h : .makeMatching form ∈ s.ui.stack .game) :
    (s.ui.stack .game).elems = [.makeMatching form] ∨
      (s.ui.stack .game).elems = [.selectTier form, .makeMatching form] := by
  have hshape := hs.shape .game
  rw [← Stack.mem_elems] at h
  generalize (s.ui.stack .game).elems = l at hshape h
  cases hshape with
  | root => exact absurd h List.not_mem_nil
  | form n =>
    obtain rfl : form = n := by simpa using h
    exact Or.inl rfl
  | tiers n =>
    obtain rfl : form = n := by simpa using h
    exact Or.inr rfl
  | select vc => exact absurd h (by simp)
  | joined vc => exact absurd h (by simp)

/-- A Select screen on the stack is there alone, or under its chat. -/
theorem elems_of_select (hs : s.ui.Laid) {vc : SelectJoinGame}
    (h : .selectJoinGame vc ∈ s.ui.stack .game) :
    (s.ui.stack .game).elems = [.selectJoinGame vc] ∨
      (s.ui.stack .game).elems = [.joinChatting (.select vc), .selectJoinGame vc] := by
  have hshape := hs.shape .game
  rw [← Stack.mem_elems] at h
  generalize (s.ui.stack .game).elems = l at hshape h
  cases hshape with
  | root => exact absurd h List.not_mem_nil
  | form n => exact absurd h (by simp)
  | tiers n => exact absurd h (by simp)
  | select vc' =>
    obtain rfl : vc = vc' := by simpa using h
    exact Or.inl rfl
  | joined vc' =>
    obtain rfl : vc = vc' := by simpa using h
    exact Or.inr rfl

/-- The only chat on the stack of the home list is that of the Select screen below it. -/
theorem select_of_chat (hs : s.ui.Laid) {chat : Chatting}
    (h : .joinChatting chat ∈ s.ui.stack .game) :
    ∃ vc, chat = .select vc ∧
      (s.ui.stack .game).elems = [.joinChatting (.select vc), .selectJoinGame vc] := by
  have hshape := hs.shape .game
  rw [← Stack.mem_elems] at h
  generalize (s.ui.stack .game).elems = l at hshape h
  cases hshape with
  | root => exact absurd h List.not_mem_nil
  | form n => exact absurd h (by simp)
  | tiers n => exact absurd h (by simp)
  | select vc => exact absurd h (by simp)
  | joined vc => exact ⟨vc, by simpa using h, rfl⟩

/-- What is pushed over the root of a tab has not been there. -/
theorem notMem_of_atRoot (h : s.ui.AtRoot tab) : screen ∉ s.ui.stack tab := by
  rw [Stack.mem_iff_of_elems (Stack.top_eq_none.mp h.2)]
  exact List.not_mem_nil

/-- A push leaves the tab bar controller in order, if the new stack can be and the tab bar
is hidden by then. -/
theorem laid_push (hs : s.ui.Laid) (htab : s.ui.selected = tab) (hnot : screen ∉ s.ui.stack tab)
    (hshape : Shape tab (screen :: (s.ui.stack tab).elems))
    (hhidden : tab ≠ .myInfo → s.ui.tabBarHidden = true ∨ ∀ u : Navigation,
      (u.viewDidLoad z screen).trap = none → (u.viewDidLoad z screen).ui.tabBarHidden = true)
    (htrap : (s.pushViewController z tab screen).trap = none) :
    (s.pushViewController z tab screen).ui.Laid := by
  obtain ⟨screens, helems, hpush⟩ := pushViewController_of_notMem (z := z) hnot
  rw [hpush] at htrap ⊢
  have hframe := loadFrame_viewDidLoad z { s with ui := s.ui.setStack tab screens } screen
  refine hs.replace htab hframe.stack hframe.selected (helems ▸ hshape) fun hinfo _ => ?_
  rcases hhidden hinfo with hbefore | hloads
  · exact hframe.hidden hbefore
  · exact hloads _ htrap

theorem laid_setHidden (hs : s.ui.Laid) : (s.ui.setHidden true).Laid :=
  ⟨hs.shape, fun tab hinfo hnil => ⟨(hs.shown tab hinfo hnil).1, rfl⟩⟩

theorem laid_didSelectTab (hs : s.ui.Laid) (hbar : s.ui.tabBarHidden = false) (tab : Tab) :
    (s.didSelectTab tab).ui.Laid := by
  rw [didSelectTab]
  split_ifs with htab
  · split
    · exact hs
    · -- back to the root
      exact hs.replace htab.symm rfl rfl (.root tab) fun _ hnil => absurd rfl hnil
  · refine ⟨hs.shape, fun tab' hinfo hnil => ?_⟩
    exact absurd (hs.elems_of_visible hbar hinfo) hnil

theorem laid_leftButton (hs : s.ui.Laid) (htop : s.ui.topScreen = some screen)
    (h : s.leftButton screen = some t) : t.ui.Laid := by
  have hshape := hs.shape s.ui.selected
  obtain ⟨s', rfl, hcases⟩ := leftButton_cases htop h
  rcases hcases with ⟨hbar, rfl⟩ | ⟨-, rfl⟩
  · refine hs.replace rfl rfl rfl hshape.tail fun _ hnil => ?_
    rw [Stack.elems_of_top htop] at hshape
    exact absurd (nil_of_showsBar hshape hbar) hnil
  · refine hs.replace rfl rfl rfl hshape.tail fun hinfo hnil => ?_
    have hsome : (s.ui.stack s.ui.selected).pop.top ≠ none := fun h => hnil (Stack.top_eq_none.mp h)
    rw [hidden_replaceStack, if_neg fun hmatching => hsome hmatching.2]
    refine (hs.shown _ hinfo ?_).2
    rw [Stack.elems_of_top htop]
    exact List.cons_ne_nil _ _

theorem laid_move {a : NavigationAction} (hs : s.ui.Laid) (h : Move z s a t)
    (htrap : t.trap = none) : t.ui.Laid := by
  cases h with
  | still _ hsame =>
    rw [hsame.ui]
    exact hs
  | tabItem tab hbar => exact laid_didSelectTab hs hbar tab
  | left htop hleft => exact laid_leftButton hs htop hleft
  | createMatchingRoom hroot =>
    have hnil := Stack.top_eq_none.mp hroot.2
    refine laid_push hs hroot.1 (notMem_of_atRoot hroot) ?_ (fun _ => Or.inr fun _ _ => rfl) htrap
    exact hnil ▸ .form _
  | homeRow now hroot _ =>
    rw [didSelectHomeRow] at htrap ⊢
    split at htrap
    · exact absurd htrap (by simp)
    · have hnil := Stack.top_eq_none.mp hroot.2
      refine laid_push hs hroot.1 (notMem_of_atRoot hroot) ?_ (fun _ => Or.inr ?_) htrap
      · exact hnil ▸ .select _
      · exact fun u hu => hidden_loadSelect z u _ hu
  | @changeTierRange form htop =>
    obtain ⟨hsel, helems⟩ := hs.form_top htop
    have hnot : .selectTier form ∉ s.ui.stack .game := by
      rw [Stack.mem_iff_of_elems helems]
      simp
    refine laid_push hs hsel hnot (helems ▸ .tiers form) (fun hinfo => Or.inl ?_) htrap
    exact (hs.shown .game hinfo (helems ▸ List.cons_ne_nil _ _)).2
  | matchingRow hroot _ =>
    have hnil := Stack.top_eq_none.mp hroot.2
    refine laid_push (laid_setHidden hs) hroot.1 (notMem_of_atRoot hroot) ?_
      (fun _ => Or.inl rfl) htrap
    exact hnil ▸ .row _
  | editProfile hroot =>
    have hnil := Stack.top_eq_none.mp hroot.2
    refine laid_push hs hroot.1 (notMem_of_atRoot hroot) ?_ (fun hinfo => absurd rfl hinfo) htrap
    exact hnil ▸ .profileEdit
  | administrateRow row hroot =>
    have hnil := Stack.top_eq_none.mp hroot.2
    refine laid_push hs hroot.1 (notMem_of_atRoot hroot) ?_ (fun hinfo => absurd rfl hinfo) htrap
    dsimp only
    rw [hnil, administrateScreen]
    split_ifs
    · exact .friend _
    · exact .blackList _
    · exact .plain _

/-- **The reply `1`**: the chat is pushed over its Select screen, if the screen is still
there. -/
theorem laid_joined (hs : s.ui.Laid) {vc : SelectJoinGame} {r : Request}
    (htrap : ((s.answered r).answerPostRoomUser z vc (.decoded 1)).trap = none) :
    ((s.answered r).answerPostRoomUser z vc (.decoded 1)).ui.Laid := by
  rw [answerPostRoomUser, if_pos rfl] at htrap ⊢
  split_ifs at htrap ⊢ with hmem
  · by_cases hchat : .joinChatting (.select vc) ∈ s.ui.stack .game
    · rw [pushViewController_of_mem (s := (s.answered r).setRoomInfo vc) hchat] at htrap
      exact absurd htrap (by simp)
    · have hsel := hs.selected_of_mem (by simp) hmem
      have helems : (s.ui.stack .game).elems = [.selectJoinGame vc] := by
        rcases elems_of_select hs hmem with helems | helems
        · exact helems
        · rw [Stack.mem_iff_of_elems helems] at hchat
          exact absurd List.mem_cons_self hchat
      refine laid_push hs hsel hchat ?_ (fun hinfo => Or.inl ?_) htrap
      · exact helems ▸ .joined vc
      · exact (hs.shown .game hinfo (helems ▸ List.cons_ne_nil _ _)).2
  · exact hs

/-- What is popped for a form does not depend on what else the completion does. -/
theorem sameScreens_popForm (s : Navigation) (r : Request) (form : ℕ) (data : List GetRoomInfo) :
    SameScreens (s.popForm form) (popForm { s.answered r with gameList := data } form) := by
  obtain ⟨u, hu⟩ : ∃ u, u = { s.answered r with gameList := data } := ⟨_, rfl⟩
  rw [← hu]
  have hui : u.ui = s.ui := by rw [hu, answered]
  rw [popForm, popForm, hui]
  split_ifs
  · cases htop : (s.ui.stack .game).top with
    | none =>
      rw [popViewController, popViewController, hui, htop, hu]
      exact sameScreens_of_eq rfl rfl rfl rfl rfl
    | some screen =>
      rw [popViewController, popViewController, hui, htop, hu]
      exact sameScreens_of_eq rfl rfl rfl rfl rfl
  · rw [hu]
    exact sameScreens_of_eq rfl rfl rfl rfl rfl

/-- **The list fetched for a form**: what is on top is popped, if the form is still
there. -/
theorem sameScreens_completed (s : Navigation) (r : Request) (form : ℕ)
    (data : List GetRoomInfo) :
    SameScreens (s.popForm form) ((s.answered r).answerGetRoom form (.decoded data)) :=
  (sameScreens_popForm s r form data).trans (sameScreens_of_eq rfl rfl rfl rfl rfl)

theorem laid_completed (hs : s.ui.Laid) {form : ℕ} {data : List GetRoomInfo} {r : Request} :
    ((s.answered r).answerGetRoom form (.decoded data)).ui.Laid := by
  rw [(sameScreens_completed s r form data).ui, popForm]
  split_ifs with hmem
  · rw [popViewController]
    split
    · exact hs
    · have hsel := hs.selected_of_mem (by simp) hmem
      refine hs.replace hsel rfl rfl (hs.shape .game).tail fun hinfo hnil => ?_
      rw [hidden_replaceStack, if_neg (by simp)]
      refine (hs.shown .game hinfo fun hgame => hnil ?_).2
      exact congrArg List.tail hgame
  · exact hs

/-- **The tab bar controller of a running app is in order.** -/
theorem laid_step (s : Navigation) (a : NavigationAction) (t : Navigation)
    (hs : s.trap = none → s.ui.Laid) (h : s.step z myPk a = some t) (htrap : t.trap = none) :
    t.ui.Laid := by
  have hlaid := hs (act_of_step h).1
  rcases step_cases h with ⟨vc, r, -, rfl⟩ | ⟨form, data, r, -, rfl⟩ | ⟨-, -, hmove⟩
  · exact laid_joined hlaid htrap
  · exact laid_completed hlaid
  · exact laid_move hlaid hmove htrap

end Navigation

end Joinus
