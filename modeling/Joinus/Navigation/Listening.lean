import Joinus.Navigation.Joining

/-!
# Chats that listen

A chat registers its listener at the end of `viewDidLoad` and removes it in
`viewDidDisappear`. The first happens once in the life of a controller, the second each
time it is left. For a chat of My Matching, which is made anew for every tap on a row,
the two come in pairs. The chat of a Select screen is made once for that screen: after it
has been left, the next reply `1` shows the *same* controller, whose view is loaded
already, and nobody registers the listener again.

So a chat that is seen listens, and a chat that has been left does not, throughout a run
exactly when no reply `1` comes for a Select screen that is seen and whose chat has been
shown before (`Joinus.Navigation.chats_listen_iff`). A reply that comes while the chat is
on the stack does no harm to this property – it ends the app instead.
-/

namespace Joinus

open Base

namespace Navigation

variable {z : TimeZone} {myPk : ℤ} {s t : Navigation} {tab tab' : Tab}
  {screen screen' : Controller} {chat : Chatting}

/-- **A chat that is seen listens, and a chat that is on no stack does not.** -/
structure ChatsListen (s : Navigation) : Prop where
  shown : ∀ {chat}, s.ui.topScreen = some (.joinChatting chat) → (s.chats chat).listener ≠ none
  left : ∀ {chat}, (∀ tab, .joinChatting chat ∉ s.ui.stack tab) → (s.chats chat).listener = none

/-- No reply `1` comes for a Select screen that is seen and whose chat has been shown. -/
def FirstVisit (s : Navigation) (a : NavigationAction) : Prop :=
  ∀ vc ∈ a.joins, s.ui.topScreen = some (.selectJoinGame vc) →
    (s.chats (.select vc)).viewLoaded = false

instance (s : Navigation) (a : NavigationAction) : Decidable (s.FirstVisit a) :=
  inferInstanceAs (Decidable (∀ vc ∈ a.joins, _ → _))

theorem chatsListen_signedIn : ChatsListen signedIn where
  shown h := absurd h (by simp [signedIn, TabBarController.topScreen, TabBarController.initial])
  left _ := rfl

theorem ChatsListen.of_same (hs : s.ChatsListen) (h : SameScreens s t) : t.ChatsListen where
  shown {chat} htop := by
    rw [h.ui] at htop
    rw [h.listener]
    exact hs.shown htop
  left {chat} hnot := by
    rw [h.ui] at hnot
    rw [h.listener]
    exact hs.left hnot

/-! ### Pushing -/

/-- A push of anything but a chat. -/
theorem chatsListen_push (hs : s.ChatsListen) (htab : s.ui.selected = tab)
    (hnot : screen ∉ s.ui.stack tab) (hscreen : ∀ chat, screen ≠ .joinChatting chat) :
    (s.pushViewController z tab screen).ChatsListen where
  shown {chat} htop := by
    rw [topScreen_pushViewController htab hnot] at htop
    exact absurd (Option.some.inj htop) (hscreen chat)
  left {chat} hgone := by
    obtain ⟨screens, -, hpush⟩ := pushViewController_of_notMem (z := z) hnot
    have hframe := loadFrame_viewDidLoad z { s with ui := s.ui.setStack tab screens } screen
    have hbefore : ∀ tab, .joinChatting chat ∉ s.ui.stack tab :=
      fun tab' hmem => hgone tab' ((mem_push_iff hnot).mpr (Or.inr hmem))
    rw [hpush, hframe.chats chat (hscreen chat)]
    exact hs.left hbefore

/-- **The first push of a chat** registers its listener. -/
theorem chatsListen_push_chat (room : GetRoomInfo) (htab : s.ui.selected = tab)
    (hnot : .joinChatting chat ∉ s.ui.stack tab) (hroom : (s.chats chat).roomInfo = some room)
    (hfirst : (s.chats chat).viewLoaded = false)
    (hleft : ∀ {chat'}, chat' ≠ chat → (∀ tab, .joinChatting chat' ∉ s.ui.stack tab) →
      (s.chats chat').listener = none) :
    (s.pushViewController z tab (.joinChatting chat)).ChatsListen := by
  have hchats := chats_push_of_first (z := z) hnot hroom hfirst
  constructor
  · intro chat' htop
    rw [topScreen_pushViewController htab hnot] at htop
    obtain rfl : chat = chat' := by simpa using htop
    rw [hchats, Function.update_self]
    simp
  · intro chat' hgone
    have hne : chat' ≠ chat := by
      rintro rfl
      exact hgone tab ((mem_push_iff hnot).mpr (Or.inl ⟨rfl, rfl⟩))
    rw [hchats, Function.update_of_ne hne]
    exact hleft hne fun tab' hmem => hgone tab' ((mem_push_iff hnot).mpr (Or.inr hmem))

/-! ### Leaving -/

/-- **What is popped listens no longer**, and what is seen then is not a chat. -/
theorem chatsListen_pop (hlaid : s.ui.Laid) (hs : s.ChatsListen) (htab : s.ui.selected = tab)
    (htop : (s.ui.stack tab).top = some screen) :
    (s.replaceStack tab (s.ui.stack tab).pop).ChatsListen where
  shown {chat} hshown := by
    rw [topScreen_replaceStack htab] at hshown
    have hmem : .joinChatting chat ∈ (s.ui.stack tab).pop := Stack.mem_of_top hshown
    exact absurd hmem (hlaid.shape tab).chat_notMem_tail
  left {chat} hgone := by
    rw [chats_replaceStack, chats_topDidDisappear, htop]
    split_ifs with hchat
    · rfl
    · refine hs.left fun tab' hmem => hgone tab' ?_
      change _ ∈ Function.update s.ui.stack tab (s.ui.stack tab).pop tab'
      rcases eq_or_ne tab' tab with rfl | hne
      · rw [Function.update_self]
        refine ((Stack.mem_iff_of_top htop).mp hmem).resolve_left fun heq => hchat ?_
        rw [heq]
      · rwa [Function.update_of_ne hne]

theorem chatsListen_leftButton (hlaid : s.ui.Laid) (hs : s.ChatsListen)
    (htop : s.ui.topScreen = some screen) (h : s.leftButton screen = some t) :
    t.ChatsListen := by
  have hpop := chatsListen_pop hlaid hs rfl htop
  obtain ⟨s', rfl, ⟨-, rfl⟩ | ⟨-, rfl⟩⟩ := leftButton_cases htop h
  · exact ⟨hpop.shown, hpop.left⟩
  · exact hpop

/-- **A chat that is left is on no stack**, and has removed its listener. -/
theorem gone_of_leftButton (hlaid : s.ui.Laid) (htop : s.ui.topScreen = some (.joinChatting chat))
    (h : s.leftButton (.joinChatting chat) = some t) :
    (∀ tab, .joinChatting chat ∉ t.ui.stack tab) ∧ (t.chats chat).listener = none := by
  obtain ⟨s', rfl, ⟨hbar, -⟩ | ⟨-, rfl⟩⟩ := leftButton_cases htop h
  · exact absurd hbar id
  · constructor
    · intro tab hmem
      obtain rfl : s.ui.selected = tab :=
        hlaid.selected_of_chat ((leaveFrame_leftButton htop h).mem hmem)
      change _ ∈ Function.update s.ui.stack s.ui.selected _ s.ui.selected at hmem
      rw [Function.update_self] at hmem
      exact Stack.notMem_pop_of_top htop hmem
    · rw [chats_replaceStack, chats_topDidDisappear]
      exact congrArg JoinChatting.listener (if_pos htop)

/-- The tab bar is used only while there are no chats. -/
theorem chatsListen_didSelectTab (hlaid : s.ui.Laid) (hs : s.ChatsListen)
    (hbar : s.ui.tabBarHidden = false) (tab : Tab) : (s.didSelectTab tab).ChatsListen := by
  have hframe := leaveFrame_didSelectTab s tab
  have hnone := hlaid.no_chat_of_visible hbar
  constructor
  · intro chat htop
    exact absurd (hframe.mem (Stack.mem_of_top htop)) (hnone _ chat)
  · intro chat _
    have hbefore : (s.chats chat).listener = none := hs.left fun tab => hnone tab chat
    rcases hframe.listener chat with hsame | hremoved
    · exact hsame.trans hbefore
    · exact hremoved

theorem chatsListen_popForm (hlaid : s.ui.Laid) (hs : s.ChatsListen) (form : ℕ) :
    (s.popForm form).ChatsListen := by
  rw [popForm]
  split_ifs with hmem
  · have hsel := hlaid.selected_of_mem (by simp) hmem
    rw [popViewController]
    split
    · exact hs
    · next htop => exact chatsListen_pop hlaid hs hsel htop
  · exact hs

/-! ### Steps -/

theorem chatsListen_move {a : NavigationAction} (hlaid : s.ui.Laid) (hs : s.ChatsListen)
    (hmove : Move z s a t) : t.ChatsListen := by
  cases hmove with
  | still _ hsame => exact hs.of_same hsame
  | tabItem tab hbar => exact chatsListen_didSelectTab hlaid hs hbar tab
  | left htop hleft => exact chatsListen_leftButton hlaid hs htop hleft
  | createMatchingRoom hroot =>
    exact chatsListen_push ⟨hs.shown, hs.left⟩ hroot.1 (notMem_of_atRoot hroot) (by simp)
  | homeRow now hroot _ =>
    rw [didSelectHomeRow]
    split
    · exact ⟨hs.shown, hs.left⟩
    · exact chatsListen_push ⟨hs.shown, hs.left⟩ hroot.1 (notMem_of_atRoot hroot) (by simp)
  | @changeTierRange form htop =>
    obtain ⟨hsel, helems⟩ := hlaid.form_top htop
    refine chatsListen_push hs hsel ?_ (by simp)
    rw [Stack.mem_iff_of_elems helems]
    simp
  | @matchingRow row room hroot _ =>
    -- the chat has just been made: it has a room, and its view has not been loaded
    refine chatsListen_push_chat room hroot.1 (notMem_of_atRoot hroot) ?_ ?_ ?_
    · simp
    · simp [JoinChatting.made]
    · intro chat' hne hgone
      dsimp only
      rw [Function.update_of_ne hne]
      exact hs.left hgone
  | editProfile hroot =>
    exact chatsListen_push hs hroot.1 (notMem_of_atRoot hroot) (by simp)
  | administrateRow row hroot =>
    refine chatsListen_push ⟨hs.shown, hs.left⟩ hroot.1 (notMem_of_atRoot hroot) fun chat => ?_
    rw [administrateScreen]
    split_ifs <;> simp

/-- **The second visit**: the view of the chat is loaded, and it is pushed as it is. -/
theorem not_chatsListen_push_again (hs : s.ChatsListen) (htab : s.ui.selected = tab)
    (hnot : ∀ tab, .joinChatting chat ∉ s.ui.stack tab) (hloaded : (s.chats chat).viewLoaded) :
    ¬(s.pushViewController z tab (.joinChatting chat)).ChatsListen := by
  intro h
  have hsilent : (s.chats chat).listener = none := hs.left hnot
  refine h.shown (topScreen_pushViewController htab (hnot tab)) ?_
  rw [chats_push_of_loaded (hnot tab) hloaded]
  exact hsilent

/-- **The reply `1`**: if the chat goes over its Select screen, it listens exactly if this
is the first time. -/
theorem chatsListen_joined_iff (hlaid : s.ui.Laid) (hs : s.ChatsListen) (r : Request)
    (vc : SelectJoinGame) :
    ((s.answered r).answerPostRoomUser z vc (.decoded 1)).ChatsListen ↔
      (s.ui.topScreen = some (.selectJoinGame vc) → (s.chats (.select vc)).viewLoaded = false) := by
  have hsame : SameScreens s ((s.answered r).setRoomInfo vc) :=
    (sameScreens_answered s r).trans (sameScreens_setRoomInfo _ vc)
  have hset : ((s.answered r).setRoomInfo vc).ChatsListen := hs.of_same hsame
  rw [answerPostRoomUser, if_pos rfl]
  split_ifs with hmem
  · have hsel : s.ui.selected = .game := hlaid.selected_of_mem (by simp) hmem
    rcases elems_of_select hlaid hmem with helems | helems
    · have htop : s.ui.topScreen = some (.selectJoinGame vc) :=
        TabBarController.topScreen_of_elems hsel helems
      have hnot : ∀ tab, .joinChatting (.select vc) ∉ s.ui.stack tab := by
        intro tab hchat
        obtain rfl : .game = tab := hsel.symm.trans (hlaid.selected_of_chat hchat)
        rw [Stack.mem_iff_of_elems helems] at hchat
        exact absurd hchat (by simp)
      by_cases hfirst : (s.chats (.select vc)).viewLoaded = false
      · refine iff_of_true ?_ fun _ => hfirst
        exact chatsListen_push_chat vc.roomInfo hsel (hnot .game) (roomInfo_setRoomInfo _ vc)
          ((hsame.viewLoaded _).trans hfirst) fun _ hgone => hset.left hgone
      · refine iff_of_false ?_ fun h => hfirst (h htop)
        refine not_chatsListen_push_again hset hsel hnot ?_
        rw [hsame.viewLoaded]
        simpa using hfirst
    · -- the chat is on the stack: nothing of this changes
      have hchat : .joinChatting (.select vc) ∈ s.ui.stack .game :=
        Stack.mem_of_elems helems
      rw [pushViewController_of_mem (s := (s.answered r).setRoomInfo vc) hchat]
      refine iff_of_true ⟨hset.shown, hset.left⟩ fun htop => ?_
      obtain ⟨-, halone⟩ := hlaid.select_top htop
      exact absurd (helems.symm.trans halone) (by simp)
  · refine iff_of_true hset fun htop => absurd ?_ hmem
    obtain ⟨-, helems⟩ := hlaid.select_top htop
    exact Stack.mem_of_elems helems

theorem chatsListen_step_iff (s : Navigation) (a : NavigationAction) (t : Navigation)
    (hs : s.trap = none → s.ui.Laid) (hlisten : s.ChatsListen) (h : s.step z myPk a = some t) :
    t.ChatsListen ↔ s.FirstVisit a := by
  have hlaid := hs (act_of_step h).1
  rcases step_cases h with ⟨vc, r, hjoins, rfl⟩ | ⟨form, data, r, hcompletes, rfl⟩ |
    ⟨hjoins, -, hmove⟩
  · rw [chatsListen_joined_iff hlaid hlisten, FirstVisit, hjoins]
    simp
  · refine iff_of_true ?_ (forall_mem_of_eq_none (NavigationAction.joins_of_completes hcompletes))
    exact (chatsListen_popForm hlaid hlisten form).of_same (sameScreens_completed s r form data)
  · exact iff_of_true (chatsListen_move hlaid hlisten hmove) (forall_mem_of_eq_none hjoins)

/-- **Every chat that is seen listens, and no chat that has been left does, throughout a run
exactly when every reply `1` that finds its Select screen on top is the first to show its
chat.** -/
theorem chats_listen_iff {as : List NavigationAction}
    (hr : run (step z myPk) signedIn as = some s) :
    Throughout (step z myPk) ChatsListen signedIn as ↔
      Along (step z myPk) FirstVisit signedIn as :=
  throughout_iff_along laid_step chatsListen_step_iff (fun _ => TabBarController.laid_initial)
    chatsListen_signedIn hr

/-- **A chat that is left removes its listener**, in every run. -/
theorem left_chat_silent {as : List NavigationAction}
    (hr : run (step z myPk) signedIn as = some s)
    (htop : s.ui.topScreen = some (.joinChatting chat))
    (h : s.step z myPk (.tap .left) = some t) :
    (∀ tab, .joinChatting chat ∉ t.ui.stack tab) ∧ (t.chats chat).listener = none := by
  have hlaid := run_invariant laid_step (fun _ => TabBarController.laid_initial) hr
  obtain ⟨htrap, hact⟩ := act_of_step h
  rw [act] at hact
  split_ifs at hact
  rw [tap, htop] at hact
  exact gone_of_leftButton (hlaid htrap) htop hact

/-- **The chat that was joined listened, and is silent** once it has been left. -/
theorem joinedOnce_silent : ∃ s t,
    run (step (TimeZone.fixed 32400) 1) signedIn
        (tapToJoin ++ [.postRoomUserReply openSelect 7 1 (.decoded 1)]) = some s ∧
      s.step (TimeZone.fixed 32400) 1 (.tap .left) = some t ∧
      (s.chats (.select openSelect)).listener = some openRoom.roomPk ∧
      (t.chats (.select openSelect)).listener = none := by
  have hr : run (step (TimeZone.fixed 32400) 1) signedIn
      (tapToJoin ++ [.postRoomUserReply openSelect 7 1 (.decoded 1)]) = some _ := rfl
  exact ⟨_, _, hr, rfl, by decide, (left_chat_silent hr (by decide) rfl).2⟩

/-- The room is joined, the chat left, and the room joined again. -/
def joinedAgain : List NavigationAction :=
  tapToJoin ++ [.postRoomUserReply openSelect 7 1 (.decoded 1), .tap .left, .tap .join,
    .postRoomUserReply openSelect 7 1 (.decoded 1)]

/-- **The chat is seen, and does not listen.** -/
theorem joinedAgain_silent :
    ∃ s, run (step (TimeZone.fixed 32400) 1) signedIn joinedAgain = some s ∧
      s.ui.topScreen = some (.joinChatting (.select openSelect)) ∧
      (s.chats (.select openSelect)).listener = none ∧
      ¬Throughout (step (TimeZone.fixed 32400) 1) ChatsListen signedIn joinedAgain := by
  have hr : run (step (TimeZone.fixed 32400) 1) signedIn joinedAgain = some _ := rfl
  refine ⟨_, hr, by decide, by decide, fun h => ?_⟩
  exact @ChatsListen.shown _ (h.last hr) (.select openSelect) (by decide) (by decide)

/-- The room is joined, chat and Select screen are left, and the room is joined again from
another Select screen. -/
def joinedAnew : List NavigationAction :=
  tapToJoin ++ [.postRoomUserReply openSelect 7 1 (.decoded 1), .tap .left, .tap .left,
    .tap (.homeRow 0 0), .tap .join,
    .postRoomUserReply { openSelect with number := 1 } 7 1 (.decoded 1)]

/-- The other Select screen has a chat of its own, and that one listens. -/
theorem joinedAnew_listens :
    ∃ s, run (step (TimeZone.fixed 32400) 1) signedIn joinedAnew = some s ∧
      (s.chats (.select { openSelect with number := 1 })).listener = some 7 ∧
      Throughout (step (TimeZone.fixed 32400) 1) ChatsListen signedIn joinedAnew := by
  have hr : run (step (TimeZone.fixed 32400) 1) signedIn joinedAnew = some _ := rfl
  exact ⟨_, hr, by decide, (chats_listen_iff hr).mpr (by decide)⟩

end Navigation

end Joinus
