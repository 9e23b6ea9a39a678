import Joinus.Navigation.Moves

/-!
# Joining the room on screen

A request to join says which room by a field of the shared `JoinChattingModel`, and the
chat that its reply opens gets the room from the Select screen that has sent the request.
The shared field is written by `viewDidLoad` of every Select screen – that is, by those
that are pushed, and not by those that My Matching makes without showing them. Two facts
make the two agree, in any run: a Select screen is pushed over the bare home list only, so
the one that is seen is the last whose view was loaded
(`Joinus.Navigation.NotedDown.selected`); and what a request says does not change while
it is on its way (`Joinus.Navigation.NotedDown.requests`).

The chat itself is made once for the Select screen, and every reply `1` pushes it, if the
screen is still on the stack. Nothing keeps the user from tapping the join button again
before the first reply, so a second reply `1` may find the chat on the stack, which is an
exception. It does exactly if the chat is what is seen when the reply arrives
(`Joinus.Navigation.never_pushed_twice_iff`): the chat can be left, but not covered.
-/

namespace Joinus

open Base

namespace Navigation

variable {z : TimeZone} {myPk : ℤ} {s t : Navigation} {tab tab' : Tab}
  {screen screen' : Controller}

/-! ### The room that is noted down -/

/-- **The room noted down is that of the Select screen on the stack**, the requests under
way say the room of the screen they come from, and the chat made for a Select screen has
no other room. -/
structure NotedDown (myPk : ℤ) (s : Navigation) : Prop where
  selected : ∀ {vc}, .selectJoinGame vc ∈ s.ui.stack .game →
    s.selectedRoomPk = vc.roomInfo.roomPk
  requests : ∀ {vc roomPk userPk}, .postRoomUser vc roomPk userPk ∈ s.pending →
    roomPk = vc.roomInfo.roomPk ∧ userPk = myPk
  rooms : ∀ {vc room}, (s.chats (.select vc)).roomInfo = some room → room = vc.roomInfo

theorem notedDown_signedIn : NotedDown myPk signedIn where
  selected h := absurd h Stack.notMem_empty
  requests h := absurd h List.not_mem_nil
  rooms h := absurd h (by simp [signedIn, JoinChatting.made])

/-! #### The shared field -/

/-- A push of anything but a Select screen leaves the field as it is. -/
theorem selected_push {vc : SelectJoinGame}
    (h : .selectJoinGame vc ∈ (s.pushViewController z tab screen).ui.stack .game)
    (hs : ∀ {vc}, .selectJoinGame vc ∈ s.ui.stack .game → s.selectedRoomPk = vc.roomInfo.roomPk)
    (hscreen : ∀ vc, screen ≠ .selectJoinGame vc) :
    (s.pushViewController z tab screen).selectedRoomPk = vc.roomInfo.roomPk := by
  have hframe := pushFrame z s tab screen
  rw [hframe.selectedRoomPk hscreen]
  rcases hframe.mem h with ⟨-, heq⟩ | hmem
  · exact absurd heq.symm (hscreen vc)
  · exact hs hmem

/-- The Select screen that is pushed over the bare home list is the only one there, and
notes its room down. -/
theorem selected_push_select {vc vc' : SelectJoinGame}
    (h : .selectJoinGame vc' ∈ (s.pushViewController z .game (.selectJoinGame vc)).ui.stack .game)
    (hroot : s.ui.AtRoot .game) :
    (s.pushViewController z .game (.selectJoinGame vc)).selectedRoomPk = vc'.roomInfo.roomPk := by
  have heq : vc' = vc := by
    rcases (pushFrame z s _ _).mem h with ⟨-, heq⟩ | hmem
    · simpa using heq
    · exact absurd hmem (notMem_of_atRoot hroot)
  subst heq
  have hnot : .selectJoinGame vc' ∉ s.ui.stack .game := notMem_of_atRoot hroot
  obtain ⟨screens, -, hpush⟩ := pushViewController_of_notMem (z := z) hnot
  rw [hpush]
  exact selectedRoomPk_loadSelect z _ vc'

theorem selected_move {a : NavigationAction} (hmove : Move z s a t)
    (hs : ∀ {vc}, .selectJoinGame vc ∈ s.ui.stack .game → s.selectedRoomPk = vc.roomInfo.roomPk)
    {vc : SelectJoinGame} (h : .selectJoinGame vc ∈ t.ui.stack .game) :
    t.selectedRoomPk = vc.roomInfo.roomPk := by
  cases hmove with
  | still _ hsame =>
    rw [hsame.ui] at h
    rw [hsame.selectedRoomPk]
    exact hs h
  | tabItem tab hbar =>
    have hframe := leaveFrame_didSelectTab s tab
    exact hframe.selectedRoomPk.trans (hs (hframe.mem h))
  | left htop hleft =>
    have hframe := leaveFrame_leftButton htop hleft
    exact hframe.selectedRoomPk.trans (hs (hframe.mem h))
  | createMatchingRoom hroot => exact selected_push h hs (by simp)
  | homeRow now hroot _ =>
    rw [didSelectHomeRow] at h ⊢
    split at h
    · exact hs h
    · exact selected_push_select h hroot
  | changeTierRange htop => exact selected_push h hs (by simp)
  | matchingRow hroot _ => exact selected_push h hs (by simp)
  | editProfile hroot => exact selected_push h hs (by simp)
  | administrateRow row hroot =>
    refine selected_push h hs fun vc => ?_
    rw [administrateScreen]
    split_ifs <;> simp

theorem selected_joined {vc vc' : SelectJoinGame} (r : Request)
    (hs : ∀ {vc}, .selectJoinGame vc ∈ s.ui.stack .game → s.selectedRoomPk = vc.roomInfo.roomPk)
    (h : .selectJoinGame vc' ∈
      ((s.answered r).answerPostRoomUser z vc (.decoded 1)).ui.stack .game) :
    ((s.answered r).answerPostRoomUser z vc (.decoded 1)).selectedRoomPk = vc'.roomInfo.roomPk := by
  rw [answerPostRoomUser, if_pos rfl] at h ⊢
  split_ifs at h ⊢
  · exact selected_push h hs (by simp)
  · exact hs h

theorem selected_completed {vc : SelectJoinGame} (r : Request) (form : ℕ)
    (data : List GetRoomInfo)
    (hs : ∀ {vc}, .selectJoinGame vc ∈ s.ui.stack .game → s.selectedRoomPk = vc.roomInfo.roomPk)
    (h : .selectJoinGame vc ∈
      ((s.answered r).answerGetRoom form (.decoded data)).ui.stack .game) :
    ((s.answered r).answerGetRoom form (.decoded data)).selectedRoomPk = vc.roomInfo.roomPk := by
  have hsame := sameScreens_completed s r form data
  have hframe := leaveFrame_popForm s form
  rw [hsame.ui] at h
  exact (hsame.selectedRoomPk.trans hframe.selectedRoomPk).trans (hs (hframe.mem h))

/-! #### The chats -/

/-- **A move gives the chat of a Select screen no room but that screen's.** -/
theorem roomInfo_move {a : NavigationAction} (hmove : Move z s a t) (vc : SelectJoinGame) :
    (t.chats (.select vc)).roomInfo = (s.chats (.select vc)).roomInfo ∨
      (t.chats (.select vc)).roomInfo = some vc.roomInfo := by
  cases hmove with
  | still _ hsame => exact hsame.rooms vc
  | tabItem tab hbar => exact Or.inl ((leaveFrame_didSelectTab s tab).roomInfo _)
  | left htop hleft => exact Or.inl ((leaveFrame_leftButton htop hleft).roomInfo _)
  | createMatchingRoom hroot => exact Or.inl ((pushFrame z _ _ _).roomInfo _)
  | homeRow now hroot _ =>
    rw [didSelectHomeRow]
    split
    · exact Or.inl rfl
    · exact Or.inl ((pushFrame z _ _ _).roomInfo _)
  | changeTierRange htop => exact Or.inl ((pushFrame z _ _ _).roomInfo _)
  | matchingRow hroot _ =>
    -- the chat that is made for the row is another one
    refine Or.inl (((pushFrame z _ _ _).roomInfo _).trans ?_)
    dsimp only
    rw [Function.update_of_ne (by simp)]
  | editProfile hroot => exact Or.inl ((pushFrame z _ _ _).roomInfo _)
  | administrateRow row hroot => exact Or.inl ((pushFrame z _ _ _).roomInfo _)

theorem roomInfo_joined (s : Navigation) (r : Request) (vc vc' : SelectJoinGame) :
    (((s.answered r).answerPostRoomUser z vc (.decoded 1)).chats (.select vc')).roomInfo =
        (s.chats (.select vc')).roomInfo ∨
      (((s.answered r).answerPostRoomUser z vc (.decoded 1)).chats (.select vc')).roomInfo =
        some vc'.roomInfo := by
  have hset := (sameScreens_setRoomInfo (s.answered r) vc).rooms vc'
  rw [answerPostRoomUser, if_pos rfl]
  split_ifs
  · rw [(pushFrame z _ _ _).roomInfo]
    exact hset
  · exact hset

theorem roomInfo_completed (s : Navigation) (r : Request) (form : ℕ) (data : List GetRoomInfo)
    (vc : SelectJoinGame) :
    (((s.answered r).answerGetRoom form (.decoded data)).chats (.select vc)).roomInfo =
        (s.chats (.select vc)).roomInfo ∨
      (((s.answered r).answerGetRoom form (.decoded data)).chats (.select vc)).roomInfo =
        some vc.roomInfo := by
  rw [← (leaveFrame_popForm s form).roomInfo]
  exact (sameScreens_completed s r form data).rooms vc

/-! #### The requests -/

theorem pending_present (s : Navigation) (screen : Controller) (alert : JoinusAlert) :
    (s.present screen alert).pending = s.pending := by
  rw [present]
  split_ifs <;> rfl

theorem pending_answerGetRoom (s : Navigation) (form : ℕ) (r : Reply (List GetRoomInfo)) :
    (s.answerGetRoom form r).pending = s.pending := by
  cases r with
  | decoded data => exact (leaveFrame_popForm { s with gameList := data } form).pending
  | undecodable => rfl
  | failure => rfl

theorem pending_answerPostRoomUser (s : Navigation) (vc : SelectJoinGame) (r : Reply ℤ) :
    (s.answerPostRoomUser z vc r).pending = s.pending := by
  cases r with
  | decoded res =>
    rw [answerPostRoomUser]
    split_ifs
    · exact (pushFrame z (s.setRoomInfo vc) _ _).pending
    · rfl
    · exact pending_present (s.setRoomInfo vc) _ _
  | undecodable => rfl
  | failure => rfl

/-- **What a tap sends**: nothing, a room, or – by the join button of the Select screen that
is seen – a request to join the room noted down. -/
theorem Tapped.pending {a : Tap} (h : Tapped z myPk s a t) :
    t.pending = s.pending ∨ (∃ form room, t.pending = s.pending ++ [.postRoom form room]) ∨
      ∃ vc, s.ui.topScreen = some (.selectJoinGame vc) ∧
        t.pending = s.pending ++ [.postRoomUser vc s.selectedRoomPk myPk] := by
  cases h with
  | tabItem tab => exact Or.inl (leaveFrame_didSelectTab s tab).pending
  | left htop hleft => exact Or.inl (leaveFrame_leftButton htop hleft).pending
  | homeRow now =>
    refine Or.inl ?_
    rw [didSelectHomeRow]
    split
    · rfl
    · exact (pushFrame z _ _ _).pending
  | createMatchingRoom | changeTierRange | matchingRow | editProfile | administrateRow =>
    exact Or.inl (pushFrame z _ _ _).pending
  | @makeMatchingRoom form =>
    rw [didTapMakeMatchingRoomButton]
    split
    · exact Or.inl (pending_present s _ _)
    · exact Or.inr (Or.inl ⟨form, _, rfl⟩)
  | join htop => exact Or.inr (Or.inr ⟨_, htop, rfl⟩)
  | edit | matchingButton => exact Or.inl rfl

/-- **Where a request to join comes from**: it has been under way, or the join button of
the Select screen that is seen sends it. -/
theorem sent_from {a : NavigationAction} (h : s.step z myPk a = some t) {vc : SelectJoinGame}
    {roomPk userPk : ℤ} (hmem : .postRoomUser vc roomPk userPk ∈ t.pending) :
    .postRoomUser vc roomPk userPk ∈ s.pending ∨
      (s.ui.topScreen = some (.selectJoinGame vc) ∧ roomPk = s.selectedRoomPk ∧
        userPk = myPk) := by
  obtain ⟨-, hact⟩ := act_of_step h
  cases a with
  | tap a =>
    rw [act] at hact
    split_ifs at hact
    rcases (tapped hact).pending with hsame | ⟨form, room, hpost⟩ | ⟨vc', htop, hjoin⟩
    · exact Or.inl (hsame ▸ hmem)
    · rw [hpost, List.mem_append, List.mem_singleton] at hmem
      exact hmem.imp id fun heq => absurd heq (by simp)
    · rw [hjoin, List.mem_append, List.mem_singleton, Request.postRoomUser.injEq] at hmem
      refine hmem.imp id ?_
      rintro ⟨rfl, rfl, rfl⟩
      exact ⟨htop, rfl, rfl⟩
  | okButton =>
    rw [act] at hact
    split_ifs at hact
    rw [← Option.some.inj hact] at hmem
    exact Or.inl hmem
  | gameList rooms =>
    rw [← Option.some.inj hact] at hmem
    exact Or.inl hmem
  | matchingList rooms =>
    rw [← Option.some.inj hact] at hmem
    exact Or.inl hmem
  | postRoomReply form room r =>
    rw [act] at hact
    split_ifs at hact
    rw [← Option.some.inj hact] at hmem
    cases r with
    | decoded n =>
      rcases List.mem_append.mp hmem with hold | hnew
      · exact Or.inl (List.mem_of_mem_erase hold)
      · exact absurd (List.mem_singleton.mp hnew) (by simp)
    | undecodable => exact Or.inl (List.mem_of_mem_erase hmem)
    | failure => exact Or.inl (List.mem_of_mem_erase hmem)
  | getRoomReply form r =>
    rw [act] at hact
    split_ifs at hact
    rw [← Option.some.inj hact, pending_answerGetRoom] at hmem
    exact Or.inl (List.mem_of_mem_erase hmem)
  | postRoomUserReply vc' roomPk' userPk' r =>
    rw [act] at hact
    split_ifs at hact
    rw [← Option.some.inj hact, pending_answerPostRoomUser] at hmem
    exact Or.inl (List.mem_of_mem_erase hmem)

/-- **The room stays noted down**, in every step. -/
theorem notedDown_step {a : NavigationAction} (hlaid : s.ui.Laid) (hs : NotedDown myPk s)
    (h : s.step z myPk a = some t) : NotedDown myPk t := by
  have hrequests : ∀ {vc roomPk userPk}, .postRoomUser vc roomPk userPk ∈ t.pending →
      roomPk = vc.roomInfo.roomPk ∧ userPk = myPk := by
    intro vc roomPk userPk hmem
    rcases sent_from h hmem with hold | ⟨htop, rfl, rfl⟩
    · exact hs.requests hold
    · -- the field is that of the Select screen on the stack, and this one is seen
      obtain ⟨-, helems⟩ := hlaid.select_top htop
      exact ⟨hs.selected (Stack.mem_of_elems helems), rfl⟩
  rcases step_cases h with ⟨vc, r, -, rfl⟩ | ⟨form, data, r, -, rfl⟩ | ⟨-, -, hmove⟩
  · refine ⟨selected_joined r hs.selected, hrequests, fun {vc' room} hroom => ?_⟩
    rcases roomInfo_joined s r vc vc' with hsame | hset
    · exact hs.rooms (hsame ▸ hroom)
    · exact Option.some.inj (hroom.symm.trans hset)
  · refine ⟨selected_completed r form data hs.selected, hrequests, fun {vc' room} hroom => ?_⟩
    rcases roomInfo_completed s r form data vc' with hsame | hset
    · exact hs.rooms (hsame ▸ hroom)
    · exact Option.some.inj (hroom.symm.trans hset)
  · refine ⟨selected_move hmove hs.selected, hrequests, fun {vc' room} hroom => ?_⟩
    rcases roomInfo_move hmove vc' with hsame | hset
    · exact hs.rooms (hsame ▸ hroom)
    · exact Option.some.inj (hroom.symm.trans hset)

/-! ### The room that is joined -/

/-- The tab bar controller is in order while the app runs, and the room is noted down. -/
def Sound (myPk : ℤ) (s : Navigation) : Prop := (s.trap = none → s.ui.Laid) ∧ NotedDown myPk s

theorem sound_signedIn (myPk : ℤ) : Sound myPk signedIn :=
  ⟨fun _ => TabBarController.laid_initial, notedDown_signedIn⟩

theorem sound_step (s : Navigation) (a : NavigationAction) (t : Navigation) (hs : Sound myPk s)
    (h : s.step z myPk a = some t) : Sound myPk t :=
  ⟨laid_step s a t hs.1 h, notedDown_step (hs.1 (act_of_step h).1) hs.2 h⟩

theorem step_join (h : s.step z myPk (.tap .join) = some t) :
    ∃ vc, s.ui.topScreen = some (.selectJoinGame vc) ∧ t = s.postRoomUser myPk vc := by
  obtain ⟨-, hact⟩ := act_of_step h
  rw [act] at hact
  split_ifs at hact
  cases tapped hact with
  | join htop => exact ⟨_, htop, rfl⟩

theorem step_postRoomUserReply {vc : SelectJoinGame} {roomPk userPk : ℤ} {r : Reply ℤ}
    (h : s.step z myPk (.postRoomUserReply vc roomPk userPk r) = some t) :
    .postRoomUser vc roomPk userPk ∈ s.pending ∧
      t = (s.answered (.postRoomUser vc roomPk userPk)).answerPostRoomUser z vc r := by
  obtain ⟨-, hact⟩ := act_of_step h
  rw [act] at hact
  split_ifs at hact with hmem
  exact ⟨hmem, (Option.some.inj hact).symm⟩

/-- A reply to a request to join puts no chat on a stack but that of its Select screen, and
the chat has the room of that screen. -/
theorem chat_of_answer {vc : SelectJoinGame} {r : Reply ℤ} {chat : Chatting}
    (h : .joinChatting chat ∈ (s.answerPostRoomUser z vc r).ui.stack tab)
    (hnot : .joinChatting chat ∉ s.ui.stack tab) :
    ((s.answerPostRoomUser z vc r).chats chat).roomInfo = some vc.roomInfo := by
  cases r with
  | decoded res =>
    rw [answerPostRoomUser] at h ⊢
    split_ifs at h ⊢
    · have hframe := pushFrame z (s.setRoomInfo vc) .game (.joinChatting (.select vc))
      rcases hframe.mem h with ⟨-, heq⟩ | hold
      · obtain rfl : chat = .select vc := by simpa using heq
        rw [hframe.roomInfo, roomInfo_setRoomInfo]
      · exact absurd hold hnot
    · exact absurd h hnot
    · rw [(sameScreens_present (s.setRoomInfo vc) _ _).ui] at h
      exact absurd h hnot
  | undecodable => exact absurd h hnot
  | failure => exact absurd h hnot

/-- **The room that is joined is the room on screen.** In every state of every run, the
request that the join button sends says the room of the Select screen whose button it is;
and the reply – whenever it comes – finds the request with that room, and opens no chat
but one with the room of that screen. -/
theorem joins_room_on_screen {as : List NavigationAction}
    (hr : run (step z myPk) signedIn as = some s) :
    (∀ t, s.step z myPk (.tap .join) = some t → ∃ vc,
      s.ui.topScreen = some (.selectJoinGame vc) ∧
        t.pending = s.pending ++ [.postRoomUser vc vc.roomInfo.roomPk myPk]) ∧
    ∀ vc roomPk userPk r t, s.step z myPk (.postRoomUserReply vc roomPk userPk r) = some t →
      roomPk = vc.roomInfo.roomPk ∧ ∀ tab chat, .joinChatting chat ∈ t.ui.stack tab →
        .joinChatting chat ∉ s.ui.stack tab → (t.chats chat).roomInfo = some vc.roomInfo := by
  obtain ⟨hlaid, hnoted⟩ := run_invariant sound_step (sound_signedIn myPk) hr
  constructor
  · intro t ht
    obtain ⟨vc, htop, rfl⟩ := step_join ht
    obtain ⟨-, helems⟩ := (hlaid (act_of_step ht).1).select_top htop
    refine ⟨vc, htop, ?_⟩
    rw [← hnoted.selected (Stack.mem_of_elems helems)]
    rfl
  · intro vc roomPk userPk r t ht
    obtain ⟨hmem, rfl⟩ := step_postRoomUserReply ht
    refine ⟨(hnoted.requests hmem).1, fun tab chat hchat hnot => ?_⟩
    exact chat_of_answer hchat hnot

/-- A room that can still be joined. -/
def openRoom : GetRoomInfo where
  roomPk := 7
  roomName := "tonight"
  gameName := "league of legends"
  peopleNumber := 3
  startDate := "2021-10-01 20-00-00"
  createdAt := "2021-09-30 10-00-00"
  voiceChat := true
  lowestTier := 0
  highestTier := 7
  isStart := 0
  nowPeopleCnt := 1
  leaderPk := 2
  roomManner := 5
  userList := [⟨2, 20, 0, "token", none, "image", "mina", true⟩]

/-- The Select screen that its row opens, as the first controller that is made. -/
def openSelect : SelectJoinGame := ⟨0, openRoom, 2, true⟩

/-- The row of the room is tapped, and the join button. -/
def tapToJoin : List NavigationAction := [.gameList [openRoom], .tap (.homeRow 0 0), .tap .join]

/-- The reply finds the chat with the room of the screen. -/
theorem tapToJoin_opens : ∃ s t,
    run (step (TimeZone.fixed 32400) 1) signedIn tapToJoin = some s ∧
      s.step (TimeZone.fixed 32400) 1 (.postRoomUserReply openSelect 7 1 (.decoded 1)) = some t ∧
      t.ui.topScreen = some (.joinChatting (.select openSelect)) ∧
      (t.chats (.select openSelect)).roomInfo = some openRoom := by
  have hr : run (step (TimeZone.fixed 32400) 1) signedIn tapToJoin = some _ := rfl
  refine ⟨_, _, hr, rfl, by decide, ?_⟩
  exact ((joins_room_on_screen hr).2 openSelect 7 1 (.decoded 1) _ rfl).2 .game
    (.select openSelect) (by decide) (by decide)

/-! ### The chat that is pushed -/

/-- **No chat is pushed that is on the stack**: there has been no exception for it. -/
def NeverPushedTwice (s : Navigation) : Prop :=
  ∀ chat, s.trap ≠ some (.pushedTwice (.joinChatting chat))

/-- No reply `1` comes for a Select screen whose chat is what is seen. -/
def ChatNotSeen (s : Navigation) (a : NavigationAction) : Prop :=
  ∀ vc ∈ a.joins, s.ui.topScreen ≠ some (.joinChatting (.select vc))

instance (s : Navigation) (a : NavigationAction) : Decidable (s.ChatNotSeen a) :=
  inferInstanceAs (Decidable (∀ vc ∈ a.joins, _))

theorem neverPushedTwice_of_eq (hs : s.NeverPushedTwice) (h : t.trap = s.trap) :
    t.NeverPushedTwice := fun chat => h ▸ hs chat

/-- A screen that is not on the stack is pushed without exception. -/
theorem neverPushedTwice_push (hs : s.NeverPushedTwice) (hnot : screen ∉ s.ui.stack tab) :
    (s.pushViewController z tab screen).NeverPushedTwice := by
  obtain ⟨screens, -, hpush⟩ := pushViewController_of_notMem (z := z) hnot
  have hframe := loadFrame_viewDidLoad z { s with ui := s.ui.setStack tab screens } screen
  rw [hpush]
  exact fun chat htrap => hs chat (hframe.trap _ htrap)

/-- Pushes over a root are pushes of new screens. -/
theorem neverPushedTwice_move {a : NavigationAction} (hlaid : s.ui.Laid)
    (hs : s.NeverPushedTwice) (hmove : Move z s a t) : t.NeverPushedTwice := by
  cases hmove with
  | still _ hsame => exact neverPushedTwice_of_eq hs hsame.trap
  | tabItem tab hbar => exact neverPushedTwice_of_eq hs (leaveFrame_didSelectTab s tab).trap
  | left htop hleft => exact neverPushedTwice_of_eq hs (leaveFrame_leftButton htop hleft).trap
  | createMatchingRoom hroot => exact neverPushedTwice_push hs (notMem_of_atRoot hroot)
  | homeRow now hroot _ =>
    rw [didSelectHomeRow]
    split
    · intro chat htrap
      exact absurd htrap (by simp)
    · exact neverPushedTwice_push hs (notMem_of_atRoot hroot)
  | @changeTierRange form htop =>
    obtain ⟨-, helems⟩ := hlaid.form_top htop
    refine neverPushedTwice_push hs ?_
    rw [Stack.mem_iff_of_elems helems]
    simp
  | matchingRow hroot _ => exact neverPushedTwice_push hs (notMem_of_atRoot hroot)
  | editProfile hroot => exact neverPushedTwice_push hs (notMem_of_atRoot hroot)
  | administrateRow row hroot => exact neverPushedTwice_push hs (notMem_of_atRoot hroot)

/-- **The chat of a Select screen is on the stack exactly if it is what is seen**, and the
Select screen is there too. -/
theorem chat_seen_iff (hlaid : s.ui.Laid) {vc : SelectJoinGame} :
    s.ui.topScreen = some (.joinChatting (.select vc)) ↔
      .selectJoinGame vc ∈ s.ui.stack .game ∧ .joinChatting (.select vc) ∈ s.ui.stack .game := by
  constructor
  · intro htop
    obtain ⟨hsel, hbelow⟩ := (hlaid.shape_top htop).chat_top
    have helems := Stack.elems_of_top htop
    rw [hbelow, hsel] at helems
    rw [Stack.mem_iff_of_elems helems, Stack.mem_iff_of_elems helems]
    simp
  · rintro ⟨-, hchat⟩
    obtain ⟨vc', hvc, helems⟩ := select_of_chat hlaid hchat
    obtain rfl : vc = vc' := by simpa using hvc
    exact TabBarController.topScreen_of_elems (hlaid.selected_of_chat hchat) helems

theorem neverPushedTwice_joined_iff (hlaid : s.ui.Laid) (hs : s.NeverPushedTwice) (r : Request)
    (vc : SelectJoinGame) :
    ((s.answered r).answerPostRoomUser z vc (.decoded 1)).NeverPushedTwice ↔
      s.ui.topScreen ≠ some (.joinChatting (.select vc)) := by
  rw [answerPostRoomUser, if_pos rfl, Ne, chat_seen_iff hlaid]
  split_ifs with hmem
  · by_cases hchat : .joinChatting (.select vc) ∈ s.ui.stack .game
    · rw [pushViewController_of_mem (s := (s.answered r).setRoomInfo vc) hchat]
      exact iff_of_false (fun h => h (.select vc) rfl) fun hnot => hnot ⟨hmem, hchat⟩
    · refine iff_of_true (neverPushedTwice_push (s := (s.answered r).setRoomInfo vc) ?_ hchat)
        fun h => hchat h.2
      exact neverPushedTwice_of_eq hs rfl
  · exact iff_of_true (neverPushedTwice_of_eq hs rfl) fun h => hmem h.1

theorem neverPushedTwice_step_iff (s : Navigation) (a : NavigationAction) (t : Navigation)
    (hs : s.trap = none → s.ui.Laid) (hnever : s.NeverPushedTwice)
    (h : s.step z myPk a = some t) : t.NeverPushedTwice ↔ s.ChatNotSeen a := by
  have hlaid := hs (act_of_step h).1
  rcases step_cases h with ⟨vc, r, hjoins, rfl⟩ | ⟨form, data, r, hcompletes, rfl⟩ |
    ⟨hjoins, -, hmove⟩
  · rw [neverPushedTwice_joined_iff hlaid hnever, ChatNotSeen, hjoins]
    simp
  · have hpop := (sameScreens_completed s r form data).trap
    rw [(leaveFrame_popForm s form).trap] at hpop
    exact iff_of_true (neverPushedTwice_of_eq hnever hpop)
      (forall_mem_of_eq_none (NavigationAction.joins_of_completes hcompletes))
  · exact iff_of_true (neverPushedTwice_move hlaid hnever hmove) (forall_mem_of_eq_none hjoins)

/-- **The chat screen is never pushed twice in a run exactly when no reply `1` comes for a
Select screen whose chat is what is seen.** -/
theorem never_pushed_twice_iff {as : List NavigationAction}
    (hr : run (step z myPk) signedIn as = some s) :
    Throughout (step z myPk) NeverPushedTwice signedIn as ↔
      Along (step z myPk) ChatNotSeen signedIn as :=
  throughout_iff_along laid_step neverPushedTwice_step_iff
    (fun _ => TabBarController.laid_initial) (fun _ htrap => absurd htrap (by simp [signedIn])) hr

/-- The join button is tapped twice before the first reply, and both replies are `1`. -/
def tappedJoinTwice : List NavigationAction :=
  tapToJoin ++ [.tap .join, .postRoomUserReply openSelect 7 1 (.decoded 1),
    .postRoomUserReply openSelect 7 1 (.decoded 1)]

/-- **The second reply pushes the chat onto itself.** -/
theorem tappedJoinTwice_crashes :
    ∃ s, run (step (TimeZone.fixed 32400) 1) signedIn tappedJoinTwice = some s ∧
      s.trap = some (.pushedTwice (.joinChatting (.select openSelect))) ∧
      ¬Throughout (step (TimeZone.fixed 32400) 1) NeverPushedTwice signedIn tappedJoinTwice := by
  have hr : run (step (TimeZone.fixed 32400) 1) signedIn tappedJoinTwice = some _ := rfl
  exact ⟨_, hr, rfl, fun h => h.last hr (.select openSelect) rfl⟩

/-- The same two taps, with the chat left between the replies. -/
def leftBetweenReplies : List NavigationAction :=
  tapToJoin ++ [.tap .join, .postRoomUserReply openSelect 7 1 (.decoded 1), .tap .left,
    .postRoomUserReply openSelect 7 1 (.decoded 1)]

/-- The second reply finds the Select screen, and opens the chat again. -/
theorem leftBetweenReplies_opens :
    ∃ s, run (step (TimeZone.fixed 32400) 1) signedIn leftBetweenReplies = some s ∧
      s.ui.topScreen = some (.joinChatting (.select openSelect)) ∧
      Throughout (step (TimeZone.fixed 32400) 1) NeverPushedTwice signedIn leftBetweenReplies := by
  have hr : run (step (TimeZone.fixed 32400) 1) signedIn leftBetweenReplies = some _ := rfl
  exact ⟨_, hr, by decide, (never_pushed_twice_iff hr).mpr (by decide)⟩

end Navigation

end Joinus
