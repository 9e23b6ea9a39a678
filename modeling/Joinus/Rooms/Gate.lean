import Joinus.Rooms.Start

/-!
# Who comes into the chat of a room

The one gate on the way from the home list into the chat of a room is the join button, and
the one thing that opens or closes it is the label of the start, when the row of the room is
tapped. After that nothing looks at the clock again: the button stays as it is while the
Select screen is there, the request says nothing of the time, and the reply pushes the chat.

So what can be said of a chat, or of a request that is under way, is something about the
past: of the tap that has made its Select screen. The room was on the home list then, whose
leader the screen marks, and it was still to start (`Joinus.Navigation.joined_before_start`).
That it has not started since is for the server to say.

The proof goes backwards. A Select screen that can be seen, is waiting for a reply or has its
chat on a stack has been made by a tap on a row (`Joinus.Navigation.reaches_step`), whatever
has happened since; and requests come from enabled buttons, as chats come from requests
(`Joinus.Navigation.admitted_step`).
-/

namespace Joinus

open Base

namespace Navigation

variable {z : TimeZone} {myPk : ℤ} {s t : Navigation} {tab : Tab} {screen screen' : Controller}
  {vc : SelectJoinGame}

/-- **A label other than that of the end** is that of a start ahead. -/
theorem start_of_label {o now : ℤ} {time label : String}
    (hera : InCommonEra (TimeZone.fixed o) now)
    (hlabel : calculateStartTime (TimeZone.fixed o) now time = some label)
    (hne : label ≠ "매칭 완료") :
    ∃ start, readStartDate (TimeZone.fixed o) time = some start ∧ now < start := by
  obtain ⟨start, hread⟩ : ∃ start, readStartDate (TimeZone.fixed o) time = some start := by
    rw [← Option.isSome_iff_exists, Option.isSome_iff_ne_none]
    intro hnone
    simp [calculateStartTime, hnone] at hlabel
  obtain ⟨hvalid, hday⟩ := writtenDay_of_inCommonEra hera
  rw [calculateStartTime_eq now hread, if_pos hvalid, hday] at hlabel
  refine ⟨start, hread, ?_⟩
  by_contra hle
  rw [not_lt, ← countedSecond_le_zero_iff o, ← calculateStartTimeInterval_eq_done] at hle
  exact hne ((Option.some.inj hlabel).symm.trans hle)

/-! ### Where a Select screen is known -/

/-- **A Select screen can still come to something**: it can be seen, its chat can, or it
waits for a reply. -/
inductive Reaches (s : Navigation) (vc : SelectJoinGame) : Prop
  | seen {tab : Tab} (h : .selectJoinGame vc ∈ s.ui.stack tab)
  | chatting {tab : Tab} (h : .joinChatting (.select vc) ∈ s.ui.stack tab)
  | asking {roomPk userPk : ℤ} (h : .postRoomUser vc roomPk userPk ∈ s.pending)

/-- **A tap on a row makes a Select screen**, of the room in that row; the label of its start
decides about the button. -/
def Opens (z : TimeZone) (s : Navigation) (a : NavigationAction) (vc : SelectJoinGame) : Prop :=
  ∃ row now label, a = .tap (.homeRow row now) ∧ s.gameList[row]? = some vc.roomInfo ∧
    calculateStartTime z now vc.roomInfo.startDate = some label ∧
    vc.joinJangPk = vc.roomInfo.leaderPk ∧ vc.joinButtonEnabled = decide (label ≠ "매칭 완료")

/-- What is on a stack after a push has been there, if it is not what was pushed. -/
theorem mem_of_mem_push {tab' : Tab}
    (h : screen' ∈ (s.pushViewController z tab screen).ui.stack tab') (hne : screen' ≠ screen) :
    screen' ∈ s.ui.stack tab' := by
  rcases (pushFrame z s tab screen).mem h with ⟨-, heq⟩ | hold
  · exact absurd heq hne
  · exact hold

/-- The row of the home list makes a Select screen of its room. -/
theorem select_of_homeRow {row : ℕ} {room : GetRoomInfo} {now : Instant}
    (hroom : s.gameList[row]? = some room)
    (h : .selectJoinGame vc ∈ (s.didSelectHomeRow z now room).ui.stack tab) :
    .selectJoinGame vc ∈ s.ui.stack tab ∨ Opens z s (.tap (.homeRow row now)) vc := by
  rw [didSelectHomeRow] at h
  split at h
  · exact Or.inl h
  · next label hlabel =>
    rcases (pushFrame z _ _ _).mem h with ⟨-, heq⟩ | hold
    · obtain rfl := Controller.selectJoinGame.inj heq
      exact Or.inr ⟨row, now, label, rfl, hroom, hlabel, rfl, rfl⟩
    · exact Or.inl hold

/-- The rows of the own page lead to screens of its own. -/
theorem selectJoinGame_ne_administrateScreen (vc : SelectJoinGame) (number row : ℕ) :
    Controller.selectJoinGame vc ≠ administrateScreen number row := by
  rw [administrateScreen]
  split_ifs <;> simp

theorem joinChatting_ne_administrateScreen (chat : Chatting) (number row : ℕ) :
    Controller.joinChatting chat ≠ administrateScreen number row := by
  rw [administrateScreen]
  split_ifs <;> simp

/-- **No move puts a Select screen on a stack**, but the one that makes it. -/
theorem select_of_move {a : NavigationAction} (hmove : Move z s a t)
    (h : .selectJoinGame vc ∈ t.ui.stack tab) :
    .selectJoinGame vc ∈ s.ui.stack tab ∨ Opens z s a vc := by
  rcases hmove with ⟨-, hsame⟩ | ⟨tab', hbar⟩ | ⟨htop, hleft⟩ | hroot | ⟨now, hroot, hroom⟩ | htop |
    ⟨hroot, hroom⟩ | hroot | ⟨row, hroot⟩
  case still =>
    rw [hsame.ui] at h
    exact Or.inl h
  case tabItem => exact Or.inl ((leaveFrame_didSelectTab s tab').mem h)
  case left => exact Or.inl ((leaveFrame_leftButton htop hleft).mem h)
  case homeRow => exact select_of_homeRow hroom h
  case administrateRow =>
    have hold := mem_of_mem_push h (selectJoinGame_ne_administrateScreen vc _ row)
    exact Or.inl hold
  all_goals
    have hold := mem_of_mem_push h (by simp)
    exact Or.inl hold

/-- **No move puts the chat of a Select screen on a stack.** -/
theorem chat_of_move {a : NavigationAction} (hmove : Move z s a t)
    (h : .joinChatting (.select vc) ∈ t.ui.stack tab) :
    .joinChatting (.select vc) ∈ s.ui.stack tab := by
  rcases hmove with ⟨-, hsame⟩ | ⟨tab', hbar⟩ | ⟨htop, hleft⟩ | hroot | ⟨now, hroot, hroom⟩ | htop |
    ⟨hroot, hroom⟩ | hroot | ⟨row, hroot⟩
  case still => rwa [hsame.ui] at h
  case tabItem => exact (leaveFrame_didSelectTab s tab').mem h
  case left => exact (leaveFrame_leftButton htop hleft).mem h
  case homeRow =>
    rw [didSelectHomeRow] at h
    split at h
    · exact h
    · have hold := mem_of_mem_push h (by simp)
      exact hold
  case administrateRow =>
    have hold := mem_of_mem_push h (joinChatting_ne_administrateScreen _ _ row)
    exact hold
  all_goals
    have hold := mem_of_mem_push h (by simp)
    exact hold

/-- **The reply `1` pushes the chat of the Select screen that has asked**, and nothing
else. -/
theorem mem_of_joined {r : Request} {vc' : SelectJoinGame}
    (h : screen ∈ ((s.answered r).answerPostRoomUser z vc' (.decoded 1)).ui.stack tab) :
    screen ∈ s.ui.stack tab ∨ screen = .joinChatting (.select vc') := by
  rw [answerPostRoomUser, if_pos rfl] at h
  split_ifs at h
  · rcases (pushFrame z _ _ _).mem h with ⟨-, heq⟩ | hold
    · exact Or.inr heq
    · exact Or.inl hold
  · exact Or.inl h

theorem mem_of_completed {r : Request} {form : ℕ} {data : List GetRoomInfo}
    (h : screen ∈ ((s.answered r).answerGetRoom form (.decoded data)).ui.stack tab) :
    screen ∈ s.ui.stack tab := by
  rw [(sameScreens_completed s r form data).ui] at h
  exact (leaveFrame_popForm s form).mem h

/-- A reply that lets join is the reply to a request. -/
theorem asking_of_joins {a : NavigationAction} (h : s.step z myPk a = some t)
    (hjoins : a.joins = some vc) : ∃ roomPk userPk, .postRoomUser vc roomPk userPk ∈ s.pending := by
  rcases a with a | - | rooms | rooms | ⟨form, room, r⟩ | ⟨form, r⟩ | ⟨vc', roomPk, userPk, r⟩
  case postRoomUserReply =>
    rcases r with res | - | -
    · rw [NavigationAction.joins] at hjoins
      split_ifs at hjoins
      obtain rfl := Option.some.inj hjoins
      exact ⟨roomPk, userPk, (step_postRoomUserReply h).1⟩
    · exact absurd hjoins (by simp [NavigationAction.joins])
    · exact absurd hjoins (by simp [NavigationAction.joins])
  all_goals exact absurd hjoins (by simp [NavigationAction.joins])

/-- **A step knows no Select screen but those that were known**, and the one that it makes. -/
theorem reaches_step (s : Navigation) (a : NavigationAction) (t : Navigation) (vc : SelectJoinGame)
    (h : s.step z myPk a = some t) (hvc : Reaches t vc) : Reaches s vc ∨ Opens z s a vc := by
  rcases hvc with hseen | hchatting | hasking
  · rcases step_cases h with ⟨vc', r, -, rfl⟩ | ⟨form, data, r, -, rfl⟩ | ⟨-, -, hmove⟩
    · rcases mem_of_joined hseen with hold | heq
      · exact Or.inl (.seen hold)
      · exact absurd heq (by simp)
    · exact Or.inl (.seen (mem_of_completed hseen))
    · exact (select_of_move hmove hseen).imp_left .seen
  · rcases step_cases h with ⟨vc', r, hjoins, rfl⟩ | ⟨form, data, r, -, rfl⟩ | ⟨-, -, hmove⟩
    · rcases mem_of_joined hchatting with hold | heq
      · exact Or.inl (.chatting hold)
      · obtain rfl := Chatting.select.inj (Controller.joinChatting.inj heq)
        obtain ⟨roomPk, userPk, hpending⟩ := asking_of_joins h hjoins
        exact Or.inl (.asking hpending)
    · exact Or.inl (.chatting (mem_of_completed hchatting))
    · exact Or.inl (.chatting (chat_of_move hmove hchatting))
  · -- a request is sent by the Select screen that is seen
    rcases sent_from h hasking with hold | ⟨htop, -, -⟩
    · exact Or.inl (.asking hold)
    · exact Or.inl (.seen (Stack.mem_of_top htop))

/-! ### The gate -/

/-- **Of the taps only that on the join button asks**, while the button is enabled. -/
theorem asking_of_tap {a : Tap} (h : s.tap z myPk a = some t) {roomPk userPk : ℤ}
    (hasking : .postRoomUser vc roomPk userPk ∈ t.pending) :
    .postRoomUser vc roomPk userPk ∈ s.pending ∨ vc.joinButtonEnabled = true := by
  cases a with
  | join =>
    rw [tap] at h
    split at h
    · split_ifs at h with henabled
      obtain rfl := Option.some.inj h
      rcases List.mem_append.mp hasking with hold | hnew
      · exact Or.inl hold
      · obtain ⟨rfl, -, -⟩ := Request.postRoomUser.inj (List.mem_singleton.mp hnew)
        exact Or.inr henabled
    · exact absurd h (by simp)
  | makeMatchingRoom =>
    obtain ⟨htop⟩ := tapped h
    rw [didTapMakeMatchingRoomButton] at hasking
    split at hasking
    · rw [pending_present] at hasking
      exact Or.inl hasking
    · rcases List.mem_append.mp hasking with hold | hnew
      · exact Or.inl hold
      · exact absurd (List.mem_singleton.mp hnew) (by simp)
  | homeRow row now =>
    obtain ⟨hroot, hroom⟩ := tapped h
    rw [didSelectHomeRow] at hasking
    split at hasking
    · exact Or.inl hasking
    · rw [(pushFrame z _ _ _).pending] at hasking
      exact Or.inl hasking
  | tabItem tab =>
    obtain ⟨hbar⟩ := tapped h
    rw [(leaveFrame_didSelectTab s tab).pending] at hasking
    exact Or.inl hasking
  | left =>
    have hsame : t.pending = s.pending := by
      cases tapped h with
      | left htop hleft => exact (leaveFrame_leftButton htop hleft).pending
    exact Or.inl (hsame ▸ hasking)
  | edit model | matchingButton made =>
    cases tapped h
    exact Or.inl hasking
  | createMatchingRoom | changeTierRange | matchingRow row | editProfile | administrateRow row =>
    have hsame : t.pending = s.pending := by
      cases tapped h
      exact (pushFrame z _ _ _).pending
    exact Or.inl (hsame ▸ hasking)

/-- **No reply asks to join.** -/
theorem asking_of_step {a : NavigationAction} (h : s.step z myPk a = some t) {roomPk userPk : ℤ}
    (hasking : .postRoomUser vc roomPk userPk ∈ t.pending) :
    .postRoomUser vc roomPk userPk ∈ s.pending ∨ vc.joinButtonEnabled = true := by
  obtain ⟨-, hact⟩ := act_of_step h
  rcases a with a | - | rooms | rooms | ⟨form, room, r⟩ | ⟨form, r⟩ | ⟨vc', roomPk', userPk', r⟩
  case tap =>
    rw [act] at hact
    split_ifs at hact
    exact asking_of_tap hact hasking
  case okButton =>
    rw [act] at hact
    split_ifs at hact
    obtain rfl := Option.some.inj hact
    exact Or.inl hasking
  case gameList | matchingList =>
    obtain rfl := Option.some.inj hact
    exact Or.inl hasking
  case postRoomReply =>
    rw [act] at hact
    split_ifs at hact
    obtain rfl := Option.some.inj hact
    rcases r with n | - | -
    · rcases List.mem_append.mp hasking with hold | hnew
      · exact Or.inl (List.mem_of_mem_erase hold)
      · exact absurd (List.mem_singleton.mp hnew) (by simp)
    · exact Or.inl (List.mem_of_mem_erase hasking)
    · exact Or.inl (List.mem_of_mem_erase hasking)
  case getRoomReply =>
    rw [act] at hact
    split_ifs at hact
    obtain rfl := Option.some.inj hact
    rw [pending_answerGetRoom] at hasking
    exact Or.inl (List.mem_of_mem_erase hasking)
  case postRoomUserReply =>
    obtain ⟨-, rfl⟩ := step_postRoomUserReply h
    rw [pending_answerPostRoomUser] at hasking
    exact Or.inl (List.mem_of_mem_erase hasking)

/-- **Who asks or chats has come through the gate.** -/
structure Admitted (s : Navigation) : Prop where
  asking : ∀ {vc roomPk userPk}, .postRoomUser vc roomPk userPk ∈ s.pending →
    vc.joinButtonEnabled = true
  chatting : ∀ {vc tab}, .joinChatting (.select vc) ∈ s.ui.stack tab → vc.joinButtonEnabled = true

theorem admitted_signedIn : Admitted signedIn where
  asking h := absurd h List.not_mem_nil
  chatting h := absurd h Stack.notMem_empty

theorem admitted_step (s : Navigation) (a : NavigationAction) (t : Navigation) (hs : Admitted s)
    (h : s.step z myPk a = some t) : Admitted t := by
  refine ⟨fun hasking => ?_, fun hchatting => ?_⟩
  · rcases asking_of_step h hasking with hold | henabled
    · exact hs.asking hold
    · exact henabled
  · rcases step_cases h with ⟨vc', r, hjoins, rfl⟩ | ⟨form, data, r, -, rfl⟩ | ⟨-, -, hmove⟩
    · rcases mem_of_joined hchatting with hold | heq
      · exact hs.chatting hold
      · obtain rfl := Chatting.select.inj (Controller.joinChatting.inj heq)
        obtain ⟨roomPk, userPk, hpending⟩ := asking_of_joins h hjoins
        exact hs.asking hpending
    · exact hs.chatting (mem_of_completed hchatting)
    · exact hs.chatting (chat_of_move hmove hchatting)

theorem not_reaches_signedIn (vc : SelectJoinGame) : ¬Reaches signedIn vc := by
  rintro (hseen | hchatting | hasking)
  · exact Stack.notMem_empty hseen
  · exact Stack.notMem_empty hchatting
  · exact List.not_mem_nil hasking

/-- **Who comes into a chat from the home list was in time.** On a device whose clock is in
the common era, in every state of every run: if a request to join is under way, or the chat of
a Select screen is on a stack, then the row of that room was tapped before, on a home list that
had the room, and the start of the room was still ahead. -/
theorem joined_before_start {o : ℤ} {as : List NavigationAction}
    (hera : ∀ row now, .tap (.homeRow row now) ∈ as → InCommonEra (TimeZone.fixed o) now)
    (hr : run (step (TimeZone.fixed o) myPk) signedIn as = some s)
    (hvc : (∃ roomPk userPk, .postRoomUser vc roomPk userPk ∈ s.pending) ∨
      ∃ tab, .joinChatting (.select vc) ∈ s.ui.stack tab) :
    ∃ pre row now u start, pre ++ [.tap (.homeRow row now)] <+: as ∧
      run (step (TimeZone.fixed o) myPk) signedIn pre = some u ∧
      u.gameList[row]? = some vc.roomInfo ∧ vc.joinJangPk = vc.roomInfo.leaderPk ∧
      readStartDate (TimeZone.fixed o) vc.roomInfo.startDate = some start ∧ now < start := by
  have hadmitted : Admitted s := run_invariant admitted_step admitted_signedIn hr
  obtain ⟨hreaches, henabled⟩ : Reaches s vc ∧ vc.joinButtonEnabled = true := by
    rcases hvc with ⟨roomPk, userPk, hasking⟩ | ⟨tab, hchatting⟩
    · exact ⟨.asking hasking, hadmitted.asking hasking⟩
    · exact ⟨.chatting hchatting, hadmitted.chatting hchatting⟩
  rcases exists_origin reaches_step hr hreaches with hstart | ⟨pre, a, u, hpre, hu, hopens⟩
  · exact absurd hstart (not_reaches_signedIn vc)
  · obtain ⟨row, now, label, rfl, hroom, hlabel, hleader, hbutton⟩ := hopens
    obtain ⟨start, hread, hstart⟩ := start_of_label
      (hera row now (hpre.subset (by simp))) hlabel (by simpa [hbutton] using henabled)
    exact ⟨pre, row, now, u, start, hpre, hu, hroom, hleader, hread, hstart⟩

/-- Mina's room is joined in time. -/
theorem tapToJoin_inTime : ∃ s, run (step (TimeZone.fixed 32400) 1) signedIn tapToJoin = some s ∧
    ∃ pre row now u start, pre ++ [.tap (.homeRow row now)] <+: tapToJoin ∧
      run (step (TimeZone.fixed 32400) 1) signedIn pre = some u ∧
      u.gameList[row]? = some openRoom ∧ openSelect.joinJangPk = openRoom.leaderPk ∧
      readStartDate (TimeZone.fixed 32400) openRoom.startDate = some start ∧ now < start := by
  have hr : run (step (TimeZone.fixed 32400) 1) signedIn tapToJoin = some _ := rfl
  refine ⟨_, hr, @joined_before_start _ _ openSelect 32400 _ (fun row now hmem => ?_) hr
    (Or.inl ⟨7, 1, by decide⟩)⟩
  obtain ⟨rfl, rfl⟩ : row = 0 ∧ now = 0 := by simpa [tapToJoin] using hmem
  decide

end Navigation

end Joinus
