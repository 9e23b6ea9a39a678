import Joinus.Navigation.Joining

/-!
# What ends the app

The handlers of the screens inside the tab bar unwrap optionals, take the first of the
texts of a tier range, divide once, and push controllers that may be on the stack already.
Most of these cannot go wrong in any run, some because of a line just above them and some
because of what has to have been tapped before:

| where | what could go wrong | |
|---|---|---|
| a row of the home list | its start date is not read | **ends the app** |
| `viewDidLoad` of a Select screen | the manner is divided by no users | **ends the app** |
| … | the tier range of its room has no text | it has one (`Joinus.selectTierRange_ne_nil`) |
| … | its start date is not read | it has been read for the row |
| `viewDidLoad` of a chat | it has no room | the room is set before every push |
| the reply `1` to a request to join | the chat is on the stack | **ends the app** |
| the round button, a row of My Matching | the controller is on the stack | it has just been made |
| a row of the own page | the controller is on the stack | its tab is at the root |
| the tier screen of a form | it is on the stack | the form is on top |

The three lines that can are written down as `Joinus.Navigation.danger`, the exception an
action leads to in a state; that the others cannot is
`Joinus.Navigation.app_ends_exactly_when`: in every run, every step raises exactly the
exception it is said to raise there, and the app runs on exactly while there is none. What
the rows of the lists read when they are shown is another matter (`Joinus.Rooms.Start`), and
so are the pictures in them (`Joinus.Chat.Row`).
-/

namespace Joinus

open Base

namespace Navigation

variable {z : TimeZone} {myPk : ℤ} {s t : Navigation} {tab : Tab} {screen : Controller}

/-- **The exception an action leads to**, if it leads to any: for a row of the home list a
start date that is not read, or else a room without users; for the reply `1` to a request to
join a chat that is what is seen. -/
def danger (z : TimeZone) (s : Navigation) : NavigationAction → Option Trap
  | .tap (.homeRow row now) =>
    match s.gameList[row]? with
    | none => none
    | some room =>
      if calculateStartTime z now room.startDate = none then some .unwrappedNil
      else if room.userList = [] then some .divisionByZero
      else none
  | .postRoomUserReply vc _ _ (.decoded res) =>
    if res = 1 ∧ s.ui.topScreen = some (.joinChatting (.select vc)) then
      some (.pushedTwice (.joinChatting (.select vc)))
    else none
  | _ => none

/-! ### Views that are loaded -/

/-- A start date that has been read for the row of a room is read again for its Select
screen. -/
theorem strDateToString_of_calculateStartTime {now : Instant} {time label : String}
    (h : calculateStartTime z now time = some label) : strDateToString z time ≠ none := by
  rw [calculateStartTime] at h
  obtain ⟨currentDay, -, h⟩ := Option.bind_eq_some_iff.mp h
  obtain ⟨startDate, -, h⟩ := Option.bind_eq_some_iff.mp h
  obtain ⟨startDay, hday, -⟩ := Option.bind_eq_some_iff.mp h
  rw [strDateToString, String.toDate, hday]
  simp

theorem trap_loadSelect {vc : SelectJoinGame} (hs : s.trap = none)
    (hdate : strDateToString z vc.roomInfo.startDate ≠ none) :
    (s.loadSelect z vc).trap =
      if vc.roomInfo.userList = [] then some .divisionByZero else none := by
  rw [loadSelect]
  dsimp only
  split_ifs with hlength hnil hnil
  · rfl
  · exact absurd (List.length_eq_zero_iff.mp hlength) hnil
  · exact absurd (List.length_eq_zero_iff.mpr hnil) hlength
  · split
    · next hread => exact absurd hread hdate
    · exact hs

/-- The views of the other screens are loaded without exception, that of a chat if it has
its room. -/
theorem trap_viewDidLoad (hs : s.trap = none) (hselect : ∀ vc, screen ≠ .selectJoinGame vc)
    (hroom : ∀ chat, screen = .joinChatting chat → (s.chats chat).roomInfo ≠ none) :
    (s.viewDidLoad z screen).trap = none := by
  cases screen with
  | selectJoinGame vc => exact absurd rfl (hselect vc)
  | joinChatting chat =>
    obtain ⟨room, hsome⟩ := Option.ne_none_iff_exists'.mp (hroom chat rfl)
    rw [viewDidLoad]
    split_ifs
    · exact hs
    · rw [loadChat, hsome]
      exact hs
  | myProfileEdit =>
    rw [viewDidLoad]
    split_ifs
    · exact hs
    · exact hs
  | makeMatching | selectTier | myFriend | myBlackList | plain => exact hs

/-- **A push without exception**: of a screen that is not on the stack, and is no Select
screen, and has its room if it is a chat. -/
theorem trap_push (hs : s.trap = none) (hnot : screen ∉ s.ui.stack tab)
    (hselect : ∀ vc, screen ≠ .selectJoinGame vc)
    (hroom : ∀ chat, screen = .joinChatting chat → (s.chats chat).roomInfo ≠ none) :
    (s.pushViewController z tab screen).trap = none := by
  obtain ⟨screens, -, hpush⟩ := pushViewController_of_notMem (z := z) hnot
  rw [hpush]
  exact trap_viewDidLoad hs hselect hroom

/-! ### The three places -/

/-- **A row of the home list** is where the two exceptions of a Select screen come
from. -/
theorem trap_homeRow (hs : s.trap = none) (hroot : s.ui.AtRoot .game) {row : ℕ}
    {room : GetRoomInfo} {now : Instant} (hroom : s.gameList[row]? = some room) :
    (s.didSelectHomeRow z now room).trap = s.danger z (.tap (.homeRow row now)) := by
  rw [didSelectHomeRow, danger, hroom]
  dsimp only
  split
  · next hunread => rw [if_pos hunread]
  · next label hread =>
    rw [if_neg (by simp [hread])]
    obtain ⟨screens, -, hpush⟩ := @pushViewController_of_notMem z
      { s with created := s.created + 1 } .game _ (notMem_of_atRoot hroot)
    rw [hpush]
    exact trap_loadSelect hs (strDateToString_of_calculateStartTime hread)

/-- **The reply `1`** pushes the chat over its Select screen, and the chat has been given
its room. -/
theorem trap_joined (hlaid : s.ui.Laid) (hs : s.trap = none) (r : Request)
    (vc : SelectJoinGame) :
    ((s.answered r).answerPostRoomUser z vc (.decoded 1)).trap =
      if s.ui.topScreen = some (.joinChatting (.select vc)) then
        some (.pushedTwice (.joinChatting (.select vc)))
      else none := by
  have hseen : s.ui.topScreen = some (.joinChatting (.select vc)) ↔ _ := chat_seen_iff hlaid
  rw [answerPostRoomUser, if_pos rfl]
  split_ifs with hmem hchat hchat
  · exact congrArg Navigation.trap
      (pushViewController_of_mem (s := (s.answered r).setRoomInfo vc) (hseen.mp hchat).2)
  · refine trap_push (s := (s.answered r).setRoomInfo vc) hs ?_ (by simp) ?_
    · exact fun hstack => hchat (hseen.mpr ⟨hmem, hstack⟩)
    · rintro chat heq
      obtain rfl : .select vc = chat := by simpa using heq
      rw [roomInfo_setRoomInfo]
      simp
  · exact absurd (hseen.mp hchat).1 hmem
  · exact hs

/-! ### Every other step -/

theorem danger_of_not_tapsRow {a : NavigationAction} (htaps : a.tapsRow = false)
    (hjoins : a.joins = none) : s.danger z a = none := by
  cases a with
  | tap a =>
    cases a with
    | homeRow row now => exact absurd htaps (by simp [NavigationAction.tapsRow])
    | _ => rfl
  | postRoomUserReply vc roomPk userPk r =>
    cases r with
    | decoded res =>
      refine if_neg fun h => ?_
      rw [h.1] at hjoins
      exact absurd hjoins (by simp [NavigationAction.joins])
    | undecodable => rfl
    | failure => rfl
  | okButton | gameList | matchingList | postRoomReply | getRoomReply => rfl

theorem danger_of_joins {a : NavigationAction} {vc : SelectJoinGame} (h : a.joins = some vc) :
    s.danger z a =
      if s.ui.topScreen = some (.joinChatting (.select vc)) then
        some (.pushedTwice (.joinChatting (.select vc)))
      else none := by
  cases a with
  | postRoomUserReply vc' roomPk userPk r =>
    cases r with
    | decoded res =>
      rw [NavigationAction.joins] at h
      split_ifs at h with hres
      obtain rfl := Option.some.inj h
      rw [danger, hres]
      simp
    | undecodable => exact absurd h (by simp [NavigationAction.joins])
    | failure => exact absurd h (by simp [NavigationAction.joins])
  | _ => exact absurd h (by simp [NavigationAction.joins])

/-- A move raises the exception it leads to. -/
theorem trap_move {a : NavigationAction} (hlaid : s.ui.Laid) (hs : s.trap = none)
    (hjoins : a.joins = none) (h : Move z s a t) : t.trap = s.danger z a := by
  cases h with
  | still htaps hsame => rw [hsame.trap, hs, danger_of_not_tapsRow htaps hjoins]
  | tabItem tab hbar => exact (leaveFrame_didSelectTab s tab).trap.trans hs
  | left htop hleft => exact (leaveFrame_leftButton htop hleft).trap.trans hs
  | createMatchingRoom hroot =>
    exact trap_push (s := { s with created := s.created + 1 }) hs (notMem_of_atRoot hroot)
      (by simp) (by simp)
  | homeRow now hroot hroom => exact trap_homeRow hs hroot hroom
  | @changeTierRange form htop =>
    obtain ⟨-, helems⟩ := hlaid.form_top htop
    refine trap_push hs ?_ (by simp) (by simp)
    rw [Stack.mem_iff_of_elems helems]
    simp
  | matchingRow hroot _ =>
    -- the chat has got its room in the handler
    refine trap_push hs (notMem_of_atRoot hroot) (by simp) ?_
    rintro chat heq
    obtain rfl : _ = chat := by simpa using heq
    simp
  | editProfile hroot => exact trap_push hs (notMem_of_atRoot hroot) (by simp) (by simp)
  | administrateRow row hroot =>
    refine trap_push (s := { s with created := s.created + 1 }) hs (notMem_of_atRoot hroot) ?_ ?_
    · intro vc
      rw [administrateScreen]
      split_ifs <;> simp
    · intro chat
      rw [administrateScreen]
      split_ifs <;> simp

/-- **Every step of a running app raises the exception it leads to.** -/
theorem trap_step {a : NavigationAction} (hlaid : s.ui.Laid) (h : s.step z myPk a = some t) :
    t.trap = s.danger z a := by
  have hs := (act_of_step h).1
  rcases step_cases h with ⟨vc, r, hjoins, rfl⟩ | ⟨form, data, r, hcompletes, rfl⟩ |
    ⟨hjoins, -, hmove⟩
  · rw [danger_of_joins hjoins]
    exact trap_joined hlaid hs r vc
  · have hpop := (sameScreens_completed s r form data).trap
    rw [(leaveFrame_popForm s form).trap, hs] at hpop
    rw [hpop, danger_of_not_tapsRow _ (NavigationAction.joins_of_completes hcompletes)]
    cases a with
    | getRoomReply => rfl
    | _ => exact absurd hcompletes (by simp [NavigationAction.completes])
  · exact trap_move hlaid hs hjoins hmove

/-! ### Runs -/

/-- **The app ends exactly at a row of the home list whose start date is not read or whose
room has no users, and at a reply `1` for the chat that is seen.** In every run, the app
runs on throughout exactly if no step leads to an exception; and whatever step comes next,
it raises the exception it leads to and no other. -/
theorem app_ends_exactly_when {as : List NavigationAction}
    (hr : run (step z myPk) signedIn as = some s) :
    (Throughout (step z myPk) (fun s => s.trap = none) signedIn as ↔
      Along (step z myPk) (fun s a => s.danger z a = none) signedIn as) ∧
    ∀ a t, s.step z myPk a = some t → t.trap = s.danger z a := by
  constructor
  · refine throughout_iff_along (I := fun s => s.trap = none → s.ui.Laid) laid_step ?_
      (fun _ => TabBarController.laid_initial) rfl hr
    intro s a t hlaid hs h
    rw [trap_step (hlaid hs) h]
  · intro a t h
    have hlaid := run_invariant laid_step (fun _ => TabBarController.laid_initial) hr
    exact trap_step (hlaid (act_of_step h).1) h

/-- A room that everybody has left. -/
def desertedRoom : GetRoomInfo := { openRoom with userList := [] }

/-- Its row is shown like any other, and ends the app when it is tapped. -/
theorem desertedRoom_divides : ∃ s t,
    run (step (TimeZone.fixed 32400) 1) signedIn [.gameList [desertedRoom]] = some s ∧
      s.trap = none ∧ s.step (TimeZone.fixed 32400) 1 (.tap (.homeRow 0 0)) = some t ∧
      t.trap = some .divisionByZero := by
  have hr : run (step (TimeZone.fixed 32400) 1) signedIn [.gameList [desertedRoom]] = some _ := rfl
  refine ⟨_, _, hr, rfl, rfl, ?_⟩
  exact ((app_ends_exactly_when hr).2 (.tap (.homeRow 0 0)) _ rfl).trans (by decide)

end Navigation

end Joinus
