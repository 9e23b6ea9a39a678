import Joinus.Base.Run
import Joinus.Room

/-!
# My Matching

The screen has two tabs, the rooms the user takes part in and the rooms the user has
made, and one list, `matchingList`. A tap on a tab highlights it at once and sends
the request for its rooms; the list changes when a reply arrives, whichever request
it answers and whichever tab is highlighted by then. The first request is sent by
`viewDidLoad`, and only its success puts tabs and table on the screen.

A tap on a row opens the chat of the row's room, with the controls of its leader –
`isJoinjang` – if the *made* tab is highlighted. So the room is taken from the list
and the permission from the tab, and the two need not belong together.

Of the server it is assumed that `getMakeRoom` is answered with rooms of the user
only: an action that has it answered otherwise is not offered. Making the cells is not
part of the steps; one whose room has a start date that cannot be read ends the app, in
the forced unwrap of `calculateStartTime`.
-/

namespace Joinus

open Base

/-! ### The screen -/

/-- The two loaders of `matchingList`. -/
inductive MatchingLoader where
  | getJoinRoom
  | getMakeRoom
  deriving DecidableEq

/-- The places that call a loader, each with a completion of its own. -/
inductive MatchingCall where
  /-- `viewDidLoad`. -/
  | viewDidLoad
  /-- `didTapJoinedMatchingButton`. -/
  | joinedButton
  /-- `didTapMadeMatchingButton`. -/
  | madeButton
  deriving DecidableEq

/-- The loader that a place calls. -/
def MatchingCall.loader : MatchingCall → MatchingLoader
  | .viewDidLoad => .getJoinRoom
  | .joinedButton => .getJoinRoom
  | .madeButton => .getMakeRoom

/-- A chat as `didSelectRowAt` opens it. -/
structure OpenedChat where
  roomInfo : GetRoomInfo
  isJoinjang : Bool
  deriving DecidableEq

/-- The screen: the selection of the two buttons, whether `setupView` has put the
views on screen, which of them are hidden, the list, the requests not yet answered,
the chat pushed onto the screen. `loadedBy` is the loader whose reply the list is,
once there is one; nothing reads it. -/
structure MatchingScreen where
  joinedMatchingButton : Bool
  madeMatchingButton : Bool
  isSetUp : Bool
  tableHidden : Bool
  noCountJoinedHidden : Bool
  noCountMadeHidden : Bool
  matchingList : List GetRoomInfo
  loadedBy : Option MatchingLoader
  pending : List MatchingCall
  chat : Option OpenedChat

/-- The screen after `viewDidLoad`. -/
def MatchingScreen.loaded : MatchingScreen where
  joinedMatchingButton := true
  madeMatchingButton := false
  isSetUp := false
  tableHidden := false
  noCountJoinedHidden := true
  noCountMadeHidden := true
  matchingList := []
  loadedBy := none
  pending := [.viewDidLoad]
  chat := none

inductive MatchingAction where
  | tapJoined
  | tapMade
  /-- A request is answered. -/
  | reply (i : ℕ) (r : Reply (List GetRoomInfo))
  /-- A tap on a row. -/
  | selectRow (row : ℕ)
  /-- The back button of the chat. -/
  | leaveChat

namespace MatchingScreen

/-- `buttonsStatus`. -/
def buttonsStatus (s : MatchingScreen) : MatchingLoader → MatchingScreen
  | .getJoinRoom => { s with joinedMatchingButton := true, madeMatchingButton := false }
  | .getMakeRoom => { s with joinedMatchingButton := false, madeMatchingButton := true }

/-- The views of an empty list are the picture of a loader, those of any other list
the table. -/
def showList (s : MatchingScreen) (empty : MatchingLoader) : MatchingScreen :=
  if s.matchingList.isEmpty then
    { s with
      tableHidden := true
      noCountJoinedHidden := empty ≠ .getJoinRoom
      noCountMadeHidden := empty ≠ .getMakeRoom }
  else { s with tableHidden := false, noCountJoinedHidden := true, noCountMadeHidden := true }

/-- `setupView`, which leaves the views of a list with rooms as they are. -/
def setupView (s : MatchingScreen) : MatchingScreen :=
  if s.matchingList.isEmpty then
    { s with
      isSetUp := true
      tableHidden := true
      noCountJoinedHidden := false
      noCountMadeHidden := true }
  else { s with isSetUp := true }

/-- The completions of the three calls. -/
def complete (s : MatchingScreen) : MatchingCall → MatchingScreen
  | .viewDidLoad => s.setupView
  | .joinedButton => s.showList .getJoinRoom
  | .madeButton => s.showList .getMakeRoom

/-- A loader's reply: a list that decodes is stored and the completion runs, and
nothing else changes anything. -/
def answer (s : MatchingScreen) (c : MatchingCall) : Reply (List GetRoomInfo) → MatchingScreen
  | .decoded data =>
    ({ s with matchingList := data, loadedBy := some c.loader } : MatchingScreen).complete c
  | .undecodable => s
  | .failure => s

/-- The table is on screen, and its rows can be tapped. -/
def TableShown (s : MatchingScreen) : Prop :=
  s.isSetUp = true ∧ s.tableHidden = false ∧ s.chat = none

instance (s : MatchingScreen) : Decidable s.TableShown :=
  inferInstanceAs (Decidable (_ ∧ _ ∧ _))

/-- `didSelectRowAt`: the chat that a tap on a row opens. -/
def didSelectRowAt (s : MatchingScreen) (row : ℕ) : Option OpenedChat :=
  if s.TableShown then
    s.matchingList[row]?.map fun roomInfo => ⟨roomInfo, s.madeMatchingButton⟩
  else none

/-- The server answers `getMakeRoom` with rooms of the user only. -/
def Served (myPk : ℤ) (c : MatchingCall) : Reply (List GetRoomInfo) → Prop
  | .decoded data => c.loader = .getMakeRoom → ∀ room ∈ data, room.leaderPk = myPk
  | .undecodable => True
  | .failure => True

instance (myPk : ℤ) (c : MatchingCall) : ∀ r, Decidable (Served myPk c r)
  | .decoded data =>
    inferInstanceAs (Decidable (c.loader = .getMakeRoom → ∀ room ∈ data, room.leaderPk = myPk))
  | .undecodable => isTrue trivial
  | .failure => isTrue trivial

/-- A tap on one of the two tab buttons. -/
def tapTab (s : MatchingScreen) (c : MatchingCall) : Option MatchingScreen :=
  if s.isSetUp ∧ s.chat = none then
    some { s.buttonsStatus c.loader with pending := s.pending ++ [c] }
  else none

def step (myPk : ℤ) (s : MatchingScreen) : MatchingAction → Option MatchingScreen
  | .tapJoined => s.tapTab .joinedButton
  | .tapMade => s.tapTab .madeButton
  | .reply i r =>
    match s.pending[i]? with
    | none => none
    | some c =>
      if Served myPk c r then
        some (({ s with pending := s.pending.eraseIdx i } : MatchingScreen).answer c r)
      else none
  | .selectRow row =>
    match s.didSelectRowAt row with
    | none => none
    | some chat => some { s with chat := some chat }
  | .leaveChat =>
    match s.chat with
    | none => none
    | some _ => some { s with chat := none }

/-! ### What the list is, and who leads its rooms -/

@[simp] theorem matchingList_buttonsStatus (s : MatchingScreen) (l : MatchingLoader) :
    (s.buttonsStatus l).matchingList = s.matchingList := by
  cases l <;> rfl

@[simp] theorem loadedBy_buttonsStatus (s : MatchingScreen) (l : MatchingLoader) :
    (s.buttonsStatus l).loadedBy = s.loadedBy := by
  cases l <;> rfl

/-- A completion shows and hides views, and leaves the list alone. -/
theorem matchingList_complete (s : MatchingScreen) (c : MatchingCall) :
    (s.complete c).matchingList = s.matchingList ∧ (s.complete c).loadedBy = s.loadedBy := by
  cases c <;> simp only [complete, setupView, showList] <;> split_ifs <;> exact ⟨rfl, rfl⟩

/-- **The invariant**: a list loaded by `getMakeRoom` has rooms of the user only. -/
def MadeByUser (myPk : ℤ) (s : MatchingScreen) : Prop :=
  s.loadedBy = some .getMakeRoom → ∀ room ∈ s.matchingList, room.leaderPk = myPk

theorem madeByUser_step {myPk : ℤ} (s : MatchingScreen) (a : MatchingAction) (t : MatchingScreen)
    (hs : s.MadeByUser myPk) (h : s.step myPk a = some t) : t.MadeByUser myPk := by
  have htab : ∀ c, s.tapTab c = some t → t.MadeByUser myPk := by
    intro c hc
    rw [tapTab] at hc
    split_ifs at hc
    obtain rfl := Option.some.inj hc
    -- the tab changes, the list does not: this is what parts the two
    simpa only [MadeByUser, matchingList_buttonsStatus, loadedBy_buttonsStatus] using hs
  cases a with
  | tapJoined => exact htab _ h
  | tapMade => exact htab _ h
  | reply i r =>
    rw [step] at h
    cases hi : s.pending[i]? with
    | none => simp [hi] at h
    | some c =>
      simp only [hi] at h
      split_ifs at h with hserved
      obtain rfl := Option.some.inj h
      cases r with
      | decoded data =>
        intro hby room hroom
        rw [answer, (matchingList_complete _ c).2, Option.some.injEq] at hby
        rw [answer, (matchingList_complete _ c).1] at hroom
        exact hserved hby room hroom
      | undecodable => exact hs
      | failure => exact hs
  | selectRow row =>
    rw [step] at h
    split at h
    · exact absurd h nofun
    · obtain rfl := Option.some.inj h
      exact hs
  | leaveChat =>
    rw [step] at h
    split at h
    · exact absurd h nofun
    · obtain rfl := Option.some.inj h
      exact hs

/-! ### The controls of the leader -/

/-- **Leader controls go to the leader**: a step that opens a chat with
`isJoinjang` opens it on a room of the user. -/
def LeaderOnly (myPk : ℤ) (s : MatchingScreen) : MatchingAction → Prop
  | .selectRow row =>
    ∀ chat ∈ s.didSelectRowAt row, chat.isJoinjang = true → chat.roomInfo.leaderPk = myPk
  | _ => True

/-- **Tab and list belong together as far as it matters**: a row tapped while the
made tab is highlighted, in a list that is not the reply of `getMakeRoom`, is a room
the user leads all the same. -/
def TabMatchesList (myPk : ℤ) (s : MatchingScreen) : MatchingAction → Prop
  | .selectRow row =>
    s.TableShown → s.madeMatchingButton = true → s.loadedBy ≠ some .getMakeRoom →
      ∀ room ∈ s.matchingList[row]?, room.leaderPk = myPk
  | _ => True

instance (myPk : ℤ) (s : MatchingScreen) : ∀ a, Decidable (LeaderOnly myPk s a)
  | .selectRow row => inferInstanceAs (Decidable (∀ chat ∈ s.didSelectRowAt row, _))
  | .tapJoined => isTrue trivial
  | .tapMade => isTrue trivial
  | .reply _ _ => isTrue trivial
  | .leaveChat => isTrue trivial

instance (myPk : ℤ) (s : MatchingScreen) : ∀ a, Decidable (TabMatchesList myPk s a)
  | .selectRow row => inferInstanceAs (Decidable (_ → _ → _ → ∀ room ∈ s.matchingList[row]?, _))
  | .tapJoined => isTrue trivial
  | .tapMade => isTrue trivial
  | .reply _ _ => isTrue trivial
  | .leaveChat => isTrue trivial

theorem leaderOnly_iff {myPk : ℤ} {s : MatchingScreen} (hs : s.MadeByUser myPk)
    (a : MatchingAction) : LeaderOnly myPk s a ↔ TabMatchesList myPk s a := by
  cases a with
  | selectRow row =>
    rw [LeaderOnly, TabMatchesList, didSelectRowAt]
    constructor
    · intro h hshown hmade _ room hroom
      rw [if_pos hshown] at h
      exact h ⟨room, s.madeMatchingButton⟩ (Option.map_eq_some_iff.mpr ⟨room, hroom, rfl⟩) hmade
    · intro h chat hopen hmade
      split_ifs at hopen with hshown
      · obtain ⟨room, hroom, rfl⟩ := Option.map_eq_some_iff.mp hopen
        -- a list of the right loader is the server's business, any other the user's
        by_cases hby : s.loadedBy = some .getMakeRoom
        · exact hs hby room (List.mem_of_getElem? hroom)
        · exact h hshown hmade hby room hroom
      · exact absurd hopen nofun
  | tapJoined => exact Iff.rfl
  | tapMade => exact Iff.rfl
  | reply i r => exact Iff.rfl
  | leaveChat => exact Iff.rfl

/-- **When leader controls go to the leader only**: over a whole run – taps on the
tabs and on rows, replies in any order – exactly when every room opened from another
loader's list, while the made tab is highlighted, is the user's own. -/
theorem leader_controls_iff {myPk : ℤ} {as : List MatchingAction} {t : MatchingScreen}
    (hr : run (step myPk) loaded as = some t) :
    Along (step myPk) (LeaderOnly myPk) loaded as ↔
      Along (step myPk) (TabMatchesList myPk) loaded as :=
  along_congr madeByUser_step (fun _ a _ hs _ => leaderOnly_iff hs a) (fun h => nomatch h) hr

/-- A room led by user `2`. -/
def someoneElsesRoom : GetRoomInfo :=
  ⟨7, "room", "league of legends", 4, "2021-10-01 20-00-00", "2021-09-30 10-00-00", false, 0, 7, 0,
    1, 2, 10, []⟩

/-- User `1` taps the made tab and, before its reply is there, the first row. -/
def tapBeforeReply : List MatchingAction :=
  [.reply 0 (.decoded [someoneElsesRoom]), .tapMade, .selectRow 0]

/-- **The controls of the leader in someone else's room.** -/
theorem tapBeforeReply_gives_controls :
    (run (step 1) loaded tapBeforeReply).isSome ∧
      ¬Along (step 1) (LeaderOnly 1) loaded tapBeforeReply := by
  decide

/-- User `1` waits for the reply. -/
def tapAfterReply : List MatchingAction :=
  [.reply 0 (.decoded [someoneElsesRoom]), .tapMade,
    .reply 0 (.decoded [{ someoneElsesRoom with leaderPk := 1 }]), .selectRow 0]

/-- Once the reply is there, the first row is a room of the user. -/
theorem tapAfterReply_keeps_controls :
    Along (step 1) (LeaderOnly 1) loaded tapAfterReply :=
  (leader_controls_iff rfl).mpr (by decide)

end MatchingScreen

end Joinus
