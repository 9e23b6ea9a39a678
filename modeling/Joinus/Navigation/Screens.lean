import Joinus.Base.Run
import Joinus.Base.Stack
import Joinus.Making.Form
import Joinus.Room

/-!
# The screens inside the tab bar

After the sign-in the app is a tab bar with three navigation stacks, whose roots are the
home list, My Matching and the user's own page. Everything else is pushed over one of the
roots, and the tab bar is hidden and shown by hand:

| screen | pushed from | the tab bar when it is shown | when it is left |
|---|---|---|---|
| form for a new room | home list | hidden by `viewDidLoad` | shown by the close button |
| tier screen | the form | – | – |
| Select screen | home list | hidden by `viewDidLoad` | shown by the back button |
| chat | Select screen | – | – |
| chat | My Matching | hidden before the push | shown by `viewWillAppear` of the root |
| friends, blacklist | own page | hidden by `viewDidLoad` | shown by the back button |
| profile edit | own page | hidden by `viewDidLoad` | shown by the back button |

`viewDidLoad` runs once for each controller. Most controllers are made for one push; but
the profile edit screen is made once for all, the tier screen once for a form, and the
chat of a Select screen once for that screen, however often its join button is tapped.

What arrives later is a list of rooms, or the reply to a request. A reply finds the
screen that has sent the request wherever it is by then – on top, covered, or left. A
controller that has been left has no navigation controller, and what it pushes or pops
goes nowhere; the handler of a left button, which pops its own controller, still reaches
the tab bar after that.

The user reaches what is seen: the buttons of the top screen of the selected tab, and
the items of the tab bar while it is not hidden, unless an alert lies over everything.
The item of the selected tab takes its stack back to the root. An exception – UIKit's, when
a controller is pushed that is on the stack already, or a trap of the language – is kept
in the state, and nothing happens after it.
-/

namespace Joinus

open Base

/-! ### Controllers -/

/-- A `SelectJoinGameViewController`: the rooms it was made with, and a number that tells
it from others made with the same. What it shows does not change. -/
structure SelectJoinGame where
  number : ℕ
  roomInfo : GetRoomInfo
  joinJangPk : ℤ
  joinButtonEnabled : Bool
  deriving DecidableEq

/-- Where a `JoinChattingViewController` comes from, which is what it is told by: the one
that `didTapJoinButton` makes for a Select screen, or one made for a row of My
Matching. -/
inductive Chatting where
  | select (vc : SelectJoinGame)
  | row (number : ℕ)
  deriving DecidableEq

/-- What changes in a `JoinChattingViewController`. The listener is given by the room
whose messages it gets, the button in the middle of the header by its image. -/
structure JoinChatting where
  roomInfo : Option GetRoomInfo
  isJoinjang : Bool
  viewLoaded : Bool
  listener : Option ℤ
  centerButtonItem : Option String
  deriving DecidableEq

/-- A chat that has just been made. -/
def JoinChatting.made : JoinChatting := ⟨none, false, false, none, none⟩

/-- What can lie on a navigation stack over its root. Controllers made for one push have
a number of their own; a tier screen has that of its form. -/
inductive Controller where
  | makeMatching (form : ℕ)
  | selectTier (form : ℕ)
  | selectJoinGame (vc : SelectJoinGame)
  | joinChatting (chat : Chatting)
  | myFriend (number : ℕ)
  | myBlackList (number : ℕ)
  | myProfileEdit
  /-- The `UIViewController` that the last row of the own page pushes. -/
  | plain (number : ℕ)
  deriving DecidableEq

/-- The tabs. -/
inductive Tab where
  | game
  | myMatching
  | myInfo
  deriving DecidableEq

/-- The tab bar controller: its navigation stacks over their roots, the selected tab, and
`tabBar.isHidden`. -/
structure TabBarController where
  stack : Tab → Stack Controller
  selected : Tab
  tabBarHidden : Bool

namespace TabBarController

/-- `SetTabbarController.settingRootViewController`. -/
def initial : TabBarController := ⟨fun _ => .empty, .game, false⟩

/-- The top screen of the selected tab, unless it is the root. -/
def topScreen (ui : TabBarController) : Option Controller := (ui.stack ui.selected).top

/-- The root of a tab is on screen. -/
def AtRoot (ui : TabBarController) (tab : Tab) : Prop :=
  ui.selected = tab ∧ (ui.stack tab).top = none

instance (ui : TabBarController) (tab : Tab) : Decidable (ui.AtRoot tab) :=
  inferInstanceAs (Decidable (_ ∧ _))

def setStack (ui : TabBarController) (tab : Tab) (screens : Stack Controller) : TabBarController :=
  { ui with stack := Function.update ui.stack tab screens }

def setHidden (ui : TabBarController) (hidden : Bool) : TabBarController :=
  { ui with tabBarHidden := hidden }

/-- `viewWillAppear` of what is seen of a tab: the root of My Matching shows the tab
bar. -/
def viewWillAppear (ui : TabBarController) (tab : Tab) : TabBarController :=
  ui.setHidden
    (if tab = .myMatching ∧ (ui.stack tab).top = none then false else ui.tabBarHidden)

end TabBarController

/-! ### The state -/

/-- A request that has been sent, and whose controller waits for the reply. -/
inductive Request where
  | postRoom (form : ℕ) (room : PostRoom)
  | getRoom (form : ℕ)
  | postRoomUser (vc : SelectJoinGame) (roomPk userPk : ℤ)
  deriving DecidableEq

/-- A `JoinusAlertController`, by its texts. -/
structure JoinusAlert where
  title : String
  explain : String
  deriving DecidableEq

/-- What ends the app. -/
inductive Trap where
  /-- UIKit's exception: the screen that is pushed is on the stack. -/
  | pushedTwice (screen : Controller)
  | divisionByZero
  | unwrappedNil
  deriving DecidableEq

structure Navigation where
  ui : TabBarController
  /-- `HomeListModel` and `MyMatchingModel`. -/
  gameList : List GetRoomInfo
  matchingList : List GetRoomInfo
  madeMatchingButton : Bool
  makeMatchingModel : MakeMatchingModel
  /-- `JoinChattingModel`. -/
  selectedRoomPk : ℤ
  selectedRoomManner : ℤ
  /-- The chats, also those not made yet. -/
  chats : Chatting → JoinChatting
  profileEditLoaded : Bool
  /-- The number of the next controller. -/
  created : ℕ
  alert : Option JoinusAlert
  pending : List Request
  trap : Option Trap

namespace Navigation

/-- The app after the sign-in. -/
def signedIn : Navigation where
  ui := .initial
  gameList := []
  matchingList := []
  madeMatchingButton := false
  makeMatchingModel := .initial
  selectedRoomPk := 0
  selectedRoomManner := 0
  chats := fun _ => .made
  profileEditLoaded := false
  created := 0
  alert := none
  pending := []
  trap := none

/-! ### The life of a controller -/

/-- `SelectJoinGameViewController.viewDidLoad`: the room is noted down, the manner of its
users averaged, the day of its start shown, and the tab bar hidden. -/
def loadSelect (z : TimeZone) (s : Navigation) (vc : SelectJoinGame) : Navigation :=
  let s := { s with selectedRoomPk := vc.roomInfo.roomPk }
  if vc.roomInfo.userList.length = 0 then { s with trap := some .divisionByZero }
  else
    let s :=
      { s with selectedRoomManner := vc.roomInfo.roomManner.tdiv vc.roomInfo.userList.length }
    match strDateToString z vc.roomInfo.startDate with
    | none => { s with trap := some .unwrappedNil }
    | some _ => { s with ui := s.ui.setHidden true }

/-- `JoinChattingViewController.setRoomMannerImage`: the image for a score. -/
def setRoomMannerImage (roomMannerScore : ℤ) : String :=
  if roomMannerScore ≥ -5 then "manner1_24x24"
  else if roomMannerScore < 1 then "manner2_24x24"
  else if roomMannerScore < 6 then "manner3_24x24"
  else if roomMannerScore ≥ 6 then "manner4_24x24"
  else ""

/-- `JoinChattingViewController.viewDidLoad`, which sets the image in the header and ends
with `getMessage`. -/
def loadChat (s : Navigation) (chat : Chatting) : Navigation :=
  match (s.chats chat).roomInfo with
  | none => { s with trap := some .unwrappedNil }
  | some room =>
    { s with
      chats := Function.update s.chats chat
        { s.chats chat with
          viewLoaded := true
          listener := some room.roomPk
          centerButtonItem := some (setRoomMannerImage s.selectedRoomManner) } }

/-- `viewDidLoad`, for a controller whose view has not been loaded. -/
def viewDidLoad (z : TimeZone) (s : Navigation) : Controller → Navigation
  | .makeMatching _ => { s with ui := s.ui.setHidden true }
  | .selectTier _ => s
  | .selectJoinGame vc => s.loadSelect z vc
  | .joinChatting chat => if (s.chats chat).viewLoaded then s else s.loadChat chat
  | .myFriend _ => { s with ui := s.ui.setHidden true }
  | .myBlackList _ => { s with ui := s.ui.setHidden true }
  | .myProfileEdit =>
    if s.profileEditLoaded then s
    else { s with ui := s.ui.setHidden true, profileEditLoaded := true }
  | .plain _ => s

/-- `viewDidDisappear` of what has been on top: a chat removes its listener. -/
def topDidDisappear (s : Navigation) (top : Option Controller) : Navigation :=
  { s with
    chats :=
      match top with
      | some (.joinChatting chat) =>
        Function.update s.chats chat { s.chats chat with listener := none }
      | _ => s.chats }

/-! ### UIKit -/

/-- `pushViewController`. -/
def pushViewController (z : TimeZone) (s : Navigation) (tab : Tab) (screen : Controller) :
    Navigation :=
  match (s.ui.stack tab).push screen with
  | none => { s with trap := some (.pushedTwice screen) }
  | some screens => viewDidLoad z { s with ui := s.ui.setStack tab screens } screen

/-- A tab with another stack, when its top screen has gone. -/
def replaceStack (s : Navigation) (tab : Tab) (screens : Stack Controller) : Navigation :=
  let s' := topDidDisappear { s with ui := s.ui.setStack tab screens } (s.ui.stack tab).top
  { s' with ui := s'.ui.viewWillAppear tab }

/-- `popViewController`. -/
def popViewController (s : Navigation) (tab : Tab) : Navigation :=
  match (s.ui.stack tab).top with
  | none => s
  | some _ => s.replaceStack tab (s.ui.stack tab).pop

/-- An item of the tab bar: that of the selected tab takes it back to its root. -/
def didSelectTab (s : Navigation) (tab : Tab) : Navigation :=
  if tab = s.ui.selected then
    match (s.ui.stack tab).top with
    | none => s
    | some _ => s.replaceStack tab .empty
  else
    let s' := s.topDidDisappear s.ui.topScreen
    { s' with ui := TabBarController.viewWillAppear { s'.ui with selected := tab } tab }

/-- `present`, called by a screen: it needs a view that is seen, and no alert over it. -/
def present (s : Navigation) (screen : Controller) (alert : JoinusAlert) : Navigation :=
  if s.ui.topScreen = some screen ∧ s.alert = none then { s with alert := some alert } else s

/-! ### The handlers -/

/-- `HomeListViewController.didTapMakeMatchingButton`. -/
def didTapMakeMatchingButton (z : TimeZone) (s : Navigation) : Navigation :=
  pushViewController z { s with created := s.created + 1 } .game (.makeMatching s.created)

/-- `HomeListViewController.tableView(_:didSelectRowAt:)`. -/
def didSelectHomeRow (z : TimeZone) (now : Instant) (s : Navigation) (roomInfo : GetRoomInfo) :
    Navigation :=
  match calculateStartTime z now roomInfo.startDate with
  | none => { s with trap := some .unwrappedNil }
  | some startInterval =>
    pushViewController z { s with created := s.created + 1 } .game
      (.selectJoinGame
        { number := s.created
          roomInfo := roomInfo
          joinJangPk := roomInfo.leaderPk
          joinButtonEnabled := startInterval ≠ "매칭 완료" })

/-- The alert of a form that is not complete. -/
def incompleteAlert : JoinusAlert where
  title := "제목을 입력하고 참가조건을 설정해주세요."
  explain := ""

/-- `MakeMatchingViewController.didTapMakeMatchingRoomButton`. -/
def didTapMakeMatchingRoomButton (myPk : ℤ) (s : Navigation) (form : ℕ) : Navigation :=
  match s.makeMatchingModel.confirm myPk with
  | none => s.present (.makeMatching form) incompleteAlert
  | some room => { s with pending := s.pending ++ [.postRoom form room] }

/-- `RoomUserService.postRoomUser`, called by the handler of the join button: the room is
that of the shared model. -/
def postRoomUser (myPk : ℤ) (s : Navigation) (vc : SelectJoinGame) : Navigation :=
  { s with pending := s.pending ++ [.postRoomUser vc s.selectedRoomPk myPk] }

/-- `MyMatchingViewController.tableView(_:didSelectRowAt:)`. A Select screen is made too,
and takes a number; its view is not loaded. -/
def didSelectMatchingRow (z : TimeZone) (s : Navigation) (roomInfo : GetRoomInfo) : Navigation :=
  let chat : Chatting := .row (s.created + 1)
  pushViewController z
    { s with
      created := s.created + 2
      chats := Function.update s.chats chat
        { JoinChatting.made with roomInfo := some roomInfo, isJoinjang := s.madeMatchingButton }
      ui := s.ui.setHidden true }
    .myMatching (.joinChatting chat)

/-- `MyInfoViewController.didTapEditProfileButton`. -/
def didTapEditProfileButton (z : TimeZone) (s : Navigation) : Navigation :=
  pushViewController z s .myInfo .myProfileEdit

/-- `MyInfoModel.administrateList`. -/
def administrateList : List String := ["친구목록", "블랙리스트 관리", "구글계정 관리"]

/-- `MyInfoViewController.tableView(_:didSelectRowAt:)`: what it pushes. -/
def administrateScreen (number row : ℕ) : Controller :=
  if row = 0 then .myFriend number else if row = 1 then .myBlackList number else .plain number

def didSelectAdministrateRow (z : TimeZone) (s : Navigation) (row : ℕ) : Navigation :=
  pushViewController z { s with created := s.created + 1 } .myInfo
    (administrateScreen s.created row)

/-- The left buttons, `popViewController` in most of the sources: all of them pop, and
some show the tab bar. -/
def leftButton (s : Navigation) : Controller → Option Navigation
  | .makeMatching _ | .selectJoinGame _ | .myFriend _ | .myBlackList _ | .myProfileEdit =>
    let s' := s.popViewController s.ui.selected
    some { s' with ui := s'.ui.setHidden false }
  | .selectTier _ | .joinChatting _ => some (s.popViewController s.ui.selected)
  | .plain _ => none

/-! ### The completions -/

/-- The alert of a request to join that has been refused. -/
def refusedAlert : JoinusAlert where
  title := "참여 할 수 없습니다ㅠ"
  explain := "사람이 꽉 찼거나 게임이 시작되었습니다.\n다른 방에 조인해보세요"

/-- `postRoom`, when it is answered for a form. -/
def answerPostRoom (s : Navigation) (form : ℕ) : Reply ℤ → Navigation
  | .decoded _ => { s with pending := s.pending ++ [.getRoom form] }
  | .undecodable => s
  | .failure => s

/-- `popViewController`, called by a form: what is on top is popped, if the form still has a
navigation controller. -/
def popForm (s : Navigation) (form : ℕ) : Navigation :=
  if .makeMatching form ∈ s.ui.stack .game then s.popViewController .game else s

/-- `getRoom`, when it is answered for a form. -/
def answerGetRoom (s : Navigation) (form : ℕ) : Reply (List GetRoomInfo) → Navigation
  | .decoded data =>
    let s := popForm { s with gameList := data } form
    { s with makeMatchingModel := s.makeMatchingModel.initialized }
  | .undecodable => s
  | .failure => s

/-- `joinChattingVC.roomInfo = self.roomInfo`. -/
def setRoomInfo (s : Navigation) (vc : SelectJoinGame) : Navigation :=
  { s with
    chats := Function.update s.chats (.select vc)
      { s.chats (.select vc) with roomInfo := some vc.roomInfo } }

/-- `postRoomUser`, when it is answered for a Select screen. -/
def answerPostRoomUser (z : TimeZone) (s : Navigation) (vc : SelectJoinGame) :
    Reply ℤ → Navigation
  | .decoded res =>
    let s := s.setRoomInfo vc
    if res = 1 then
      if .selectJoinGame vc ∈ s.ui.stack .game then
        s.pushViewController z .game (.joinChatting (.select vc))
      else s
    else s.present (.selectJoinGame vc) refusedAlert
  | .undecodable => s
  | .failure => s

/-! ### Steps -/

end Navigation

/-- What the user can tap. -/
inductive Tap where
  | tabItem (tab : Tab)
  /-- The left button of the top screen. -/
  | left
  /-- The home list: its round button, and its rows. -/
  | createMatchingRoom
  | homeRow (row : ℕ) (now : Instant)
  /-- The form: its controls and those of its tier screen, which leave the model with some
  values; the way to the tier screen; the confirm button. -/
  | edit (model : MakeMatchingModel)
  | changeTierRange
  | makeMatchingRoom
  /-- The join button of a Select screen. -/
  | join
  /-- My Matching: its tabs, and its rows. -/
  | matchingButton (made : Bool)
  | matchingRow (row : ℕ)
  /-- The own page: its button, and its rows. -/
  | editProfile
  | administrateRow (row : ℕ)

inductive NavigationAction where
  | tap (a : Tap)
  /-- The button of an alert. -/
  | okButton
  /-- A list of rooms that a screen has asked for on its own. -/
  | gameList (rooms : List GetRoomInfo)
  | matchingList (rooms : List GetRoomInfo)
  /-- The replies to the requests that are waited for. -/
  | postRoomReply (form : ℕ) (room : PostRoom) (r : Reply ℤ)
  | getRoomReply (form : ℕ) (r : Reply (List GetRoomInfo))
  | postRoomUserReply (vc : SelectJoinGame) (roomPk userPk : ℤ) (r : Reply ℤ)

namespace Navigation

/-- A tap, if what is tapped is on screen. -/
def tap (z : TimeZone) (myPk : ℤ) (s : Navigation) : Tap → Option Navigation
  | .tabItem tab => if s.ui.tabBarHidden then none else some (s.didSelectTab tab)
  | .left =>
    match s.ui.topScreen with
    | none => none
    | some screen => s.leftButton screen
  | .createMatchingRoom =>
    if s.ui.AtRoot .game then some (s.didTapMakeMatchingButton z) else none
  | .homeRow row now =>
    if s.ui.AtRoot .game then (s.gameList[row]?).map (s.didSelectHomeRow z now) else none
  | .edit model =>
    match s.ui.topScreen with
    | some (.makeMatching _) => some { s with makeMatchingModel := model }
    | some (.selectTier _) => some { s with makeMatchingModel := model }
    | _ => none
  | .changeTierRange =>
    match s.ui.topScreen with
    | some (.makeMatching form) => some (s.pushViewController z .game (.selectTier form))
    | _ => none
  | .makeMatchingRoom =>
    match s.ui.topScreen with
    | some (.makeMatching form) => some (s.didTapMakeMatchingRoomButton myPk form)
    | _ => none
  | .join =>
    match s.ui.topScreen with
    | some (.selectJoinGame vc) =>
      if vc.joinButtonEnabled then some (s.postRoomUser myPk vc) else none
    | _ => none
  | .matchingButton made =>
    if s.ui.AtRoot .myMatching then some { s with madeMatchingButton := made } else none
  | .matchingRow row =>
    if s.ui.AtRoot .myMatching then (s.matchingList[row]?).map (s.didSelectMatchingRow z) else none
  | .editProfile => if s.ui.AtRoot .myInfo then some (s.didTapEditProfileButton z) else none
  | .administrateRow row =>
    if s.ui.AtRoot .myInfo ∧ row < administrateList.length then
      some (s.didSelectAdministrateRow z row)
    else none

/-- A request that is answered is not waited for any longer. -/
def answered (s : Navigation) (r : Request) : Navigation :=
  { s with pending := s.pending.erase r }

/-- What an action does while the app runs. -/
def act (z : TimeZone) (myPk : ℤ) (s : Navigation) : NavigationAction → Option Navigation
  | .tap a => if s.alert = none then s.tap z myPk a else none
  | .okButton => if s.alert = none then none else some { s with alert := none }
  | .gameList rooms => some { s with gameList := rooms }
  | .matchingList rooms => some { s with matchingList := rooms }
  | .postRoomReply form room r =>
    if .postRoom form room ∈ s.pending then
      some ((s.answered (.postRoom form room)).answerPostRoom form r)
    else none
  | .getRoomReply form r =>
    if .getRoom form ∈ s.pending then some ((s.answered (.getRoom form)).answerGetRoom form r)
    else none
  | .postRoomUserReply vc roomPk userPk r =>
    if .postRoomUser vc roomPk userPk ∈ s.pending then
      some ((s.answered (.postRoomUser vc roomPk userPk)).answerPostRoomUser z vc r)
    else none

def step (z : TimeZone) (myPk : ℤ) (s : Navigation) (a : NavigationAction) : Option Navigation :=
  if s.trap = none then s.act z myPk a else none

end Navigation

end Joinus
