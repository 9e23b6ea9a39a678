import Mathlib.Data.List.Infix
import Joinus.Clock
import Joinus.HomeList
import Joinus.MyMatching

/-!
# The cells of the two room lists

The home list and My Matching fill the same kind of cell for a room, each with a copy of the
same lines. Two texts are made from the clock first: the age of the room and the time until
its start. What else depends on the clock is decided by these texts – the label of the start
is grey if its text has `완료` in it, and the NEW badge is there if the age is one of six
texts.
-/

namespace Joinus

open Base

/-- The colours of the label of the start. -/
inductive LabelColor where
  | gameIdTextFieldBgGray
  | gameIdTextFieldPlaceholderGray
  | defaultPhotoGray
  | white
  deriving DecidableEq

/-- A `JoinusCustomCell`: its labels, and whether that with NEW on it is hidden. -/
structure JoinusCustomCell where
  joinJangLabel : String
  titleLabel : String
  personCountLabel : String
  startLabel : String
  startLabelBackgroundColor : LabelColor
  startLabelTextColor : LabelColor
  createdTimeLabel : String
  newLabelIsHidden : Bool
  deriving DecidableEq

/-- The clock while a cell is filled: when the age is made, when it is looked at again for a
room whose creation date cannot be read, and when the label of the start is made. -/
structure CellClock where
  currentDate : Instant
  laterDate : Instant
  startCurrentDate : Instant

/-- `contains`, for a text in a text. -/
def containsText (s t : String) : Bool := t.toList <:+: s.toList

/-- The name of the leader: that of the last user with the leader's number. -/
def joinJangID (temp : GetRoomInfo) : String :=
  temp.userList.foldl
    (fun joinJangID info => if temp.leaderPk = info.joinUserPk then info.nickName else joinJangID)
    ""

/-- The ages of a room with a NEW badge. -/
def newIntervals : List String := ["방금 전", "1분 전", "2분 전", "3분 전", "4분 전", "5분 전"]

/-- The cell of a room, once the two texts have been made. -/
def gameListCell (temp : GetRoomInfo) (createdInterval startInterval : String) :
    JoinusCustomCell where
  joinJangLabel := joinJangID temp
  titleLabel := temp.roomName
  personCountLabel := s!"{temp.nowPeopleCnt}/{temp.peopleNumber}"
  startLabel := startInterval
  startLabelBackgroundColor :=
    if containsText startInterval "완료" then .gameIdTextFieldBgGray else .defaultPhotoGray
  startLabelTextColor :=
    if containsText startInterval "완료" then .gameIdTextFieldPlaceholderGray else .white
  createdTimeLabel := createdInterval
  newLabelIsHidden := createdInterval ∉ newIntervals

/-- The cell of a room. A start date that cannot be read is a crash. -/
def roomCell (z : TimeZone) (clock : CellClock) (temp : GetRoomInfo) : Option JoinusCustomCell :=
  let createdInterval :=
    calculateCreatedTime z clock.currentDate clock.laterDate temp.createdAt
  match calculateStartTime z clock.startCurrentDate temp.startDate with
  | none => none
  | some startInterval => some (gameListCell temp createdInterval startInterval)

/-- `HomeListViewController.tableView(_:cellForRowAt:)`. -/
def HomeList.cellForRowAt (z : TimeZone) (clock : CellClock) (s : HomeList) (row : ℕ) :
    Option JoinusCustomCell :=
  s.gameList[row]?.bind (roomCell z clock)

/-- `MyMatchingViewController.tableView(_:cellForRowAt:)`. -/
def MatchingScreen.cellForRowAt (z : TimeZone) (clock : CellClock) (s : MatchingScreen)
    (row : ℕ) : Option JoinusCustomCell :=
  s.matchingList[row]?.bind (roomCell z clock)

/-- **The cell of a room in either list.** -/
def ShownAs (z : TimeZone) (clock : CellClock) (room : GetRoomInfo) (cell : JoinusCustomCell) :
    Prop :=
  (∃ (s : HomeList) (row : ℕ), s.gameList[row]? = some room ∧
      s.cellForRowAt z clock row = some cell) ∨
    ∃ (s : MatchingScreen) (row : ℕ), s.matchingList[row]? = some room ∧
      s.cellForRowAt z clock row = some cell

/-- Both lists show it as one and the same function makes it. -/
theorem shownAs_iff {z : TimeZone} {clock : CellClock} {room : GetRoomInfo}
    {cell : JoinusCustomCell} : ShownAs z clock room cell ↔ roomCell z clock room = some cell := by
  constructor
  · rintro (⟨s, row, hroom, hcell⟩ | ⟨s, row, hroom, hcell⟩)
    · rwa [HomeList.cellForRowAt, hroom] at hcell
    · rwa [MatchingScreen.cellForRowAt, hroom] at hcell
  · intro h
    exact Or.inl ⟨{ HomeList.loaded with gameList := [room] }, 0, rfl, h⟩

theorem roomCell_of_start {z : TimeZone} {clock : CellClock} {room : GetRoomInfo}
    {startInterval : String}
    (h : calculateStartTime z clock.startCurrentDate room.startDate = some startInterval) :
    roomCell z clock room =
      some (gameListCell room
        (calculateCreatedTime z clock.currentDate clock.laterDate room.createdAt)
        startInterval) := by
  rw [roomCell, h]

end Joinus
