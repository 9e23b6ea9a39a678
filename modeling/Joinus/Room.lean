import Mathlib.Data.Int.Notation

/-!
# Rooms as the server sends them

The records into which the room service decodes the replies of the server, under the
source's names and with the source's fields. A room holds the roster of its users –
`userList` – *as it was when the server made the reply*: nothing in the app updates
it later.
-/

namespace Joinus

/-- A user of a room. -/
structure JoinUserInfo where
  joinUserPk : ℤ
  age : ℤ
  gender : ℤ
  token : String
  firebaseToken : Option String
  imageAddress : String
  nickName : String
  login : Bool
  deriving DecidableEq

/-- A room. -/
structure GetRoomInfo where
  roomPk : ℤ
  roomName : String
  gameName : String
  peopleNumber : ℤ
  startDate : String
  createdAt : String
  voiceChat : Bool
  lowestTier : ℤ
  highestTier : ℤ
  isStart : ℤ
  nowPeopleCnt : ℤ
  leaderPk : ℤ
  roomManner : ℤ
  userList : List JoinUserInfo
  deriving DecidableEq

/-- What becomes of a request: a body that decodes, a body that does not, or no
response at all. -/
inductive Reply (α : Type) where
  | decoded (data : α)
  | undecodable
  | failure

end Joinus
