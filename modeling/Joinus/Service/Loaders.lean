import Joinus.Base.Effects
import Joinus.Making.Form
import Joinus.Service.Decoders

/-!
# The services

What the callbacks of the services do with a reply. The shared models are one store,
with a field for every property that some code writes, and a callback is a list of
effects on it, once it is known what the reply was: assignments of fields, in the order
of the source, and a call of the completion.

Most callbacks have one skeleton. The value that the network library hands over is
written out as JSON again – which raises an exception unless it is an array or an
object – and decoded; then the fields are assigned and the completion is called. The
callbacks differ in what they look at before they assign, before they complete, and in
the `catch` branch.

| service | fields | completes |
|---|---|---|
| `signUp` | six fields of the user | if the reply decodes |
| `getGame` | five fields of the user, from the first game | if there is one, with a game ID |
| `getManner` | the manner score, if the count is 1 | if the count is 1 |
| `getConnection` | one of two lists, if the count is 1 | if it is, *or if nothing decodes* |
| the five loaders of rooms and users | one list, or one room | if the reply decodes |
| posts and puts | none | if the number or status is right |
-/

namespace Joinus

open Base

/-! ### The shared models -/

/-- The stored properties of `MyInfoModel`, `HomeListModel`, `MyMatchingModel`,
`JoinChattingModel` and `MessagingModel`; the values of the form, which no service
assigns, are one field. -/
inductive Field where
  | myAge
  | myGender
  | myGameID
  | myTier
  | myProfileUrl
  | subToken
  | myPk
  | gameInfoPk
  | myGameName
  | myMannerScore
  | getFriend
  | getBlackList
  | gameList
  | matchingList
  | joinPeople
  | selectedRoomPk
  | selectedRoomManner
  | getSelectedRoom
  | getRoomUsers
  | makeMatching
  | firebaseToken
  deriving DecidableEq

/-- The type of a property. -/
@[reducible] def Field.Value : Field → Type
  | .myAge | .myGender | .myTier | .myPk | .gameInfoPk | .myMannerScore => ℤ
  | .myGameID | .myProfileUrl | .subToken | .myGameName | .firebaseToken => String
  | .getFriend | .getBlackList => List GetConnetionData
  | .gameList | .matchingList => List GetRoomInfo
  | .joinPeople | .selectedRoomPk | .selectedRoomManner => ℤ
  | .getSelectedRoom => Option GetRoomInfo
  | .getRoomUsers => List GetRoomUser
  | .makeMatching => MakeMatchingModel

/-- The shared models. -/
abbrev SharedModels := (f : Field) → f.Value

/-- The shared models at launch. -/
def SharedModels.initial : SharedModels
  | .myAge | .myGender | .myTier | .myPk | .gameInfoPk | .myMannerScore => (0 : ℤ)
  | .myGameID | .myProfileUrl | .subToken | .myGameName | .firebaseToken => ""
  | .getFriend | .getBlackList => ([] : List GetConnetionData)
  | .gameList | .matchingList => ([] : List GetRoomInfo)
  | .joinPeople | .selectedRoomPk | .selectedRoomManner => (0 : ℤ)
  | .getSelectedRoom => (none : Option GetRoomInfo)
  | .getRoomUsers => ([] : List GetRoomUser)
  | .makeMatching => MakeMatchingModel.initial

/-- The user, in the shared models. -/
def SharedModels.myInfo (m : SharedModels) : MyInfoModel where
  myAge := m .myAge
  myGender := m .myGender
  myGameID := m .myGameID
  myTier := m .myTier
  myProfileUrl := m .myProfileUrl
  subToken := m .subToken
  myPk := m .myPk
  gameInfoPk := m .gameInfoPk
  myGameName := m .myGameName
  myMannerScore := m .myMannerScore

/-! ### Replies and callbacks -/

/-- What `responseJSON` hands over: a JSON value, or a failure – no connection, a status
outside the accepted range, a body that is no JSON. -/
inductive Response where
  | body (j : Json)
  | failure

/-- The values that `JSONSerialization.data(withJSONObject:)` takes. -/
def isValidJSONObject : Json → Bool
  | .array _ => true
  | .object _ => true
  | _ => false

/-- The call of a completion, with what it is given. -/
inductive Completion where
  | plain
  | login (login : Bool)
  | result (result : ℤ)
  deriving DecidableEq

/-- The effects of a callback. -/
abbrev Body := List (Effect Field.Value Completion)

/-- The callback of a service that decodes: `none` is the exception. -/
def decoding {α : Type} (decode : Json → Option α) (loaded : α → Body) (caught : Body) :
    Response → Option Body
  | .body j =>
    if isValidJSONObject j then
      match decode j with
      | some data => some (loaded data)
      | none => some caught
    else none
  | .failure => some []

/-- `res as? Int`; a Boolean is a number here. -/
def asInt : Json → Option ℤ
  | .number significand exponent => Json.decodeInt (.number significand exponent)
  | .bool b => some (if b then 1 else 0)
  | _ => none

/-- The callback of a service that expects a number. -/
def resulting (done : ℤ → Body) : Response → Option Body
  | .body j =>
    match asInt j with
    | some result => some (done result)
    | none => some []
  | .failure => some []

/-- The callback that stores what it decodes, and completes. -/
def storing {α : Type} (decode : Json → Option α) (f : Field) (value : α → f.Value) :
    Response → Option Body :=
  decoding decode (fun data => [.assign f (value data), .call .plain]) []

/-- The services that load something. -/
inductive Loader where
  | getRoom
  | getJoinRoom
  | getMakeRoom
  | getSelectedRoom
  | getRoomUser
  | getGame
  | getManner
  | getConnection (isFriend : Bool)
  deriving DecidableEq

namespace Loader

def getRoomCallback : Response → Option Body :=
  storing (Json.decodeArray GetRoomInfo.decode) .gameList id

def getJoinRoomCallback : Response → Option Body :=
  storing (Json.decodeArray GetRoomInfo.decode) .matchingList id

def getMakeRoomCallback : Response → Option Body :=
  storing (Json.decodeArray GetRoomInfo.decode) .matchingList id

def getSelectedRoomCallback : Response → Option Body :=
  storing GetRoomInfo.decode .getSelectedRoom some

def getRoomUserCallback : Response → Option Body :=
  storing (Json.decodeArray GetRoomUser.decode) .getRoomUsers id

/-- What `getGame` assigns. -/
def storeGame (userGameInfo : GetGame) : Body :=
  [.assign .myPk userGameInfo.userPk, .assign .gameInfoPk userGameInfo.gameInfoPk,
    .assign .myGameID userGameInfo.gameID, .assign .myGameName userGameInfo.gameName,
    .assign .myTier userGameInfo.tier]

def getGameCallback : Response → Option Body :=
  decoding (Json.decodeArray GetGame.decode)
    (fun
      | [] => []
      | userGameInfo :: _ =>
        -- the game ID that is looked at is the one just assigned
        storeGame userGameInfo ++ if userGameInfo.gameID ≠ "" then [.call .plain] else [])
    []

def getMannerCallback : Response → Option Body :=
  decoding GetManner.decode
    (fun data =>
      if data.count = 1 then [.assign .myMannerScore data.mannerScore, .call .plain] else [])
    []

/-- What `getConnection` assigns. -/
def storeConnection (isFriend : Bool) (data : List GetConnetionData) : Body :=
  if isFriend then [.assign .getFriend data] else [.assign .getBlackList data]

def getConnectionCallback (isFriend : Bool) : Response → Option Body :=
  decoding GetConnetion.decode
    (fun data =>
      if data.count = 1 then storeConnection isFriend data.data ++ [.call .plain] else [])
    [.call .plain]

/-- The callback of a loader. -/
def callback : Loader → Response → Option Body
  | .getRoom => getRoomCallback
  | .getJoinRoom => getJoinRoomCallback
  | .getMakeRoom => getMakeRoomCallback
  | .getSelectedRoom => getSelectedRoomCallback
  | .getRoomUser => getRoomUserCallback
  | .getGame => getGameCallback
  | .getManner => getMannerCallback
  | .getConnection isFriend => getConnectionCallback isFriend

/-! ### What a loader is for

The fields that a loader owns, and what a reply has for them, said without looking at
the callbacks. -/

/-- The fields that a loader owns. -/
def fields : Loader → List Field
  | .getRoom => [.gameList]
  | .getJoinRoom => [.matchingList]
  | .getMakeRoom => [.matchingList]
  | .getSelectedRoom => [.getSelectedRoom]
  | .getRoomUser => [.getRoomUsers]
  | .getGame => [.myPk, .gameInfoPk, .myGameID, .myGameName, .myTier]
  | .getManner => [.myMannerScore]
  | .getConnection isFriend => [if isFriend then .getFriend else .getBlackList]

/-- What a decoded reply has for the fields of its loader. -/
def reads : Loader → Json → Option ((f : Field) → Option f.Value)
  | .getRoom, j => (Json.decodeArray GetRoomInfo.decode j).map fun data => fun
    | .gameList => some data
    | _ => none
  | .getJoinRoom, j => (Json.decodeArray GetRoomInfo.decode j).map fun data => fun
    | .matchingList => some data
    | _ => none
  | .getMakeRoom, j => (Json.decodeArray GetRoomInfo.decode j).map fun data => fun
    | .matchingList => some data
    | _ => none
  | .getSelectedRoom, j => (GetRoomInfo.decode j).map fun data => fun
    | .getSelectedRoom => some (some data)
    | _ => none
  | .getRoomUser, j => (Json.decodeArray GetRoomUser.decode j).map fun data => fun
    | .getRoomUsers => some data
    | _ => none
  | .getGame, j => (Json.decodeArray GetGame.decode j).map fun data => fun
    | .myPk => data.head?.map GetGame.userPk
    | .gameInfoPk => data.head?.map GetGame.gameInfoPk
    | .myGameID => data.head?.map GetGame.gameID
    | .myGameName => data.head?.map GetGame.gameName
    | .myTier => data.head?.map GetGame.tier
    | _ => none
  | .getManner, j => (GetManner.decode j).map fun data => fun
    | .myMannerScore => some data.mannerScore
    | _ => none
  | .getConnection isFriend, j => (GetConnetion.decode j).map fun data => fun
    | .getFriend => if isFriend then some data.data else none
    | .getBlackList => if isFriend then none else some data.data
    | _ => none

end Loader

/-! ### All services -/

/-- A call of a service, as far as its callback depends on it. -/
inductive ServiceCall where
  | signUp
  | load (l : Loader)
  | postGame
  | putGame
  | deleteGame
  | postManner
  | postConnetion
  | postRoom
  | postRoomUser
  | putOnboarding
  deriving DecidableEq

namespace ServiceCall

/-- What `signUp` assigns. -/
def storeLogin (data : GetLogin) : Body :=
  [.assign .myAge data.age, .assign .myGameID (data.nickName.getD "noname"),
    .assign .myGender data.gender, .assign .myPk data.pk, .assign .subToken data.subToken,
    .assign .myProfileUrl (data.imageAddress.getD "defaultProfile_60x60")]

def signUpCallback : Response → Option Body :=
  decoding GetLogin.decode (fun data => storeLogin data ++ [.call (.login data.login)]) []

def postGameCallback : Response → Option Body := resulting fun _ => [.call .plain]

def putGameCallback : Response → Option Body :=
  resulting fun result => if result = 1 then [.call .plain] else []

def deleteGameCallback : Response → Option Body :=
  resulting fun result => if result = 1 then [.call .plain] else []

/-- `postManner` never calls its completion. -/
def postMannerCallback : Response → Option Body := decoding PostManner.decode (fun _ => []) []

def postConnetionCallback : Response → Option Body :=
  resulting fun result => if result = 1 then [.call .plain] else []

def postRoomCallback : Response → Option Body := resulting fun _ => [.call .plain]

def postRoomUserCallback : Response → Option Body :=
  resulting fun result => [.call (.result result)]

def putOnboardingCallback : Response → Option Body :=
  decoding PutOnboarding.decode
    (fun data => if data.status = 200 then [.call .plain] else []) []

/-- The callback of a service. -/
def callback : ServiceCall → Response → Option Body
  | .signUp => signUpCallback
  | .load l => l.callback
  | .postGame => postGameCallback
  | .putGame => putGameCallback
  | .deleteGame => deleteGameCallback
  | .postManner => postMannerCallback
  | .postConnetion => postConnetionCallback
  | .postRoom => postRoomCallback
  | .postRoomUser => postRoomUserCallback
  | .putOnboarding => putOnboardingCallback

/-- The fields that a service owns: none, if it posts or puts. -/
def fields : ServiceCall → List Field
  | .signUp => [.myAge, .myGameID, .myGender, .myPk, .subToken, .myProfileUrl]
  | .load l => l.fields
  | .postGame | .putGame | .deleteGame | .postManner | .postConnetion | .postRoom
  | .postRoomUser | .putOnboarding => []

/-- What a decoded reply has for the fields of its service. A user without a nickname or
a picture gets the app's own. -/
def reads : ServiceCall → Json → Option ((f : Field) → Option f.Value)
  | .signUp, j => (GetLogin.decode j).map fun data => fun
    | .myAge => some data.age
    | .myGameID => some (data.nickName.getD "noname")
    | .myGender => some data.gender
    | .myPk => some data.pk
    | .subToken => some data.subToken
    | .myProfileUrl => some (data.imageAddress.getD "defaultProfile_60x60")
    | _ => none
  | .load l, j => l.reads j
  | .postGame, _ | .putGame, _ | .deleteGame, _ | .postManner, _ | .postConnetion, _
  | .postRoom, _ | .postRoomUser, _ | .putOnboarding, _ => none

end ServiceCall

end Joinus
