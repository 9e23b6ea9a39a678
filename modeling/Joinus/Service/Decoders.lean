import Joinus.Base.Json
import Joinus.Onboarding.Login

/-!
# The decoders of the services

What the server sends, key by key. A property with a type of its own is required, and
one with an optional type may be missing or `null`; that a property of the source also
has an initial value makes no difference to the decoder.

The same user of the server is described four times, for the sign-in, for the users of a
room – twice – and for the lists of friends, and the four descriptions differ in what
they require:

| key | `GetLogin` | `JoinUserInfo` | `GetRoomUser` | `GetConnetionData` |
|---|---|---|---|---|
| `pk`, `age`, `gender`, `token`, `login` | required | required | required | required |
| `firebase_token` | optional | optional | optional | required |
| `image_address` | optional | required | required | required |
| `nickname` | optional | required | optional | required |
-/

namespace Joinus

open Base

/-- A user as `getRoomUser` receives it. -/
structure GetRoomUser where
  joinUserPk : ℤ
  subToken : String
  firebaseToken : Option String
  gender : ℤ
  age : ℤ
  imageAddress : String
  nickName : Option String
  login : Bool
  deriving DecidableEq

/-- A friend, or a user on the blacklist. -/
structure GetConnetionData where
  connectionPk : ℤ
  gender : ℤ
  age : ℤ
  subToken : String
  firebaseToken : String
  imageAddress : String
  nickName : String
  login : Bool
  deriving DecidableEq

/-- A reply of `getConnection`; its `errorMessage` has no key, and keeps its initial
value. -/
structure GetConnetion where
  errorMessage : String
  count : ℤ
  data : List GetConnetionData

/-- A reply of `putOnboarding`. -/
structure PutOnboarding where
  status : ℤ
  message : String

/-- A reply of `postManner`. -/
structure PostManner where
  status : ℤ
  message : String

/-! ### The decoders -/

def GetLogin.decode (j : Json) : Option GetLogin := do
  let age ← j.decode Json.decodeInt "age"
  let gender ← j.decode Json.decodeInt "gender"
  let pk ← j.decode Json.decodeInt "pk"
  let firebaseToken ← j.decodeIfPresent Json.decodeString "firebase_token"
  let imageAddress ← j.decodeIfPresent Json.decodeString "image_address"
  let nickName ← j.decodeIfPresent Json.decodeString "nickname"
  let subToken ← j.decode Json.decodeString "token"
  let login ← j.decode Json.decodeBool "login"
  return ⟨age, gender, pk, firebaseToken, imageAddress, nickName, subToken, login⟩

def JoinUserInfo.decode (j : Json) : Option JoinUserInfo := do
  let joinUserPk ← j.decode Json.decodeInt "pk"
  let age ← j.decode Json.decodeInt "age"
  let gender ← j.decode Json.decodeInt "gender"
  let token ← j.decode Json.decodeString "token"
  let firebaseToken ← j.decodeIfPresent Json.decodeString "firebase_token"
  let imageAddress ← j.decode Json.decodeString "image_address"
  let nickName ← j.decode Json.decodeString "nickname"
  let login ← j.decode Json.decodeBool "login"
  return ⟨joinUserPk, age, gender, token, firebaseToken, imageAddress, nickName, login⟩

def GetRoomUser.decode (j : Json) : Option GetRoomUser := do
  let joinUserPk ← j.decode Json.decodeInt "pk"
  let subToken ← j.decode Json.decodeString "token"
  let firebaseToken ← j.decodeIfPresent Json.decodeString "firebase_token"
  let gender ← j.decode Json.decodeInt "gender"
  let age ← j.decode Json.decodeInt "age"
  let imageAddress ← j.decode Json.decodeString "image_address"
  let nickName ← j.decodeIfPresent Json.decodeString "nickname"
  let login ← j.decode Json.decodeBool "login"
  return ⟨joinUserPk, subToken, firebaseToken, gender, age, imageAddress, nickName, login⟩

def GetConnetionData.decode (j : Json) : Option GetConnetionData := do
  let connectionPk ← j.decode Json.decodeInt "pk"
  let gender ← j.decode Json.decodeInt "gender"
  let age ← j.decode Json.decodeInt "age"
  let subToken ← j.decode Json.decodeString "token"
  let firebaseToken ← j.decode Json.decodeString "firebase_token"
  let imageAddress ← j.decode Json.decodeString "image_address"
  let nickName ← j.decode Json.decodeString "nickname"
  let login ← j.decode Json.decodeBool "login"
  return ⟨connectionPk, gender, age, subToken, firebaseToken, imageAddress, nickName, login⟩

def GetConnetion.decode (j : Json) : Option GetConnetion := do
  let count ← j.decode Json.decodeInt "count"
  let data ← j.decode (Json.decodeArray GetConnetionData.decode) "data"
  return ⟨"", count, data⟩

def GetRoomInfo.decode (j : Json) : Option GetRoomInfo := do
  let roomPk ← j.decode Json.decodeInt "pk"
  let roomName ← j.decode Json.decodeString "room_name"
  let gameName ← j.decode Json.decodeString "game_name"
  let peopleNumber ← j.decode Json.decodeInt "people_number"
  let startDate ← j.decode Json.decodeString "start_date"
  let createdAt ← j.decode Json.decodeString "created_at"
  let voiceChat ← j.decode Json.decodeBool "voice_chat"
  let lowestTier ← j.decode Json.decodeInt "lowest_tier"
  let highestTier ← j.decode Json.decodeInt "highest_tier"
  let isStart ← j.decode Json.decodeInt "is_start"
  let nowPeopleCnt ← j.decode Json.decodeInt "now_people_cnt"
  let leaderPk ← j.decode Json.decodeInt "leader_pk"
  let roomManner ← j.decode Json.decodeInt "room_manner"
  let userList ← j.decode (Json.decodeArray JoinUserInfo.decode) "user_list"
  return ⟨roomPk, roomName, gameName, peopleNumber, startDate, createdAt, voiceChat, lowestTier,
    highestTier, isStart, nowPeopleCnt, leaderPk, roomManner, userList⟩

def GetGame.decode (j : Json) : Option GetGame := do
  let gameInfoPk ← j.decode Json.decodeInt "pk"
  let userPk ← j.decode Json.decodeInt "user_pk"
  let gameName ← j.decode Json.decodeString "name"
  let gameID ← j.decode Json.decodeString "game_id"
  let tier ← j.decode Json.decodeInt "tier"
  return ⟨gameInfoPk, userPk, gameName, gameID, tier⟩

def GetManner.decode (j : Json) : Option GetManner := do
  let count ← j.decode Json.decodeInt "count"
  let mannerScore ← j.decode Json.decodeInt "data"
  return ⟨count, mannerScore⟩

def PutOnboarding.decode (j : Json) : Option PutOnboarding := do
  let status ← j.decode Json.decodeInt "status"
  let message ← j.decode Json.decodeString "message"
  return ⟨status, message⟩

def PostManner.decode (j : Json) : Option PostManner := do
  let status ← j.decode Json.decodeInt "status"
  let message ← j.decode Json.decodeString "message"
  return ⟨status, message⟩

/-! ### What a decoded user says about the object -/

/-- The keys that all descriptions of a user require, and what they have. -/
structure UserKeys (j : Json) (pk age gender : ℤ) (token : String) (login : Bool) : Prop where
  pk : j.decode Json.decodeInt "pk" = some pk
  age : j.decode Json.decodeInt "age" = some age
  gender : j.decode Json.decodeInt "gender" = some gender
  token : j.decode Json.decodeString "token" = some token
  login : j.decode Json.decodeBool "login" = some login

theorem GetLogin.decode_eq_some {j : Json} {u : GetLogin} :
    GetLogin.decode j = some u ↔
      UserKeys j u.pk u.age u.gender u.subToken u.login ∧
        j.decodeIfPresent Json.decodeString "firebase_token" = some u.firebaseToken ∧
        j.decodeIfPresent Json.decodeString "image_address" = some u.imageAddress ∧
        j.decodeIfPresent Json.decodeString "nickname" = some u.nickName := by
  constructor
  · intro h
    simp only [decode, Option.bind_eq_bind, Option.bind_eq_some_iff, Option.pure_def,
      Option.some.injEq] at h
    obtain ⟨age, hage, gender, hgender, pk, hpk, firebaseToken, hfirebase, imageAddress, himage,
      nickName, hnick, token, htoken, login, hlogin, rfl⟩ := h
    exact ⟨⟨hpk, hage, hgender, htoken, hlogin⟩, hfirebase, himage, hnick⟩
  · rintro ⟨hkeys, hfirebase, himage, hnick⟩
    simp only [decode, hkeys.pk, hkeys.age, hkeys.gender, hkeys.token, hkeys.login, hfirebase,
      himage, hnick, Option.bind_eq_bind, Option.bind_some, Option.pure_def]

theorem JoinUserInfo.decode_eq_some {j : Json} {u : JoinUserInfo} :
    JoinUserInfo.decode j = some u ↔
      UserKeys j u.joinUserPk u.age u.gender u.token u.login ∧
        j.decodeIfPresent Json.decodeString "firebase_token" = some u.firebaseToken ∧
        j.decode Json.decodeString "image_address" = some u.imageAddress ∧
        j.decode Json.decodeString "nickname" = some u.nickName := by
  constructor
  · intro h
    simp only [decode, Option.bind_eq_bind, Option.bind_eq_some_iff, Option.pure_def,
      Option.some.injEq] at h
    obtain ⟨pk, hpk, age, hage, gender, hgender, token, htoken, firebaseToken, hfirebase,
      imageAddress, himage, nickName, hnick, login, hlogin, rfl⟩ := h
    exact ⟨⟨hpk, hage, hgender, htoken, hlogin⟩, hfirebase, himage, hnick⟩
  · rintro ⟨hkeys, hfirebase, himage, hnick⟩
    simp only [decode, hkeys.pk, hkeys.age, hkeys.gender, hkeys.token, hkeys.login, hfirebase,
      himage, hnick, Option.bind_eq_bind, Option.bind_some, Option.pure_def]

theorem GetRoomUser.decode_eq_some {j : Json} {u : GetRoomUser} :
    GetRoomUser.decode j = some u ↔
      UserKeys j u.joinUserPk u.age u.gender u.subToken u.login ∧
        j.decodeIfPresent Json.decodeString "firebase_token" = some u.firebaseToken ∧
        j.decode Json.decodeString "image_address" = some u.imageAddress ∧
        j.decodeIfPresent Json.decodeString "nickname" = some u.nickName := by
  constructor
  · intro h
    simp only [decode, Option.bind_eq_bind, Option.bind_eq_some_iff, Option.pure_def,
      Option.some.injEq] at h
    obtain ⟨pk, hpk, token, htoken, firebaseToken, hfirebase, gender, hgender, age, hage,
      imageAddress, himage, nickName, hnick, login, hlogin, rfl⟩ := h
    exact ⟨⟨hpk, hage, hgender, htoken, hlogin⟩, hfirebase, himage, hnick⟩
  · rintro ⟨hkeys, hfirebase, himage, hnick⟩
    simp only [decode, hkeys.pk, hkeys.age, hkeys.gender, hkeys.token, hkeys.login, hfirebase,
      himage, hnick, Option.bind_eq_bind, Option.bind_some, Option.pure_def]

/-- The keys of a room other than its users, and what they have. -/
structure RoomKeys (j : Json) (room : GetRoomInfo) : Prop where
  roomPk : j.decode Json.decodeInt "pk" = some room.roomPk
  roomName : j.decode Json.decodeString "room_name" = some room.roomName
  gameName : j.decode Json.decodeString "game_name" = some room.gameName
  peopleNumber : j.decode Json.decodeInt "people_number" = some room.peopleNumber
  startDate : j.decode Json.decodeString "start_date" = some room.startDate
  createdAt : j.decode Json.decodeString "created_at" = some room.createdAt
  voiceChat : j.decode Json.decodeBool "voice_chat" = some room.voiceChat
  lowestTier : j.decode Json.decodeInt "lowest_tier" = some room.lowestTier
  highestTier : j.decode Json.decodeInt "highest_tier" = some room.highestTier
  isStart : j.decode Json.decodeInt "is_start" = some room.isStart
  nowPeopleCnt : j.decode Json.decodeInt "now_people_cnt" = some room.nowPeopleCnt
  leaderPk : j.decode Json.decodeInt "leader_pk" = some room.leaderPk
  roomManner : j.decode Json.decodeInt "room_manner" = some room.roomManner

theorem GetConnetionData.decode_eq_some {j : Json} {u : GetConnetionData} :
    GetConnetionData.decode j = some u ↔
      UserKeys j u.connectionPk u.age u.gender u.subToken u.login ∧
        j.decode Json.decodeString "firebase_token" = some u.firebaseToken ∧
        j.decode Json.decodeString "image_address" = some u.imageAddress ∧
        j.decode Json.decodeString "nickname" = some u.nickName := by
  constructor
  · intro h
    simp only [decode, Option.bind_eq_bind, Option.bind_eq_some_iff, Option.pure_def,
      Option.some.injEq] at h
    obtain ⟨pk, hpk, gender, hgender, age, hage, token, htoken, firebaseToken, hfirebase,
      imageAddress, himage, nickName, hnick, login, hlogin, rfl⟩ := h
    exact ⟨⟨hpk, hage, hgender, htoken, hlogin⟩, hfirebase, himage, hnick⟩
  · rintro ⟨hkeys, hfirebase, himage, hnick⟩
    simp only [decode, hkeys.pk, hkeys.age, hkeys.gender, hkeys.token, hkeys.login, hfirebase,
      himage, hnick, Option.bind_eq_bind, Option.bind_some, Option.pure_def]

theorem GetRoomInfo.decode_eq_some {j : Json} {room : GetRoomInfo} :
    GetRoomInfo.decode j = some room ↔ RoomKeys j room ∧
      j.decode (Json.decodeArray JoinUserInfo.decode) "user_list" = some room.userList := by
  constructor
  · intro h
    -- the fourteen keys are read one after the other, so the binds are taken apart in turn
    unfold decode at h
    obtain ⟨roomPk, h1, h⟩ := Option.bind_eq_some_iff.mp h
    obtain ⟨roomName, h2, h⟩ := Option.bind_eq_some_iff.mp h
    obtain ⟨gameName, h3, h⟩ := Option.bind_eq_some_iff.mp h
    obtain ⟨peopleNumber, h4, h⟩ := Option.bind_eq_some_iff.mp h
    obtain ⟨startDate, h5, h⟩ := Option.bind_eq_some_iff.mp h
    obtain ⟨createdAt, h6, h⟩ := Option.bind_eq_some_iff.mp h
    obtain ⟨voiceChat, h7, h⟩ := Option.bind_eq_some_iff.mp h
    obtain ⟨lowestTier, h8, h⟩ := Option.bind_eq_some_iff.mp h
    obtain ⟨highestTier, h9, h⟩ := Option.bind_eq_some_iff.mp h
    obtain ⟨isStart, h10, h⟩ := Option.bind_eq_some_iff.mp h
    obtain ⟨nowPeopleCnt, h11, h⟩ := Option.bind_eq_some_iff.mp h
    obtain ⟨leaderPk, h12, h⟩ := Option.bind_eq_some_iff.mp h
    obtain ⟨roomManner, h13, h⟩ := Option.bind_eq_some_iff.mp h
    obtain ⟨userList, h14, h⟩ := Option.bind_eq_some_iff.mp h
    cases h
    exact ⟨⟨h1, h2, h3, h4, h5, h6, h7, h8, h9, h10, h11, h12, h13⟩, h14⟩
  · rintro ⟨hk, husers⟩
    unfold decode
    rw [hk.roomPk, hk.roomName, hk.gameName, hk.peopleNumber, hk.startDate, hk.createdAt,
      hk.voiceChat, hk.lowestTier, hk.highestTier, hk.isStart, hk.nowPeopleCnt, hk.leaderPk,
      hk.roomManner, husers]
    rfl

end Joinus
