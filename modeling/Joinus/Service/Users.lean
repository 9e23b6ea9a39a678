import Joinus.Service.Completion

/-!
# One user, several decoders

The server describes a user by the same object wherever the user occurs: as the one who
signs in, among the users of a room, among the friends. What the app requires of the
object is written down anew in each place. The sign-in accepts a user without a
picture and without a nickname; the users of a room must have both, and a friend must
have a push token besides.

So a user can sign in whom no list can show. And as an array is decoded only if all its
elements are, one such user, in one room, keeps *every* room of the reply from the home
list: `gameList` becomes the list of all rooms exactly if each user of each room has a
picture and a nickname (`Joinus.getRoom_shows_iff`).
-/

namespace Joinus

open Base

/-! ### A user -/

/-- A user of a room is the user who signed in. -/
def JoinUserInfo.Agrees (u : JoinUserInfo) (login : GetLogin) : Prop :=
  u.joinUserPk = login.pk ∧ u.age = login.age ∧ u.gender = login.gender ∧
    u.token = login.subToken ∧ u.login = login.login

/-- A friend is the user who signed in. -/
def GetConnetionData.Agrees (u : GetConnetionData) (login : GetLogin) : Prop :=
  u.connectionPk = login.pk ∧ u.age = login.age ∧ u.gender = login.gender ∧
    u.subToken = login.subToken ∧ u.login = login.login

/-- A user in the reply of `getRoomUser` is the user who signed in. -/
def GetRoomUser.Agrees (u : GetRoomUser) (login : GetLogin) : Prop :=
  u.joinUserPk = login.pk ∧ u.age = login.age ∧ u.gender = login.gender ∧
    u.subToken = login.subToken ∧ u.login = login.login

/-- A user of a room with the keys of a login is that user. -/
theorem joinUserInfo_agrees {j : Json} {login : GetLogin} {u : JoinUserInfo}
    (hlogin : GetLogin.decode j = some login) (hu : JoinUserInfo.decode j = some u) :
    u.Agrees login := by
  have hl := (GetLogin.decode_eq_some.mp hlogin).1
  have hk := (JoinUserInfo.decode_eq_some.mp hu).1
  exact ⟨Option.some.inj (hk.pk.symm.trans hl.pk), Option.some.inj (hk.age.symm.trans hl.age),
    Option.some.inj (hk.gender.symm.trans hl.gender),
    Option.some.inj (hk.token.symm.trans hl.token), Option.some.inj (hk.login.symm.trans hl.login)⟩

theorem getConnetionData_agrees {j : Json} {login : GetLogin} {u : GetConnetionData}
    (hlogin : GetLogin.decode j = some login) (hu : GetConnetionData.decode j = some u) :
    u.Agrees login := by
  have hl := (GetLogin.decode_eq_some.mp hlogin).1
  have hk := (GetConnetionData.decode_eq_some.mp hu).1
  exact ⟨Option.some.inj (hk.pk.symm.trans hl.pk), Option.some.inj (hk.age.symm.trans hl.age),
    Option.some.inj (hk.gender.symm.trans hl.gender),
    Option.some.inj (hk.token.symm.trans hl.token), Option.some.inj (hk.login.symm.trans hl.login)⟩

theorem getRoomUser_agrees {j : Json} {login : GetLogin} {u : GetRoomUser}
    (hlogin : GetLogin.decode j = some login) (hu : GetRoomUser.decode j = some u) :
    u.Agrees login := by
  have hl := (GetLogin.decode_eq_some.mp hlogin).1
  have hk := (GetRoomUser.decode_eq_some.mp hu).1
  exact ⟨Option.some.inj (hk.pk.symm.trans hl.pk), Option.some.inj (hk.age.symm.trans hl.age),
    Option.some.inj (hk.gender.symm.trans hl.gender),
    Option.some.inj (hk.token.symm.trans hl.token), Option.some.inj (hk.login.symm.trans hl.login)⟩

/-- What the sign-in reads as an optional text, a list reads as a required one. -/
theorem decode_text_iff {j : Json} {key : String} {text : Option String}
    (h : j.decodeIfPresent Json.decodeString key = some text) :
    (∃ s, j.decode Json.decodeString key = some s) ↔ j.Present key := by
  rw [← Json.isSome_iff_present h, Json.decode_of_decodeIfPresent rfl h, Option.isSome_iff_exists]

/-- **A user who can sign in can be a user of a room** exactly with picture and
nickname. -/
theorem joinUserInfo_isSome_iff {j : Json} {login : GetLogin}
    (h : GetLogin.decode j = some login) :
    (JoinUserInfo.decode j).isSome ↔ j.Present "image_address" ∧ j.Present "nickname" := by
  obtain ⟨hkeys, hfirebase, himage, hnick⟩ := GetLogin.decode_eq_some.mp h
  rw [← decode_text_iff himage, ← decode_text_iff hnick, Option.isSome_iff_exists]
  constructor
  · rintro ⟨u, hu⟩
    obtain ⟨-, -, hi, hn⟩ := JoinUserInfo.decode_eq_some.mp hu
    exact ⟨⟨_, hi⟩, ⟨_, hn⟩⟩
  · rintro ⟨⟨image, hi⟩, nick, hn⟩
    exact ⟨⟨login.pk, login.age, login.gender, login.subToken, login.firebaseToken, image, nick,
      login.login⟩, JoinUserInfo.decode_eq_some.mpr ⟨hkeys, hfirebase, hi, hn⟩⟩

/-- **`getRoomUser` reads a user who can sign in** exactly with a picture. -/
theorem getRoomUser_isSome_iff {j : Json} {login : GetLogin}
    (h : GetLogin.decode j = some login) :
    (GetRoomUser.decode j).isSome ↔ j.Present "image_address" := by
  obtain ⟨hkeys, hfirebase, himage, hnick⟩ := GetLogin.decode_eq_some.mp h
  rw [← decode_text_iff himage, Option.isSome_iff_exists]
  constructor
  · rintro ⟨u, hu⟩
    obtain ⟨-, -, hi, -⟩ := GetRoomUser.decode_eq_some.mp hu
    exact ⟨_, hi⟩
  · rintro ⟨image, hi⟩
    exact ⟨⟨login.pk, login.subToken, login.firebaseToken, login.gender, login.age, image,
      login.nickName, login.login⟩, GetRoomUser.decode_eq_some.mpr ⟨hkeys, hfirebase, hi, hnick⟩⟩

/-- **A user who can sign in can be a friend** exactly with push token, picture and
nickname. -/
theorem getConnetionData_isSome_iff {j : Json} {login : GetLogin}
    (h : GetLogin.decode j = some login) :
    (GetConnetionData.decode j).isSome ↔
      j.Present "firebase_token" ∧ j.Present "image_address" ∧ j.Present "nickname" := by
  obtain ⟨hkeys, hfirebase, himage, hnick⟩ := GetLogin.decode_eq_some.mp h
  rw [← decode_text_iff hfirebase, ← decode_text_iff himage, ← decode_text_iff hnick,
    Option.isSome_iff_exists]
  constructor
  · rintro ⟨u, hu⟩
    obtain ⟨-, hf, hi, hn⟩ := GetConnetionData.decode_eq_some.mp hu
    exact ⟨⟨_, hf⟩, ⟨_, hi⟩, ⟨_, hn⟩⟩
  · rintro ⟨⟨token, hf⟩, ⟨image, hi⟩, nick, hn⟩
    exact ⟨⟨login.pk, login.gender, login.age, login.subToken, token, image, nick, login.login⟩,
      GetConnetionData.decode_eq_some.mpr ⟨hkeys, hf, hi, hn⟩⟩

/-- **The decoders agree** on a user who can sign in. -/
def DecodersAgree (j : Json) (login : GetLogin) : Prop :=
  (∃ u, JoinUserInfo.decode j = some u ∧ u.Agrees login) ∧
    ∃ u, GetConnetionData.decode j = some u ∧ u.Agrees login

/-- Push token, picture and nickname are there. -/
def FullyDescribed (j : Json) : Prop :=
  j.Present "firebase_token" ∧ j.Present "image_address" ∧ j.Present "nickname"

instance (j : Json) : Decidable (FullyDescribed j) := inferInstanceAs (Decidable (_ ∧ _ ∧ _))

theorem decodersAgree_iff {j : Json} {login : GetLogin} (h : GetLogin.decode j = some login) :
    DecodersAgree j login ↔ FullyDescribed j := by
  constructor
  · rintro ⟨-, u, hu, -⟩
    exact (getConnetionData_isSome_iff h).mp (Option.isSome_iff_exists.mpr ⟨u, hu⟩)
  · intro hfull
    obtain ⟨u, hu⟩ := Option.isSome_iff_exists.mp ((joinUserInfo_isSome_iff h).mpr hfull.2)
    obtain ⟨v, hv⟩ := Option.isSome_iff_exists.mp ((getConnetionData_isSome_iff h).mpr hfull)
    exact ⟨⟨u, hu, joinUserInfo_agrees h hu⟩, v, hv, getConnetionData_agrees h hv⟩

/-! ### Rooms -/

/-- The users of a room, as objects. -/
def usersOf (j : Json) : List Json :=
  match j.field "user_list" with
  | some (.array users) => users
  | _ => []

/-- **A room whose fields are well typed**, with users who can sign in. -/
structure IsRoom (j : Json) : Prop where
  keys : ∃ room, RoomKeys j room
  users : j.field "user_list" = some (.array (usersOf j))
  logins : ∀ u ∈ usersOf j, (GetLogin.decode u).isSome

/-- A room of the list is the room of the reply: its fields, and its users one by one. -/
structure ShowsRoom (j : Json) (room : GetRoomInfo) : Prop where
  keys : RoomKeys j room
  users : List.Forall₂ (fun u info => ∃ login, GetLogin.decode u = some login ∧
    JoinUserInfo.Agrees info login) (usersOf j) room.userList

/-- Every user of a room has a picture and a nickname. -/
def UsersShown (j : Json) : Prop :=
  ∀ u ∈ usersOf j, u.Present "image_address" ∧ u.Present "nickname"

instance (j : Json) : Decidable (UsersShown j) :=
  inferInstanceAs (Decidable (∀ u ∈ usersOf j, _))

/-- A room that is decoded is shown. -/
theorem showsRoom_of_decode {j : Json} (hj : IsRoom j) {room : GetRoomInfo}
    (h : GetRoomInfo.decode j = some room) : ShowsRoom j room := by
  obtain ⟨hkeys, husers⟩ := GetRoomInfo.decode_eq_some.mp h
  obtain ⟨v, hv, husers⟩ := Json.decode_eq_some.mp husers
  obtain rfl := Option.some.inj (hj.users.symm.trans hv)
  obtain ⟨users, heq, hall⟩ := Json.decodeArray_eq_some.mp husers
  obtain rfl := Json.array.inj heq
  refine ⟨hkeys, List.Forall₂.imp ?_ ((List.forall₂_and_left _ _).mpr ⟨hj.logins, hall⟩)⟩
  rintro u info ⟨hlogin, hu⟩
  obtain ⟨login, hlogin⟩ := Option.isSome_iff_exists.mp hlogin
  exact ⟨login, hlogin, joinUserInfo_agrees hlogin hu⟩

/-- **A room is decoded** exactly if all its users have picture and nickname. -/
theorem getRoomInfo_isSome_iff {j : Json} (hj : IsRoom j) :
    (GetRoomInfo.decode j).isSome ↔ UsersShown j := by
  have husers : (Json.decodeArray JoinUserInfo.decode (.array (usersOf j))).isSome ↔
      UsersShown j := by
    rw [Json.isSome_decodeArray]
    refine forall₂_congr fun u hu => ?_
    obtain ⟨login, hlogin⟩ := Option.isSome_iff_exists.mp (hj.logins u hu)
    exact joinUserInfo_isSome_iff hlogin
  rw [← husers, Option.isSome_iff_exists, Option.isSome_iff_exists]
  constructor
  · rintro ⟨room, hroom⟩
    obtain ⟨v, hv, hlist⟩ := Json.decode_eq_some.mp (GetRoomInfo.decode_eq_some.mp hroom).2
    obtain rfl := Option.some.inj (hj.users.symm.trans hv)
    exact ⟨_, hlist⟩
  · rintro ⟨userList, hlist⟩
    obtain ⟨room, hkeys⟩ := hj.keys
    refine ⟨{ room with userList := userList }, GetRoomInfo.decode_eq_some.mpr ⟨?_, ?_⟩⟩
    · exact { hkeys with }
    · exact Json.decode_eq_some.mpr ⟨_, hj.users, hlist⟩

/-- The home list after a reply of `getRoom`. -/
def listAfter (js : List Json) (m : SharedModels) : List GetRoomInfo :=
  Effect.after (Loader.getRoom.effects (.body (.array js))) m .gameList

theorem listAfter_eq (js : List Json) (m : SharedModels) :
    listAfter js m = (Json.decodeArray GetRoomInfo.decode (.array js)).getD (m .gameList) := by
  rw [listAfter, Loader.effects, Loader.callback, Loader.getRoomCallback, storing, decoding,
    if_pos (by rfl)]
  cases Json.decodeArray GetRoomInfo.decode (.array js) with
  | none => rfl
  | some rooms => rfl

/-- **The home list becomes the list of all rooms** exactly if every user of every room
has a picture and a nickname. -/
theorem getRoom_shows_iff {js : List Json} (hjs : ∀ j ∈ js, IsRoom j) :
    (∀ m, List.Forall₂ ShowsRoom js (listAfter js m)) ↔ ∀ j ∈ js, UsersShown j := by
  have hdecode : (Json.decodeArray GetRoomInfo.decode (.array js)).isSome ↔
      ∀ j ∈ js, UsersShown j := by
    rw [Json.isSome_decodeArray]
    exact forall₂_congr fun j hj => getRoomInfo_isSome_iff (hjs j hj)
  rw [← hdecode]
  constructor
  · intro hshows
    by_contra hnone
    rw [Option.not_isSome_iff_eq_none] at hnone
    -- the reply does not decode: an empty list stays empty, so there was no room to decode
    have hempty := hshows .initial
    rw [listAfter_eq, hnone, Option.getD_none] at hempty
    obtain rfl : js = [] := List.forall₂_nil_right_iff.mp hempty
    exact absurd hnone nofun
  · intro hsome m
    obtain ⟨rooms, hrooms⟩ := Option.isSome_iff_exists.mp hsome
    rw [listAfter_eq, hrooms, Option.getD_some]
    obtain ⟨js', heq, hall⟩ := Json.decodeArray_eq_some.mp hrooms
    obtain rfl := Json.array.inj heq
    refine List.Forall₂.imp ?_ ((List.forall₂_and_left _ _).mpr ⟨hjs, hall⟩)
    rintro j room ⟨hj, hroom⟩
    exact showsRoom_of_decode hj hroom

/-- **When the decoders of a user agree, and no user hides the rooms**: on an object that
the sign-in accepts exactly if it has a push token, a picture and a nickname; and a reply
of well-typed rooms, with users whom the sign-in accepts, becomes the home list, room by
room, exactly if all of them have a picture and a nickname. -/
theorem users_agree_iff {u : Json} {login : GetLogin} (hu : GetLogin.decode u = some login)
    {js : List Json} (hjs : ∀ j ∈ js, IsRoom j) :
    (DecodersAgree u login ↔ FullyDescribed u) ∧
      ((∀ m, List.Forall₂ ShowsRoom js (listAfter js m)) ↔ ∀ j ∈ js, UsersShown j) :=
  ⟨decodersAgree_iff hu, getRoom_shows_iff hjs⟩

/-- A user with a nickname, and the push token and picture given. -/
def userObject (firebaseToken imageAddress : Json) : Json :=
  .object [("pk", .number 1 0), ("token", .string "105"), ("firebase_token", firebaseToken),
    ("gender", .number 0 0), ("age", .number 29 0), ("image_address", imageAddress),
    ("nickname", .string "Faker"), ("login", .bool false)]

/-- A room with the users given. -/
def roomObject (users : List Json) : Json :=
  .object [("pk", .number 1 0), ("room_name", .string "Join Us"),
    ("game_name", .string "league of legends"), ("people_number", .number 3 0),
    ("start_date", .string "2021-09-03 14:25:00"), ("created_at", .string "2021-09-01 08:22:56"),
    ("voice_chat", .bool true), ("lowest_tier", .number 2 0), ("highest_tier", .number 6 0),
    ("is_start", .number 0 0), ("now_people_cnt", .number 2 0), ("leader_pk", .number 1 0),
    ("room_manner", .number 10 0), ("user_list", .array users)]

/-- A room of users who can sign in is a room. -/
theorem isRoom_roomObject {users : List Json} (h : ∀ u ∈ users, (GetLogin.decode u).isSome) :
    IsRoom (roomObject users) where
  keys := ⟨⟨1, "Join Us", "league of legends", 3, "2021-09-03 14:25:00", "2021-09-01 08:22:56",
    true, 2, 6, 0, 2, 1, 10, []⟩, rfl, rfl, rfl, rfl, rfl, rfl, rfl, rfl, rfl, rfl, rfl, rfl, rfl⟩
  users := rfl
  logins := h

/-- **A user without a picture, who can sign in, hides all rooms**: the reply has a room
with that user and one without any, and the home list stays as it was. -/
theorem noPicture_hides_rooms :
    (GetLogin.decode (userObject .null .null)).isSome ∧
      (∀ login, ¬DecodersAgree (userObject .null .null) login) ∧
      (∀ j ∈ [roomObject [], roomObject [userObject .null .null]], IsRoom j) ∧
      ¬∀ m, List.Forall₂ ShowsRoom [roomObject [], roomObject [userObject .null .null]]
        (listAfter [roomObject [], roomObject [userObject .null .null]] m) := by
  have hlogin : (GetLogin.decode (userObject .null .null)).isSome := by decide
  have hrooms : ∀ j ∈ [roomObject [], roomObject [userObject .null .null]], IsRoom j := by
    rw [List.forall_mem_cons, List.forall_mem_singleton]
    exact ⟨isRoom_roomObject nofun, isRoom_roomObject (List.forall_mem_singleton.mpr hlogin)⟩
  refine ⟨hlogin, fun login hagree => ?_, hrooms, fun hshows => ?_⟩
  · obtain ⟨⟨info, hinfo, -⟩, -⟩ := hagree
    have hnone : JoinUserInfo.decode (userObject .null .null) = none := by rfl
    exact absurd (hnone.symm.trans hinfo) nofun
  · exact absurd ((getRoom_shows_iff hrooms).mp hshows) (by decide)

/-- A user with everything is read alike everywhere, and the user's room is shown. -/
theorem fullUser_agrees :
    ∃ login, GetLogin.decode (userObject (.string "a") (.string "aa")) = some login ∧
      DecodersAgree (userObject (.string "a") (.string "aa")) login ∧
      ∀ m, List.Forall₂ ShowsRoom [roomObject [userObject (.string "a") (.string "aa")]]
        (listAfter [roomObject [userObject (.string "a") (.string "aa")]] m) := by
  have hlogin : GetLogin.decode (userObject (.string "a") (.string "aa")) = some _ := rfl
  have hrooms : ∀ j ∈ [roomObject [userObject (.string "a") (.string "aa")]], IsRoom j :=
    List.forall_mem_singleton.mpr (isRoom_roomObject (List.forall_mem_singleton.mpr rfl))
  have hagree := users_agree_iff hlogin hrooms
  exact ⟨_, hlogin, hagree.1.mpr (by decide), hagree.2.mpr (by decide)⟩

end Joinus
