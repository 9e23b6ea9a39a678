import Joinus.Service.Completion
import Joinus.Service.Users

/-!
# An account, written and read back

Two services write the account of a user to the server, `putOnboarding` the user and
`putGame` the game, and the sign-in on any device reads both, with `signUp` and `getGame`.
The four were written one by one, and do not agree on everything: the token that is written
as `sub` is read as `token`; the picture and the push token that are written are not the
user's but two constants; the key that `signUp` reads for the user is overwritten by the one
that `getGame` reads.

| of the account | written by | after the next sign-in |
|---|---|---|
| age, gender | `putOnboarding` | the same |
| name | both, under two keys | the same |
| key, game, its key, tier | `putGame` | the same |
| picture | – | the address `testImgAddress` |
| token | `putOnboarding` | what the server has as `token` |

The calls of the two that write are commented out, on the profile screen and on the screen
for editing it; this file is about what they would do. An account survives
(`Joinus.account_comes_back`), on every device and whatever the model had before: all of it
but the token and the picture, which are not written or not read. And a user who has been
written so is described in full, whence none of the lists in which the user occurs – the
users of a room, in two descriptions, and the friends – fails to be decoded for that reason
(`Joinus.decodersAgree_iff`, `Joinus.getRoomUser_isSome_iff`).
-/

namespace Joinus

open Base

/-! ### What is written -/

/-- The parameters of `putOnboarding`. -/
def MyInfoModel.putOnboarding (info : MyInfoModel) : Json :=
  .object [("age", .ofInt info.myAge), ("firebase_token", .string "testFirebaseToken"),
    ("gender", .ofInt info.myGender), ("image_address", .string "testImgAddress"),
    ("nickname", .string info.myGameID), ("sub", .string info.subToken)]

/-- The parameters of `putGame`, and of `postGame`. -/
def MyInfoModel.putGame (info : MyInfoModel) : Json :=
  .object [("game_id", .string info.myGameID), ("name", .string info.myGameName),
    ("pk", .ofInt info.gameInfoPk), ("tier", .ofInt info.myTier), ("user_pk", .ofInt info.myPk)]

/-- The numbers of the user are integers of 64 bits. -/
structure MyInfoModel.Fits (info : MyInfoModel) : Prop where
  myAge : Json.IsInt64 info.myAge
  myGender : Json.IsInt64 info.myGender
  myTier : Json.IsInt64 info.myTier
  myPk : Json.IsInt64 info.myPk
  gameInfoPk : Json.IsInt64 info.gameInfoPk

/-- The keys of a user that are not written by `putOnboarding`; the user has an account. -/
structure AccountKeys (user : Json) (pk : ℤ) (token : String) : Prop where
  pk : user.decode Json.decodeInt "pk" = some pk
  token : user.decode Json.decodeString "token" = some token
  login : user.decode Json.decodeBool "login" = some true

/-- Two models have the account of one user. -/
structure MyInfoModel.SameAccount (info info' : MyInfoModel) : Prop where
  myAge : info.myAge = info'.myAge
  myGender : info.myGender = info'.myGender
  myGameID : info.myGameID = info'.myGameID
  myTier : info.myTier = info'.myTier
  myPk : info.myPk = info'.myPk
  gameInfoPk : info.gameInfoPk = info'.gameInfoPk
  myGameName : info.myGameName = info'.myGameName

/-! ### What is read -/

theorem GetGame.decode_eq_some {j : Json} {g : GetGame} :
    GetGame.decode j = some g ↔
      j.decode Json.decodeInt "pk" = some g.gameInfoPk ∧
        j.decode Json.decodeInt "user_pk" = some g.userPk ∧
        j.decode Json.decodeString "name" = some g.gameName ∧
        j.decode Json.decodeString "game_id" = some g.gameID ∧
        j.decode Json.decodeInt "tier" = some g.tier := by
  constructor
  · intro h
    simp only [decode, Option.bind_eq_bind, Option.bind_eq_some_iff, Option.pure_def,
      Option.some.injEq] at h
    obtain ⟨gameInfoPk, hpk, userPk, huserPk, gameName, hname, gameID, hgameID, tier, htier, rfl⟩ :=
      h
    exact ⟨hpk, huserPk, hname, hgameID, htier⟩
  · rintro ⟨hpk, huserPk, hname, hgameID, htier⟩
    simp only [decode, hpk, huserPk, hname, hgameID, htier, Option.bind_eq_bind, Option.bind_some,
      Option.pure_def]

/-- **A game comes back** with all it was written with. -/
theorem decode_putGame {info : MyInfoModel} (hinfo : info.Fits) {game : Json}
    (hgame : game.Extends info.putGame) :
    GetGame.decode game =
      some ⟨info.gameInfoPk, info.myPk, info.myGameName, info.myGameID, info.myTier⟩ :=
  GetGame.decode_eq_some.mpr
    ⟨hgame.decode (Json.decodeInt_ofInt hinfo.gameInfoPk),
      hgame.decode (Json.decodeInt_ofInt hinfo.myPk), hgame.decode rfl, hgame.decode rfl,
      hgame.decode (Json.decodeInt_ofInt hinfo.myTier)⟩

/-- **A user comes back**, with a picture and a push token that are nobody's. -/
theorem decode_putOnboarding {info : MyInfoModel} (hinfo : info.Fits) {user : Json}
    (huser : user.Extends info.putOnboarding) {pk : ℤ} {token : String}
    (hkeys : AccountKeys user pk token) :
    GetLogin.decode user =
      some ⟨info.myAge, info.myGender, pk, some "testFirebaseToken", some "testImgAddress",
        some info.myGameID, token, true⟩ :=
  GetLogin.decode_eq_some.mpr
    ⟨⟨hkeys.pk, huser.decode (Json.decodeInt_ofInt hinfo.myAge),
        huser.decode (Json.decodeInt_ofInt hinfo.myGender), hkeys.token, hkeys.login⟩,
      Json.decodeIfPresent_of_decode rfl (huser.decode rfl),
      Json.decodeIfPresent_of_decode rfl (huser.decode rfl),
      Json.decodeIfPresent_of_decode rfl (huser.decode rfl)⟩

/-- A user who has been written is described in full. -/
theorem fullyDescribed_putOnboarding {info : MyInfoModel} {user : Json}
    (huser : user.Extends info.putOnboarding) : FullyDescribed user := by
  have hpresent : ∀ key text, info.putOnboarding.field key = some (.string text) →
      user.Present key := by
    intro key text hfield
    rw [Json.Present, huser key _ hfield]
    rfl
  exact ⟨hpresent _ _ rfl, hpresent _ _ rfl, hpresent _ _ rfl⟩

/-! ### The next sign-in -/

/-- The manner is not part of the account. -/
theorem MyInfoModel.getManner_eq (info : MyInfoModel) (manner : Reply GetManner) :
    (info.getManner manner).1 =
      { info with myMannerScore := (info.getManner manner).1.myMannerScore } := by
  rcases manner with found | - | -
  · rw [getManner]
    split_ifs <;> rfl
  · rfl
  · rfl

theorem MyInfoModel.getManner_completes_iff (info : MyInfoModel) (manner : Reply GetManner) :
    (info.getManner manner).2 = true ↔ ∃ found, manner = .decoded found ∧ found.count = 1 := by
  rcases manner with found | - | -
  · simp only [Reply.decoded.injEq, exists_eq_left']
    rw [getManner]
    rcases eq_or_ne found.count 1 with hcount | hcount
    · rw [if_pos hcount]
      exact iff_of_true rfl hcount
    · rw [if_neg hcount]
      exact iff_of_false Bool.false_ne_true hcount
  · exact iff_of_false Bool.false_ne_true (by simp)
  · exact iff_of_false Bool.false_ne_true (by simp)

/-- **A sign-in with an account**: the model has it afterwards, whatever it had before, with
the token and the picture of the reply. -/
theorem MyInfoModel.didTapButtonAction_account (info info' : MyInfoModel) {login : GetLogin}
    {data : List GetGame} (hlogin : login.login = true) (hage : login.age = info.myAge)
    (hgender : login.gender = info.myGender) (manner : Reply GetManner) {after : MyInfoModel × Bool}
    (hafter : info'.didTapButtonAction (.decoded login)
      (.decoded (⟨info.gameInfoPk, info.myPk, info.myGameName, info.myGameID, info.myTier⟩ :: data))
      manner = after) :
    after.1.SameAccount info ∧ after.1.subToken = login.subToken ∧
      after.1.myProfileUrl = login.imageAddress.getD "defaultProfile_60x60" ∧
      (after.2 = true ↔
        info.myGameID ≠ "" ∧ ∃ found, manner = .decoded found ∧ found.count = 1) := by
  subst hafter
  simp only [didTapButtonAction, signUp, hlogin, getGame]
  rcases hname : info.myGameID.isEmpty with - | -
  · have hne : info.myGameID ≠ "" := fun h => by simp [h] at hname
    simp only [Bool.not_false]
    rw [getManner_completes_iff, and_iff_right hne, getManner_eq]
    exact ⟨⟨hage, hgender, rfl, rfl, rfl, rfl, rfl⟩, rfl, rfl, Iff.rfl⟩
  · have hempty : info.myGameID = "" := by simpa using hname
    simp only [Bool.not_true]
    exact ⟨⟨hage, hgender, rfl, rfl, rfl, rfl, rfl⟩, trivial, trivial,
      iff_of_false Bool.false_ne_true fun h => h.1 hempty⟩

/-- **An account comes back**: the user and the game of a model have been written, and the
server has them in objects with keys of its own, the game before any others. The sign-in on a
device with any model then leaves that device with the account, with the token that the
server has for the user and the picture that is written for everybody; it goes on to the
next screen exactly if the account has a name and the manner is found; and the users of a
room, in either description, and the friends are read like the sign-in reads the user. -/
theorem account_comes_back {info info' : MyInfoModel} (hinfo : info.Fits) {user game : Json}
    {games : List Json} {pk : ℤ} {token : String} (huser : user.Extends info.putOnboarding)
    (hkeys : AccountKeys user pk token) (hgame : game.Extends info.putGame)
    (hgames : ∀ g ∈ games, (GetGame.decode g).isSome) (manner : Reply GetManner) :
    ∃ login data after, (Response.body user).reply GetLogin.decode = .decoded login ∧
      (Response.body (.array (game :: games))).reply (Json.decodeArray GetGame.decode) =
        .decoded data ∧
      info'.didTapButtonAction (.decoded login) (.decoded data) manner = after ∧
      after.1.SameAccount info ∧ after.1.subToken = token ∧
      after.1.myProfileUrl = "testImgAddress" ∧
      (after.2 = true ↔
        info.myGameID ≠ "" ∧ ∃ found, manner = .decoded found ∧ found.count = 1) ∧
      DecodersAgree user login ∧ ∃ u, GetRoomUser.decode user = some u ∧ u.Agrees login := by
  have hlogin := decode_putOnboarding hinfo huser hkeys
  have hfull := fullyDescribed_putOnboarding huser
  obtain ⟨data, hdata⟩ : ∃ data, Json.decodeArray GetGame.decode (.array games) = some data :=
    Option.isSome_iff_exists.mp (Json.isSome_decodeArray.mpr hgames)
  have hall : Json.decodeArray GetGame.decode (.array (game :: games)) =
      some (⟨info.gameInfoPk, info.myPk, info.myGameName, info.myGameID, info.myTier⟩ :: data) := by
    rw [Json.decodeArray, Json.mapM_eq_some] at hdata ⊢
    exact .cons (decode_putGame hinfo hgame) hdata
  obtain ⟨haccount, htoken, hpicture, hcompletes⟩ :=
    @MyInfoModel.didTapButtonAction_account info info'
      ⟨info.myAge, info.myGender, pk, some "testFirebaseToken", some "testImgAddress",
        some info.myGameID, token, true⟩ data rfl rfl rfl manner _ rfl
  obtain ⟨u, hu⟩ := Option.isSome_iff_exists.mp ((getRoomUser_isSome_iff hlogin).mpr hfull.2.1)
  exact ⟨_, _, _, by rw [Response.reply, hlogin], by rw [Response.reply, hall], rfl, haccount,
    htoken, hpicture, hcompletes, (decodersAgree_iff hlogin).mpr hfull, u, hu,
    getRoomUser_agrees hlogin hu⟩

/-- An account. -/
def fakerAccount : MyInfoModel :=
  { MyInfoModel.initial with
    myAge := 29
    myGameID := "Faker"
    myTier := 7
    myPk := 4
    gameInfoPk := 9
    myGameName := "lol" }

/-- **The account is on a device that has just been unpacked.** -/
theorem fakerAccount_back :
    ∃ login data after,
      MyInfoModel.initial.didTapButtonAction (.decoded login) (.decoded data)
        (.decoded ⟨1, 12⟩) = after ∧
      after.1.SameAccount fakerAccount ∧ after.1.subToken = "109" ∧ after.2 = true := by
  have hfits : fakerAccount.Fits :=
    ⟨by decide, by decide, by decide, by decide, by decide⟩
  have hkeys : AccountKeys (.object [("age", .ofInt 29), ("firebase_token",
      .string "testFirebaseToken"), ("gender", .ofInt 0), ("image_address",
      .string "testImgAddress"), ("nickname", .string "Faker"), ("sub", .string ""),
      ("pk", .ofInt 4), ("token", .string "109"), ("login", .bool true)]) 4 "109" :=
    ⟨rfl, rfl, rfl⟩
  obtain ⟨login, data, after, -, -, hafter, haccount, htoken, -, hcompletes, -⟩ :=
    @account_comes_back fakerAccount .initial hfits _ _ [] 4 "109" (Json.extends_append _ _) hkeys
      (Json.extends_append _ []) (List.forall_mem_nil _) (.decoded ⟨1, 12⟩)
  exact ⟨login, data, after, hafter, haccount, htoken,
    hcompletes.mpr ⟨by decide, _, rfl, rfl⟩⟩

end Joinus
