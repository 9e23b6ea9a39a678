import Joinus.MyInfo
import Joinus.Room

/-!
# Sign-in

The replies of the three services that a sign-in calls one after the other, and what
they write into `MyInfoModel`. Each service runs the completion it was given only if
its reply decodes and passes a check of its own, and the next service is called from
there; a chain that stops on the way leaves what has been written so far, and the
login screen as it is.

| service | writes | goes on if |
|---|---|---|
| `signUp` | age, gender, nickname, key, token, picture | the reply decodes |
| `getGame` | key, game and its key, game name, tier | there is a first game, with a name in it |
| `getManner` | the manner score | there is one |

A user who has not signed in before is not asked for games and manners.
-/

namespace Joinus

/-- A reply of `signUp`. -/
structure GetLogin where
  age : ℤ
  gender : ℤ
  pk : ℤ
  firebaseToken : Option String
  imageAddress : Option String
  nickName : Option String
  subToken : String
  login : Bool

/-- An entry of a reply of `getGame`. -/
structure GetGame where
  gameInfoPk : ℤ
  userPk : ℤ
  gameName : String
  gameID : String
  tier : ℤ

/-- A reply of `getManner`. -/
structure GetManner where
  count : ℤ
  mannerScore : ℤ

namespace MyInfoModel

/-- `signUp`: the model after the reply, and what the completion is given. -/
def signUp (info : MyInfoModel) : Reply GetLogin → MyInfoModel × Option Bool
  | .decoded data =>
    ({ info with
        myAge := data.age
        myGameID := data.nickName.getD "noname"
        myGender := data.gender
        myPk := data.pk
        subToken := data.subToken
        myProfileUrl := data.imageAddress.getD "defaultProfile_60x60" }, some data.login)
  | .undecodable => (info, none)
  | .failure => (info, none)

/-- `getGame`: the model after the reply, and whether the completion runs. -/
def getGame (info : MyInfoModel) : Reply (List GetGame) → MyInfoModel × Bool
  | .decoded [] => (info, false)
  | .decoded (userGameInfo :: _) =>
    let info := { info with
      myPk := userGameInfo.userPk
      gameInfoPk := userGameInfo.gameInfoPk
      myGameID := userGameInfo.gameID
      myGameName := userGameInfo.gameName
      myTier := userGameInfo.tier }
    (info, !info.myGameID.isEmpty)
  | .undecodable => (info, false)
  | .failure => (info, false)

/-- `getManner`: the model after the reply, and whether the completion runs. -/
def getManner (info : MyInfoModel) : Reply GetManner → MyInfoModel × Bool
  | .decoded data =>
    if data.count = 1 then ({ info with myMannerScore := data.mannerScore }, true)
    else (info, false)
  | .undecodable => (info, false)
  | .failure => (info, false)

/-- `LoginViewController.didTapButtonAction`, from the token on: the model after the
chain, and whether the window is changed. The replies of services that are not
called are not looked at. -/
def didTapButtonAction (info : MyInfoModel) (login : Reply GetLogin)
    (game : Reply (List GetGame)) (manner : Reply GetManner) : MyInfoModel × Bool :=
  match info.signUp login with
  | (info, none) => (info, false)
  | (info, some false) => (info, true)
  | (info, some true) =>
    match info.getGame game with
    | (info, false) => (info, false)
    | (info, true) => info.getManner manner

end MyInfoModel

end Joinus
