import Mathlib.Data.Int.Notation

/-!
# The user

The games and tiers a user can choose, and `MyInfoModel`, the shared record of the
user that sign-in, the wizard and the services write and everything else reads.
The lists of friends are left out: nothing that is modelled here reads them. So is
the picture, which nothing here writes: it has a model of its own
(`Joinus.Pictures`), with the subjects through which it comes.
-/

namespace Joinus

/-- `OnboardingModel.myGame`. -/
inductive MyGame where
  | lol
  | suddenAttack
  | overwatch
  | battleGround
  | mapleStory
  deriving DecidableEq

def MyGame.rawValue : MyGame → String
  | .lol => "lol"
  | .suddenAttack => "suddenAttack"
  | .overwatch => "overwatch"
  | .battleGround => "battleGround"
  | .mapleStory => "mapleStory"

/-- `OnboardingModel.myTier`. -/
inductive MyTier where
  | iron
  | bronze
  | silver
  | gold
  | platinum
  | diamond
  | master
  | challenger
  deriving DecidableEq

def MyTier.rawValue : MyTier → String
  | .iron => "iron"
  | .bronze => "bronze"
  | .silver => "silver"
  | .gold => "gold"
  | .platinum => "platinum"
  | .diamond => "diamond"
  | .master => "master"
  | .challenger => "challenger"

/-- `MyInfoModel`. -/
@[ext]
structure MyInfoModel where
  myAge : ℤ
  myGender : ℤ
  myGameID : String
  myTier : ℤ
  myProfileUrl : String
  subToken : String
  myPk : ℤ
  gameInfoPk : ℤ
  myGameName : String
  myMannerScore : ℤ
  deriving DecidableEq

/-- `MyInfoModel` at launch. -/
def MyInfoModel.initial : MyInfoModel where
  myAge := 0
  myGender := 0
  myGameID := ""
  myTier := 0
  myProfileUrl := ""
  subToken := ""
  myPk := 0
  gameInfoPk := 0
  myGameName := ""
  myMannerScore := 0

end Joinus
