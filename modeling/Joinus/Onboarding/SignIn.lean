import Joinus.Onboarding.Wizard

/-!
# Where a sign-in leads

The chain of sign-in as its nested completions: each service runs the completion it is
given, or ends the chain. Nothing else follows an end – no alert, no other window – and
the user stays on the login screen. The model of the chain that the wizard uses
(`Joinus.MyInfoModel.didTapButtonAction`) is this one
(`Joinus.SignIn.didTapButtonAction_eq`), with the window changes only counted.

A user who signs in for the first time gets to the wizard at once. One who has signed in
before is asked for games and manners, and three checks on the way let only those
through who have a first game, with a name in it, and one manner record
(`Joinus.SignIn.windows_didTapButtonAction`).
-/

namespace Joinus

/-- A sign-in on its way: the model, and the windows that have been changed to. -/
structure SignIn where
  info : MyInfoModel
  windows : List Window

namespace SignIn

/-- `LoginService.signUp`, with its completion. -/
def signUp (s : SignIn) (reply : Reply GetLogin) (completion : Bool → SignIn → SignIn) : SignIn :=
  match s.info.signUp reply with
  | (info, some isLogin) => completion isLogin { s with info := info }
  | (info, none) => { s with info := info }

/-- `GameService.getGame`, with its completion. -/
def getGame (s : SignIn) (reply : Reply (List GetGame)) (completion : SignIn → SignIn) : SignIn :=
  match s.info.getGame reply with
  | (info, true) => completion { s with info := info }
  | (info, false) => { s with info := info }

/-- `MannerService.getManner`, with its completion. -/
def getManner (s : SignIn) (reply : Reply GetManner) (completion : SignIn → SignIn) : SignIn :=
  match s.info.getManner reply with
  | (info, true) => completion { s with info := info }
  | (info, false) => { s with info := info }

/-- `changeWindow.change`, to the first step of a new wizard. -/
def changeWindow (s : SignIn) : SignIn := { s with windows := s.windows ++ [.wizard .opened] }

/-- `LoginViewController.didTapButtonAction`, from the token on. -/
def didTapButtonAction (s : SignIn) (login : Reply GetLogin) (game : Reply (List GetGame))
    (manner : Reply GetManner) : SignIn :=
  s.signUp login fun isLogin s =>
    if isLogin then s.getGame game fun s => s.getManner manner fun s => s.changeWindow
    else s.changeWindow

/-- **The chain is that of the wizard.** -/
theorem didTapButtonAction_eq (s : SignIn) (login : Reply GetLogin) (game : Reply (List GetGame))
    (manner : Reply GetManner) :
    s.didTapButtonAction login game manner =
      { info := (s.info.didTapButtonAction login game manner).1
        windows := s.windows ++
          if (s.info.didTapButtonAction login game manner).2 then [.wizard .opened] else [] } := by
  rw [didTapButtonAction, signUp, MyInfoModel.didTapButtonAction]
  obtain ⟨info, isLogin⟩ := s.info.signUp login
  cases isLogin with
  | none => simp
  | some isLogin =>
    cases isLogin with
    | false => simp [changeWindow]
    | true =>
      cases hgame : info.getGame game with
      | mk info loaded =>
        cases loaded with
        | false => simp [getGame, hgame]
        | true =>
          cases hmanner : info.getManner manner with
          | mk info loaded =>
            cases loaded <;> simp [getGame, hgame, getManner, hmanner, changeWindow]

/-- The replies that no check stops. -/
def Leads (login : GetLogin) (games : List GetGame) (manner : GetManner) : Prop :=
  login.login = true → (∃ game ∈ games.head?, game.gameID ≠ "") ∧ manner.count = 1

instance (login : GetLogin) (games : List GetGame) (manner : GetManner) :
    Decidable (Leads login games manner) :=
  inferInstanceAs (Decidable (_ → (∃ game ∈ games.head?, game.gameID ≠ "") ∧ _))

theorem changes_iff_leads (info : MyInfoModel) (login : GetLogin) (games : List GetGame)
    (manner : GetManner) :
    (info.didTapButtonAction (.decoded login) (.decoded games) (.decoded manner)).2 = true ↔
      Leads login games manner := by
  rw [Leads, MyInfoModel.didTapButtonAction, MyInfoModel.signUp]
  cases login.login with
  | false => simp
  | true =>
    cases games with
    | nil => simp [MyInfoModel.getGame]
    | cons game games =>
      cases hid : game.gameID.isEmpty with
      | true =>
        have hempty : game.gameID = "" := String.isEmpty_iff.mp hid
        simp only [MyInfoModel.getGame, hid, Bool.not_true]
        simp [hempty]
      | false =>
        have hname : game.gameID ≠ "" := fun h => by simp [h] at hid
        by_cases hcount : manner.count = 1
        · simp [MyInfoModel.getGame, MyInfoModel.getManner, hid, hname, hcount]
        · simp [MyInfoModel.getGame, MyInfoModel.getManner, hid, hname, hcount]

/-- **Where a completed sign-in leads**: to the wizard, with one change of the window, if
the user is new, or has a first game with a name and one manner record; and nowhere
otherwise. -/
theorem windows_didTapButtonAction (s : SignIn) (login : GetLogin) (games : List GetGame)
    (manner : GetManner) :
    (s.didTapButtonAction (.decoded login) (.decoded games) (.decoded manner)).windows =
      s.windows ++ if Leads login games manner then [.wizard .opened] else [] := by
  rw [didTapButtonAction_eq]
  simp only [changes_iff_leads]

/-- **A user without games stays where he is**, although all replies have come. -/
theorem noGames_staysAtLogin :
    ((⟨.initial, []⟩ : SignIn).didTapButtonAction
      (.decoded ⟨30, 1, 42, none, none, some "kim", "token42", true⟩) (.decoded [])
      (.decoded ⟨1, 5⟩)).windows.length ≠ 1 := by
  decide

end SignIn

end Joinus
