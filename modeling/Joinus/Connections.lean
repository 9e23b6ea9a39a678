import Joinus.Base.Run
import Joinus.Chat.Row
import Joinus.Service.Decoders

/-!
# Friends and the blacklist

The own page pushes a screen for the friends of the user and one for the blacklist. The
two are copies of each other. A screen is made for each tap on its row; when it is loaded
it puts its table where the shared model finds it, and asks the server for its list. The
list is in the shared model and outlives the screen, and so does the request: a reply
finds the screen that has sent it, on top or left long ago, writes the shared list, reloads
the table of the *last* screen of that kind, and then its completion looks whether the list
is empty – and if it is, hides the table of *its own* screen and shows a picture there.
Nothing ever takes the picture away.

| reply | writes the list | completes |
|---|---|---|
| decodes, with count 1 | yes | yes |
| decodes, with another count | – | – |
| does not decode | – | yes |
| none | – | – |

Two things are asked of the screen on top:

* does its table have the rows of the list? In every run
  (`Joinus.Connections.rows_shown`), though a row whose picture cannot be loaded ends
  the app when it is made;
* is the picture there exactly if the list is empty? Under a condition on the replies
  (`Joinus.Connections.emptiness_shown_iff`).
-/

namespace Joinus

open Base

/-! ### The screens -/

/-- What changes in a `MyFriendViewContrller` or a `MyBlackListViewController`: the number
of rows that its table has asked for, and which of table and picture is hidden. -/
structure ConnectionScreen where
  isFriend : Bool
  rowCount : ℕ
  tableViewIsHidden : Bool
  noCountImageViewIsHidden : Bool
  deriving DecidableEq

/-- The lists of `MyInfoModel` – `getFriend` at `true`, `getBlackList` at `false` – with
the screens whose tables are its `friendTableView` and `blackListTableView`; the screens by
their numbers, of which `created` have been given out; the one that is on top of the own
page; and the screens whose requests have not been answered. -/
structure Connections where
  connections : Bool → List GetConnetionData
  tableView : Bool → Option ℕ
  screen : ℕ → ConnectionScreen
  created : ℕ
  top : Option ℕ
  pending : List ℕ

/-- A screen that has just been made for a list. -/
def ConnectionScreen.made (isFriend : Bool) (connections : List GetConnetionData) :
    ConnectionScreen :=
  ⟨isFriend, connections.length, false, true⟩

/-- `MyInfoModel` at launch: the tables are not on any screen. -/
def Connections.launched : Connections where
  connections _ := []
  tableView _ := none
  screen _ := .made true []
  created := 0
  top := none
  pending := []

inductive ConnectionAction where
  /-- `MyInfoViewController.tableView(_:didSelectRowAt:)`, for one of the first two rows. -/
  | didSelectRow (isFriend : Bool)
  /-- The left button of the screen. -/
  | popViewController
  /-- The request of a screen is answered. -/
  | reply (number : ℕ) (r : Reply GetConnetion)

/-- What a reply has for the list. -/
def Reply.stored : Reply GetConnetion → Option (List GetConnetionData)
  | .decoded data => if data.count = 1 then some data.data else none
  | .undecodable => none
  | .failure => none

/-- The completion is called. -/
def Reply.completes : Reply GetConnetion → Bool
  | .decoded data => data.count = 1
  | .undecodable => true
  | .failure => false

/-- What is stored is reported. -/
theorem Reply.completes_of_stored {r : Reply GetConnetion} {data : List GetConnetionData}
    (h : r.stored = some data) : r.completes = true := by
  rcases r with reply | - | -
  · rw [stored] at h
    split_ifs at h with hcount
    exact decide_eq_true hcount
  · rfl
  · exact absurd h nofun

namespace Connections

/-- `reloadData`, of the table that the shared model has for a list. -/
def reloadData (s : Connections) (isFriend : Bool) : Connections :=
  match s.tableView isFriend with
  | none => s
  | some number =>
    { s with
      screen := Function.update s.screen number
        { s.screen number with rowCount := (s.connections isFriend).length } }

/-- A list is assigned, and its `didSet` runs. -/
def setConnections (s : Connections) (isFriend : Bool) (data : List GetConnetionData) :
    Connections :=
  reloadData { s with connections := Function.update s.connections isFriend data } isFriend

/-- The completion that `viewDidLoad` gives to `getConnection`. -/
def complete (s : Connections) (number : ℕ) : Connections :=
  if (s.connections (s.screen number).isFriend).isEmpty then
    { s with
      screen := Function.update s.screen number
        { s.screen number with tableViewIsHidden := true, noCountImageViewIsHidden := false } }
  else s

/-- `getConnection`, when it is answered for a screen. -/
def answer (s : Connections) (number : ℕ) : Reply GetConnetion → Connections
  | .decoded data =>
    if data.count = 1 then
      (s.setConnections (s.screen number).isFriend data.data).complete number
    else s
  -- the completion is called in the `catch` branch too
  | .undecodable => s.complete number
  | .failure => s

/-- A new screen: `loadView` puts its table into the shared model, `viewDidLoad` sends the
request, and the table takes its rows from the list as it is. -/
def didSelectRow (s : Connections) (isFriend : Bool) : Connections where
  connections := s.connections
  tableView := Function.update s.tableView isFriend (some s.created)
  screen := Function.update s.screen s.created (.made isFriend (s.connections isFriend))
  created := s.created + 1
  top := some s.created
  pending := s.pending ++ [s.created]

/-- A row of the own page can be tapped while nothing lies over it. -/
def step (s : Connections) : ConnectionAction → Option Connections
  | .didSelectRow isFriend => if s.top = none then some (s.didSelectRow isFriend) else none
  | .popViewController => if s.top = none then none else some { s with top := none }
  | .reply number r =>
    if number ∈ s.pending then
      some (answer { s with pending := s.pending.erase number } number r)
    else none

/-! ### The rows -/

/-- A `FriendTableViewCell`. -/
structure FriendTableViewCell (Image : Type) where
  nickNameLabel : String
  profileImageView : Image

/-- `MyBlackListViewController.imageDownLoad`, which does what `DownLoad.imageURL` does. -/
def imageDownLoad {Image : Type} (load : String → Option Image) (url : String) : Option Image :=
  if url = "" then none else load url

/-- `tableView(_:cellForRowAt:)` of a screen: `none` is a crash, of an index that is out of
range or of a picture that cannot be had. -/
def cellForRowAt {Image : Type} (load : String → Option Image) (s : Connections) (number row : ℕ) :
    Option (FriendTableViewCell Image) :=
  match (s.connections (s.screen number).isFriend)[row]? with
  | none => none
  | some getConnection =>
    let image :=
      if (s.screen number).isFriend then imageURL load getConnection.imageAddress
      else imageDownLoad load getConnection.imageAddress
    image.map fun image => ⟨getConnection.nickName, image⟩

/-! ### What a step can do -/

variable {s t : Connections} {number top : ℕ} {isFriend : Bool} {r : Reply GetConnetion}

theorem step_didSelectRow (h : s.step (.didSelectRow isFriend) = some t) :
    s.top = none ∧ t = s.didSelectRow isFriend := by
  rw [step] at h
  split_ifs at h with htop
  exact ⟨htop, (Option.some.inj h).symm⟩

theorem step_pop (h : s.step .popViewController = some t) : t = { s with top := none } := by
  rw [step] at h
  split_ifs at h
  exact (Option.some.inj h).symm

theorem step_reply (h : s.step (.reply number r) = some t) :
    number ∈ s.pending ∧ t = answer { s with pending := s.pending.erase number } number r := by
  rw [step] at h
  split_ifs at h with hmem
  exact ⟨hmem, (Option.some.inj h).symm⟩

/-- What a reloading leaves alone. -/
theorem reloadData_frame (s : Connections) (isFriend : Bool) :
    (s.reloadData isFriend).connections = s.connections ∧
      (s.reloadData isFriend).tableView = s.tableView ∧
      (s.reloadData isFriend).created = s.created ∧ (s.reloadData isFriend).top = s.top ∧
      (s.reloadData isFriend).pending = s.pending := by
  rw [reloadData]
  split <;> exact ⟨rfl, rfl, rfl, rfl, rfl⟩

/-- A reloading changes the number of rows of one table. -/
theorem screen_reloadData (s : Connections) (isFriend : Bool) (number : ℕ) :
    (s.reloadData isFriend).screen number =
      { s.screen number with
        rowCount :=
          if s.tableView isFriend = some number then (s.connections isFriend).length
          else (s.screen number).rowCount } := by
  rw [reloadData]
  split
  · next hnone => simp [hnone]
  · next other hother =>
    rcases eq_or_ne number other with rfl | hne
    · simp [hother]
    · simp [hother, hne, hne.symm]

/-- What a completion leaves alone. -/
theorem complete_frame (s : Connections) (number : ℕ) :
    (s.complete number).connections = s.connections ∧
      (s.complete number).tableView = s.tableView ∧
      (s.complete number).created = s.created ∧ (s.complete number).top = s.top ∧
      (s.complete number).pending = s.pending := by
  rw [complete]
  split_ifs <;> exact ⟨rfl, rfl, rfl, rfl, rfl⟩

/-- A completion changes nothing on the other screens. -/
theorem screen_complete_of_ne (s : Connections) {other : ℕ} (h : other ≠ number) :
    (s.complete number).screen other = s.screen other := by
  rw [complete]
  split_ifs
  · exact Function.update_of_ne h _ _
  · rfl

/-- **What a completion shows**: the picture instead of the table, where the list is empty. -/
theorem screen_complete_self (s : Connections) (number : ℕ) :
    (s.complete number).screen number =
      if s.connections (s.screen number).isFriend = [] then
        { s.screen number with tableViewIsHidden := true, noCountImageViewIsHidden := false }
      else s.screen number := by
  rw [complete]
  simp only [List.isEmpty_iff]
  split_ifs
  · exact Function.update_self _ _ _
  · rfl

/-- **What an answer does**, by what the reply has for the list and whether it completes. -/
theorem answer_eq (s : Connections) (number : ℕ) (r : Reply GetConnetion) :
    s.answer number r =
      match r.stored with
      | some data => (s.setConnections (s.screen number).isFriend data).complete number
      | none => if r.completes then s.complete number else s := by
  rcases r with data | - | -
  · by_cases hcount : data.count = 1
    · simp [answer, Reply.stored, hcount]
    · simp [answer, Reply.stored, Reply.completes, hcount]
  · rfl
  · rfl

/-- An answer leaves the screens where they are. -/
theorem answer_frame (s : Connections) (number : ℕ) (r : Reply GetConnetion) :
    (s.answer number r).tableView = s.tableView ∧ (s.answer number r).created = s.created ∧
      (s.answer number r).top = s.top ∧ (s.answer number r).pending = s.pending := by
  rw [answer_eq]
  split
  · next data _ =>
    obtain ⟨-, htable, hcreated, htop, hpending⟩ :=
      complete_frame (s.setConnections (s.screen number).isFriend data) number
    obtain ⟨-, htable', hcreated', htop', hpending'⟩ :=
      reloadData_frame { s with
        connections := Function.update s.connections (s.screen number).isFriend data }
        (s.screen number).isFriend
    exact ⟨htable.trans htable', hcreated.trans hcreated', htop.trans htop',
      hpending.trans hpending'⟩
  · split_ifs
    · exact (complete_frame s number).2
    · exact ⟨rfl, rfl, rfl, rfl⟩

/-- **The lists after an answer**: what the reply has for the list of its screen, and
otherwise what there was. -/
theorem connections_answer (s : Connections) (number : ℕ) (r : Reply GetConnetion) :
    (s.answer number r).connections =
      match r.stored with
      | some data => Function.update s.connections (s.screen number).isFriend data
      | none => s.connections := by
  rw [answer_eq]
  split
  · rw [(complete_frame _ number).1]
    exact (reloadData_frame _ _).1
  · split_ifs
    · exact (complete_frame s number).1
    · rfl

/-- A screen that an answer is not for gets the new rows, if it has the stored table. -/
theorem screen_answer_of_ne (s : Connections) {other : ℕ} (h : other ≠ number)
    (r : Reply GetConnetion) :
    (s.answer number r).screen other =
      { s.screen other with
        rowCount :=
          match r.stored with
          | some data =>
            if s.tableView (s.screen number).isFriend = some other then data.length
            else (s.screen other).rowCount
          | none => (s.screen other).rowCount } := by
  rw [answer_eq]
  cases hr : r.stored with
  | some data =>
    dsimp only
    rw [screen_complete_of_ne _ h, setConnections, screen_reloadData]
    simp only [Function.update_self]
  | none =>
    dsimp only
    split_ifs
    · exact screen_complete_of_ne s h
    · rfl

/-- **The screen that an answer is for**: it gets the new rows, if it has the stored table,
and the picture, if the reply completes and the list is empty then. -/
theorem screen_answer_self (s : Connections) (number : ℕ) (r : Reply GetConnetion) :
    (s.answer number r).screen number =
      let list := (s.answer number r).connections (s.screen number).isFriend
      let shown : ConnectionScreen :=
        { s.screen number with
          rowCount :=
            match r.stored with
            | some data =>
              if s.tableView (s.screen number).isFriend = some number then data.length
              else (s.screen number).rowCount
            | none => (s.screen number).rowCount }
      if r.completes ∧ list = [] then
        { shown with tableViewIsHidden := true, noCountImageViewIsHidden := false }
      else shown := by
  dsimp only
  rw [connections_answer, answer_eq]
  cases hr : r.stored with
  | some data =>
    dsimp only
    rw [screen_complete_self, setConnections, screen_reloadData, (reloadData_frame _ _).1]
    simp only [Function.update_self, Reply.completes_of_stored hr, true_and]
  | none =>
    dsimp only
    by_cases hcompletes : r.completes
    · rw [if_pos hcompletes, screen_complete_self]
      simp only [hcompletes, true_and]
    · simp only [hcompletes, Bool.false_eq_true, if_false, false_and]

/-- What the screen that an answer is for hides. -/
theorem hidden_answer_self (s : Connections) (number : ℕ) (r : Reply GetConnetion) :
    ((s.answer number r).screen number).tableViewIsHidden =
        (if r.completes ∧ (s.answer number r).connections (s.screen number).isFriend = [] then true
        else (s.screen number).tableViewIsHidden) ∧
      ((s.answer number r).screen number).noCountImageViewIsHidden =
        if r.completes ∧ (s.answer number r).connections (s.screen number).isFriend = [] then false
        else (s.screen number).noCountImageViewIsHidden := by
  rw [screen_answer_self]
  by_cases hempty : r.completes ∧ (s.answer number r).connections (s.screen number).isFriend = []
  · simp only [if_pos hempty, and_self]
  · simp only [if_neg hempty, and_self]

/-- An answer does not change the kind of a screen. -/
theorem isFriend_answer (s : Connections) (number : ℕ) (r : Reply GetConnetion) (other : ℕ) :
    ((s.answer number r).screen other).isFriend = (s.screen other).isFriend := by
  rcases eq_or_ne other number with rfl | hne
  · rw [screen_answer_self]
    dsimp only
    split_ifs <;> rfl
  · rw [screen_answer_of_ne s hne]

/-- **The tables of the shared model follow its lists**, through any answer. -/
theorem rowCount_answer (s : Connections) (number : ℕ) (r : Reply GetConnetion) {other : ℕ}
    (hkind : ∀ {isFriend}, s.tableView isFriend = some other → (s.screen other).isFriend = isFriend)
    (htable : s.tableView isFriend = some other)
    (hcount : (s.screen other).rowCount = (s.connections isFriend).length) :
    ((s.answer number r).screen other).rowCount =
      ((s.answer number r).connections isFriend).length := by
  have hrow : ((s.answer number r).screen other).rowCount =
      match r.stored with
      | some data =>
        if s.tableView (s.screen number).isFriend = some other then data.length
        else (s.screen other).rowCount
      | none => (s.screen other).rowCount := by
    rcases eq_or_ne other number with rfl | hne
    · rw [screen_answer_self]
      dsimp only
      split_ifs <;> rfl
    · rw [screen_answer_of_ne s hne]
  rw [hrow, connections_answer]
  rcases r.stored with - | data
  · exact hcount
  · dsimp only
    rcases eq_or_ne isFriend (s.screen number).isFriend with rfl | hne
    · rw [if_pos htable, Function.update_self]
    · have hnot : s.tableView (s.screen number).isFriend ≠ some other := fun h =>
        hne ((hkind htable).symm.trans (hkind h))
      rw [if_neg hnot, Function.update_of_ne hne]
      exact hcount

/-! ### The rows of the screen on top -/

/-- **The screens in order**: the tables of the shared model belong to screens of their kind
and have the rows of their lists, the screen on top has such a table, and a screen whose
request has not been answered shows its table. -/
structure InOrder (s : Connections) : Prop where
  made : ∀ {isFriend number}, s.tableView isFriend = some number → number < s.created
  kind : ∀ {isFriend number}, s.tableView isFriend = some number →
    (s.screen number).isFriend = isFriend
  rows : ∀ {isFriend number}, s.tableView isFriend = some number →
    (s.screen number).rowCount = (s.connections isFriend).length
  shown : ∀ {number}, s.top = some number →
    s.tableView (s.screen number).isFriend = some number
  nodup : s.pending.Nodup
  waiting : ∀ {number}, number ∈ s.pending → number < s.created
  fresh : ∀ {number}, number ∈ s.pending →
    (s.screen number).tableViewIsHidden = false ∧ (s.screen number).noCountImageViewIsHidden = true

theorem inOrder_launched : InOrder launched where
  made := nofun
  kind := nofun
  rows := nofun
  shown := nofun
  nodup := List.nodup_nil
  waiting := nofun
  fresh := nofun

theorem inOrder_didSelectRow (hs : s.InOrder) (isFriend : Bool) :
    (s.didSelectRow isFriend).InOrder := by
  -- a screen that was there before is not the new one
  have hold : ∀ {number}, number < s.created →
      (s.didSelectRow isFriend).screen number = s.screen number := fun hlt =>
    Function.update_of_ne hlt.ne _ _
  have hnew : (s.didSelectRow isFriend).screen s.created =
      .made isFriend (s.connections isFriend) := Function.update_self _ _ _
  have htable : ∀ {isFriend' number}, (s.didSelectRow isFriend).tableView isFriend' = some number →
      isFriend' = isFriend ∧ number = s.created ∨ s.tableView isFriend' = some number := by
    intro isFriend' number h
    change Function.update s.tableView isFriend (some s.created) isFriend' = some number at h
    rcases eq_or_ne isFriend' isFriend with rfl | hne
    · rw [Function.update_self] at h
      exact Or.inl ⟨rfl, (Option.some.inj h).symm⟩
    · rw [Function.update_of_ne hne] at h
      exact Or.inr h
  have hwaiting : ∀ {number}, number ∈ (s.didSelectRow isFriend).pending →
      number ∈ s.pending ∨ number = s.created := fun h => by
    simpa [didSelectRow] using h
  constructor
  · intro isFriend' number h
    rcases htable h with ⟨-, rfl⟩ | h
    · exact Nat.lt_succ_self _
    · exact Nat.lt_succ_of_lt (hs.made h)
  · intro isFriend' number h
    rcases htable h with ⟨rfl, rfl⟩ | h
    · rw [hnew]
      rfl
    · rw [hold (hs.made h)]
      exact hs.kind h
  · intro isFriend' number h
    rcases htable h with ⟨rfl, rfl⟩ | h
    · rw [hnew]
      rfl
    · rw [hold (hs.made h)]
      exact hs.rows h
  · intro number h
    obtain rfl : s.created = number := Option.some.inj h
    rw [hnew]
    exact Function.update_self _ _ _
  · refine List.nodup_append.mpr ⟨hs.nodup, List.nodup_singleton _, fun m hm n hn => ?_⟩
    rw [List.mem_singleton.mp hn]
    exact (hs.waiting hm).ne
  · intro number h
    rcases hwaiting h with h | rfl
    · exact Nat.lt_succ_of_lt (hs.waiting h)
    · exact Nat.lt_succ_self _
  · intro number h
    rcases hwaiting h with h | rfl
    · rw [hold (hs.waiting h)]
      exact hs.fresh h
    · rw [hnew]
      exact ⟨rfl, rfl⟩

theorem inOrder_answer (hs : s.InOrder) (hnot : number ∉ s.pending) (r : Reply GetConnetion) :
    (s.answer number r).InOrder := by
  obtain ⟨htable, hcreated, htop, hpending⟩ := answer_frame s number r
  constructor
  · intro isFriend other h
    rw [htable] at h
    rw [hcreated]
    exact hs.made h
  · intro isFriend other h
    rw [htable] at h
    rw [isFriend_answer]
    exact hs.kind h
  · intro isFriend other h
    rw [htable] at h
    exact rowCount_answer s number r hs.kind h (hs.rows h)
  · intro other h
    rw [htop] at h
    rw [htable, isFriend_answer]
    exact hs.shown h
  · rw [hpending]
    exact hs.nodup
  · intro other h
    rw [hpending] at h
    rw [hcreated]
    exact hs.waiting h
  · intro other h
    rw [hpending] at h
    have hne : other ≠ number := by
      rintro rfl
      exact hnot h
    rw [screen_answer_of_ne s hne]
    exact hs.fresh h

/-- A request that is answered is not waited for. -/
theorem inOrder_erase (hs : s.InOrder) (number : ℕ) :
    InOrder { s with pending := s.pending.erase number } where
  made := hs.made
  kind := hs.kind
  rows := hs.rows
  shown := hs.shown
  nodup := hs.nodup.erase number
  waiting h := hs.waiting (List.mem_of_mem_erase h)
  fresh h := hs.fresh (List.mem_of_mem_erase h)

theorem inOrder_step (s : Connections) (a : ConnectionAction) (t : Connections) (hs : s.InOrder)
    (h : s.step a = some t) : t.InOrder := by
  cases a with
  | didSelectRow isFriend =>
    obtain ⟨-, rfl⟩ := step_didSelectRow h
    exact inOrder_didSelectRow hs isFriend
  | popViewController =>
    obtain rfl := step_pop h
    exact ⟨hs.made, hs.kind, hs.rows, nofun, hs.nodup, hs.waiting, hs.fresh⟩
  | reply number r =>
    obtain ⟨-, rfl⟩ := step_reply h
    exact inOrder_answer (inOrder_erase hs number) (hs.nodup.not_mem_erase) r

/-- **The screen on top shows the list of its kind**: in every run, its table has as many
rows as the list has entries, and each row is that of the entry at its place – so that no
row is read past the end of the list, and a row cannot be had, which ends the app, exactly
if the picture of its entry cannot be loaded. -/
theorem rows_shown {Image : Type} {load : String → Option Image} {as : List ConnectionAction}
    (hr : run step launched as = some s) (htop : s.top = some number) :
    (s.screen number).rowCount = (s.connections (s.screen number).isFriend).length ∧
      ∀ row < (s.screen number).rowCount,
        ∃ getConnection ∈ (s.connections (s.screen number).isFriend)[row]?,
          cellForRowAt load s number row =
              ((imageURL load getConnection.imageAddress).map fun image =>
                ⟨getConnection.nickName, image⟩) ∧
            (cellForRowAt load s number row = none ↔
              imageURL load getConnection.imageAddress = none) := by
  have hs := run_invariant inOrder_step inOrder_launched hr
  have hrows := hs.rows (hs.shown htop)
  refine ⟨hrows, fun row hrow => ?_⟩
  rw [hrows] at hrow
  have hcell : cellForRowAt load s number row =
      (imageURL load (s.connections (s.screen number).isFriend)[row].imageAddress).map fun image =>
        ⟨(s.connections (s.screen number).isFriend)[row].nickName, image⟩ := by
    rw [cellForRowAt, List.getElem?_eq_getElem hrow]
    dsimp only
    split_ifs <;> rfl
  refine ⟨_, List.getElem?_eq_getElem hrow, hcell, ?_⟩
  rw [hcell, Option.map_eq_none_iff]

/-- Two screens of friends are opened one after the other; the reply to the first comes
last. -/
def friendsTwice (first second : Reply GetConnetion) : List ConnectionAction :=
  [.didSelectRow true, .popViewController, .didSelectRow true, .reply 1 second, .reply 0 first]

/-- Two friends. -/
def twoFriends : List GetConnetionData :=
  [⟨2, 0, 20, "", "", "a", "Faker", true⟩, ⟨3, 1, 21, "", "", "b", "Score", true⟩]

/-- A friend is shown whose list has come for a screen that has been left. -/
theorem friendsTwice_rows :
    ∃ s, run step launched
        (friendsTwice (.decoded ⟨"", 1, twoFriends⟩) (.decoded ⟨"", 1, []⟩)) = some s ∧
      (s.screen 1).rowCount = 2 ∧
        cellForRowAt some s 1 0 = some (⟨"Faker", "a"⟩ : FriendTableViewCell String) := by
  have hr : run step launched
      (friendsTwice (.decoded ⟨"", 1, twoFriends⟩) (.decoded ⟨"", 1, []⟩)) = some _ := rfl
  obtain ⟨hrows, hcells⟩ := @rows_shown _ 1 String some _ hr rfl
  obtain ⟨getConnection, hget, hcell, -⟩ := hcells 0 (by decide)
  obtain rfl : _ = getConnection := Option.some.inj hget
  exact ⟨_, hr, hrows, hcell⟩

/-! ### The picture of an empty list -/

/-- **The screen on top shows whether its list is empty**, once its request has been
answered: the picture instead of the table exactly if it is. -/
def EmptinessShown (s : Connections) : Prop :=
  ∀ number ∈ s.top, number ∉ s.pending →
    ((s.screen number).tableViewIsHidden = true ↔
        s.connections (s.screen number).isFriend = []) ∧
      ((s.screen number).noCountImageViewIsHidden = false ↔
        s.connections (s.screen number).isFriend = [])

/-- **The replies do not mislead the screen on top**: a reply to its own request completes,
unless its list has entries anyway; and a late one, to a screen that has been left, leaves an
empty list empty and a list with entries one with entries. -/
def KeepsEmptiness (s : Connections) : ConnectionAction → Prop
  | .reply number r =>
    ∀ top ∈ s.top,
      if number = top then r.completes = true ∨ s.connections (s.screen top).isFriend ≠ []
      else
        top ∉ s.pending → (s.screen number).isFriend = (s.screen top).isFriend →
          ∀ data ∈ r.stored, data = [] ↔ s.connections (s.screen top).isFriend = []
  | _ => True

instance (s : Connections) : ∀ a, Decidable (s.KeepsEmptiness a)
  | .reply number r =>
    inferInstanceAs (Decidable (∀ top ∈ s.top,
      if number = top then r.completes = true ∨ s.connections (s.screen top).isFriend ≠ []
      else
        top ∉ s.pending → (s.screen number).isFriend = (s.screen top).isFriend →
          ∀ data ∈ r.stored, data = [] ↔ s.connections (s.screen top).isFriend = []))
  | .didSelectRow _ | .popViewController => isTrue trivial

/-- **The reply to the screen on top**, which shows its table until then. -/
theorem emptinessShown_answer_self (htop : s.top = some number) (hnot : number ∉ s.pending)
    (htable : (s.screen number).tableViewIsHidden = false)
    (himage : (s.screen number).noCountImageViewIsHidden = true) (r : Reply GetConnetion) :
    (s.answer number r).EmptinessShown ↔
      r.completes = true ∨ s.connections (s.screen number).isFriend ≠ [] := by
  obtain ⟨-, -, htop', hpending'⟩ := answer_frame s number r
  have hshown : (s.answer number r).EmptinessShown ↔
      (r.completes = true ∨ (s.answer number r).connections (s.screen number).isFriend ≠ []) := by
    rw [EmptinessShown, htop', htop, hpending']
    simp only [Option.mem_def, Option.some.injEq, forall_eq', hnot, not_false_eq_true,
      true_implies]
    obtain ⟨htable', himage'⟩ := hidden_answer_self s number r
    rw [isFriend_answer, htable', himage', htable, himage]
    by_cases hlist : (s.answer number r).connections (s.screen number).isFriend = []
    · by_cases hcompletes : r.completes <;> simp [hlist, hcompletes]
    · simp [hlist]
  rw [hshown, connections_answer]
  rcases hstored : r.stored with - | data
  · exact Iff.rfl
  · exact iff_of_true (Or.inl (Reply.completes_of_stored hstored))
      (Or.inl (Reply.completes_of_stored hstored))

/-- **A late reply**, to a screen that has been left. -/
theorem emptinessShown_answer_of_ne (htop : s.top = some top) (hne : number ≠ top)
    (hshown : s.EmptinessShown) (r : Reply GetConnetion) :
    (s.answer number r).EmptinessShown ↔
      (top ∉ s.pending → (s.screen number).isFriend = (s.screen top).isFriend →
        ∀ data ∈ r.stored, data = [] ↔ s.connections (s.screen top).isFriend = []) := by
  obtain ⟨-, -, htop', hpending'⟩ := answer_frame s number r
  rw [EmptinessShown, htop', htop, hpending']
  simp only [Option.mem_def, Option.some.injEq, forall_eq']
  refine forall_congr' fun hnot => ?_
  obtain ⟨htable, himage⟩ := hshown top htop hnot
  rw [isFriend_answer, screen_answer_of_ne s hne.symm, connections_answer]
  rcases r.stored with - | data
  · exact iff_of_true ⟨htable, himage⟩ fun _ => nofun
  · dsimp only
    rw [htable, himage]
    rcases eq_or_ne (s.screen number).isFriend (s.screen top).isFriend with hkind | hkind
    · rw [hkind, Function.update_self]
      simp only [true_implies, Option.some.injEq, forall_eq', and_self]
      exact iff_comm
    · rw [Function.update_of_ne hkind.symm]
      exact iff_of_true ⟨Iff.rfl, Iff.rfl⟩ fun h => absurd h hkind

theorem emptinessShown_step_iff (s : Connections) (a : ConnectionAction) (t : Connections)
    (hs : s.InOrder) (hshown : s.EmptinessShown) (h : s.step a = some t) :
    t.EmptinessShown ↔ s.KeepsEmptiness a := by
  cases a with
  | didSelectRow isFriend =>
    -- the new screen waits for its list
    obtain ⟨-, rfl⟩ := step_didSelectRow h
    refine iff_of_true (fun number hnumber hnot => absurd ?_ hnot) trivial
    obtain rfl : s.created = number := Option.some.inj hnumber
    exact List.mem_append_right _ List.mem_cons_self
  | popViewController =>
    obtain rfl := step_pop h
    exact iff_of_true nofun trivial
  | reply number r =>
    obtain ⟨hmem, rfl⟩ := step_reply h
    obtain htop | ⟨top, htop⟩ := Option.eq_none_or_eq_some s.top
    · refine iff_of_true (fun n hn => ?_) (fun n hn => ?_)
      · rw [(answer_frame _ number r).2.2.1] at hn
        exact absurd (htop.symm.trans hn) nofun
      · exact absurd (htop.symm.trans hn) nofun
    · have hkeeps : s.KeepsEmptiness (.reply number r) ↔
          if number = top then r.completes = true ∨ s.connections (s.screen top).isFriend ≠ []
          else
            top ∉ s.pending → (s.screen number).isFriend = (s.screen top).isFriend →
              ∀ data ∈ r.stored, data = [] ↔ s.connections (s.screen top).isFriend = [] := by
        rw [KeepsEmptiness, htop]
        simp only [Option.mem_def, Option.some.injEq, forall_eq']
      rw [hkeeps]
      rcases eq_or_ne number top with rfl | hne
      · rw [if_pos rfl]
        obtain ⟨htable, himage⟩ := hs.fresh hmem
        exact emptinessShown_answer_self (s := { s with pending := s.pending.erase number }) htop
          hs.nodup.not_mem_erase htable himage r
      · rw [if_neg hne]
        have hpending : top ∉ s.pending.erase number ↔ top ∉ s.pending :=
          not_congr (List.mem_erase_of_ne hne.symm)
        rw [emptinessShown_answer_of_ne (s := { s with pending := s.pending.erase number }) htop
          hne (fun n hn hnot => ?_) r]
        · exact imp_congr_left hpending
        · obtain rfl : top = n := Option.some.inj (htop.symm.trans hn)
          exact hshown top htop (hpending.mp hnot)

/-- **When the screens tell an empty list**: throughout a run, the screen on top shows the
picture instead of its table exactly if its list is empty – once its own request has been
answered – if and only if no reply along the run misleads it. -/
theorem emptiness_shown_iff {as : List ConnectionAction} (hr : run step launched as = some s) :
    Throughout step EmptinessShown launched as ↔ Along step KeepsEmptiness launched as :=
  throughout_iff_along inOrder_step emptinessShown_step_iff inOrder_launched nofun hr

/-- A late list misleads: the friends are there, and the screen shows that there are none. -/
example :
    ¬Along step KeepsEmptiness launched
      (friendsTwice (.decoded ⟨"", 1, twoFriends⟩) (.decoded ⟨"", 1, []⟩)) := by
  decide

/-- Two lists with friends in them do not mislead. -/
theorem friendsTwice_told :
    ∃ s, run step launched
        (friendsTwice (.decoded ⟨"", 1, twoFriends.tail⟩) (.decoded ⟨"", 1, twoFriends⟩)) = some s ∧
      Throughout step EmptinessShown launched
        (friendsTwice (.decoded ⟨"", 1, twoFriends.tail⟩) (.decoded ⟨"", 1, twoFriends⟩)) := by
  have hr : run step launched
      (friendsTwice (.decoded ⟨"", 1, twoFriends.tail⟩) (.decoded ⟨"", 1, twoFriends⟩)) =
        some _ := rfl
  exact ⟨_, hr, (emptiness_shown_iff hr).mpr (by decide)⟩

end Connections

end Joinus
