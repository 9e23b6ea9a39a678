import Joinus.Connections
import Joinus.HomeList
import Joinus.MatchingTabs
import Joinus.Service.Atomic
import Joinus.Service.Completion

/-!
# Three kinds of screens over one store

The home list, My Matching and the screens of friends and blacklist have each been taken
by themselves, with a list of its own and with replies that have been decoded or have not.
In the source there is one store for all lists, a reply is a JSON value, and what is done
with it is the body of a callback: an assignment, which may have a `didSet`, and the call of
a completion that reads the store again. Here the screens are put over that store.

A state has the models, and of every screen what is its own; the lists that the screens
read are looked up in the models (`Joinus.SharedScreens.homeList`,
`Joinus.SharedScreens.matchingScreen`, `Joinus.SharedScreens.connectionScreens`). A reply is
answered by the body of the callback, with the models after it, and with the completion if
the body calls it. A callback that raises an exception ends the app.

**Each of the three machines runs by itself** (`Joinus.SharedScreens.run_refines`): a run of
all screens over the store is, for each kind of screen, a run of its machine, with the
actions of the others left out and with the replies as the decoder reads them. So nothing
that has been said of the three is lost when they share their models, whatever is answered
to whom and in what order. The exception is raised exactly by the replies that are neither
an array nor an object. Making the rows of the tables is not part of the steps; a start date
that cannot be read or a picture that cannot be loaded ends the app there
(`Joinus.Rooms.Start`, `Joinus.Connections`).
-/

namespace Joinus

open Base

/-! ### The store and the screens -/

/-- The models, and the screens; of each screen, what is stored in the models is not
looked at. -/
structure SharedScreens where
  models : SharedModels
  home : HomeList
  matching : MatchingScreen
  connections : Connections
  crashed : Bool

inductive SharedAction where
  /-- The home list. -/
  | pull
  | posted
  | getRoomReply (number : ℕ) (r : Response)
  /-- My Matching. -/
  | tapJoined
  | tapMade
  | selectRow (row : ℕ)
  | leaveChat
  | matchingReply (i : ℕ) (r : Response)
  /-- Friends and blacklist. -/
  | didSelectRow (isFriend : Bool)
  | popViewController
  | getConnectionReply (number : ℕ) (r : Response)

/-- The lists of friends and blacklist, in the models. -/
def SharedModels.connections (m : SharedModels) : Bool → List GetConnetionData
  | true => m .getFriend
  | false => m .getBlackList

/-- The loaders of My Matching are loaders. -/
def MatchingLoader.toLoader : MatchingLoader → Loader
  | .getJoinRoom => .getJoinRoom
  | .getMakeRoom => .getMakeRoom

/-- The decoder of the loaders of lists of rooms. -/
def decodeRooms (j : Json) : Option (List GetRoomInfo) := Json.decodeArray GetRoomInfo.decode j

namespace SharedScreens

/-- The home list, with its rooms. -/
def homeList (s : SharedScreens) : HomeList := { s.home with gameList := s.models .gameList }

/-- My Matching, with its rooms. -/
def matchingScreen (s : SharedScreens) : MatchingScreen :=
  { s.matching with matchingList := s.models .matchingList }

/-- The screens of friends and blacklist, with their lists. -/
def connectionScreens (s : SharedScreens) : Connections :=
  { s.connections with connections := s.models.connections }

def launched : SharedScreens where
  models := SharedModels.initial
  home := .loaded
  matching := .loaded
  connections := .launched
  crashed := false

/-- `getRoom`, when it is answered. -/
def answerGetRoom (s : SharedScreens) (number : ℕ) (caller : GetRoomCaller) (body : Body) :
    SharedScreens :=
  let s := { s with models := Effect.after body s.models }
  if Loader.Completes body then
    { s with home := ({ s.homeList with heldFrom := some number } : HomeList).complete caller }
  else s

/-- `getJoinRoom` or `getMakeRoom`, when it is answered. -/
def answerMatching (s : SharedScreens) (c : MatchingCall) (body : Body) : SharedScreens :=
  let s := { s with models := Effect.after body s.models }
  if Loader.Completes body then
    { s with
      matching :=
        ({ s.matchingScreen with loadedBy := some c.loader } : MatchingScreen).complete c }
  else s

/-- `getConnection`, when it is answered for a screen: an assignment reloads the table of
its list. -/
def answerGetConnection (s : SharedScreens) (number : ℕ) (body : Body) : SharedScreens :=
  let models : SharedModels := Effect.after body s.models
  let screens : Connections := { s.connections with connections := models.connections }
  let screens :=
    if Effect.assigned body = [] then screens
    else screens.reloadData (s.connections.screen number).isFriend
  { s with
    models := models
    connections := if Loader.Completes body then screens.complete number else screens }

/-- What an action does while the app runs. -/
def act (s : SharedScreens) : SharedAction → Option SharedScreens
  | .pull => (s.homeList.step .pull).map fun home => { s with home := home }
  | .posted => (s.homeList.step .posted).map fun home => { s with home := home }
  | .getRoomReply number r =>
    match s.home.pending.lookup number with
    | none => none
    | some caller =>
      match Loader.getRoom.callback r with
      | none => some { s with crashed := true }
      | some body =>
        some (answerGetRoom
          { s with
            home := { s.home with pending := s.home.pending.filter fun c => c.1 ≠ number } }
          number caller body)
  | .tapJoined => (s.matchingScreen.next .tapJoined).map fun matching => { s with matching }
  | .tapMade => (s.matchingScreen.next .tapMade).map fun matching => { s with matching }
  | .selectRow row =>
    (s.matchingScreen.next (.selectRow row)).map fun matching => { s with matching }
  | .leaveChat => (s.matchingScreen.next .leaveChat).map fun matching => { s with matching }
  | .matchingReply i r =>
    match s.matching.pending[i]? with
    | none => none
    | some c =>
      match c.loader.toLoader.callback r with
      | none => some { s with crashed := true }
      | some body =>
        some (answerMatching
          { s with matching := { s.matching with pending := s.matching.pending.eraseIdx i } }
          c body)
  | .didSelectRow isFriend =>
    (s.connectionScreens.step (.didSelectRow isFriend)).map fun connections =>
      { s with connections }
  | .popViewController =>
    (s.connectionScreens.step .popViewController).map fun connections => { s with connections }
  | .getConnectionReply number r =>
    if number ∈ s.connections.pending then
      match (Loader.getConnection (s.connections.screen number).isFriend).callback r with
      | none => some { s with crashed := true }
      | some body =>
        some (answerGetConnection
          { s with
            connections :=
              { s.connections with pending := s.connections.pending.erase number } }
          number body)
    else none

def step (s : SharedScreens) (a : SharedAction) : Option SharedScreens :=
  if s.crashed then none else s.act a

end SharedScreens

/-! ### What the screens see of an action -/

/-- A reply that raises the exception. -/
def Response.Raises : Response → Prop
  | .body j => isValidJSONObject j = false
  | .failure => False

instance : DecidablePred Response.Raises
  | .body j => inferInstanceAs (Decidable (isValidJSONObject j = false))
  | .failure => isFalse id

namespace SharedAction

/-- The actions of the home list. -/
def home : SharedAction → List HomeAction
  | .pull => [.pull]
  | .posted => [.posted]
  | .getRoomReply number r => if r.Raises then [] else [.reply number (r.reply decodeRooms)]
  | _ => []

/-- The actions of My Matching. -/
def matching : SharedAction → List MatchingAction
  | .tapJoined => [.tapJoined]
  | .tapMade => [.tapMade]
  | .selectRow row => [.selectRow row]
  | .leaveChat => [.leaveChat]
  | .matchingReply i r => if r.Raises then [] else [.reply i (r.reply decodeRooms)]
  | _ => []

/-- The actions of friends and blacklist. -/
def connections : SharedAction → List ConnectionAction
  | .didSelectRow isFriend => [.didSelectRow isFriend]
  | .popViewController => [.popViewController]
  | .getConnectionReply number r =>
    if r.Raises then [] else [.reply number (r.reply GetConnetion.decode)]
  | _ => []

/-- The action is a reply that raises the exception. -/
def Raises : SharedAction → Prop
  | .getRoomReply _ r | .matchingReply _ r | .getConnectionReply _ r => r.Raises
  | _ => False

instance : DecidablePred Raises
  | .getRoomReply _ r | .matchingReply _ r | .getConnectionReply _ r =>
    inferInstanceAs (Decidable r.Raises)
  | .pull | .posted | .tapJoined | .tapMade | .selectRow _ | .leaveChat | .didSelectRow _
  | .popViewController => isFalse id

end SharedAction

/-! ### Callbacks -/

variable {r : Response} {body : Body} {m : SharedModels} {f : Field} {l : Loader}

theorem decoding_eq_none_iff {α : Type} {decode : Json → Option α} {loaded : α → Body}
    {caught : Body} : decoding decode loaded caught r = none ↔ r.Raises := by
  constructor
  · intro h
    cases r with
    | body j => exact Loader.decoding_eq_none h
    | failure => exact absurd h (by simp [decoding])
  · intro h
    cases r with
    | body j => rw [decoding, if_neg (by rw [show isValidJSONObject j = false from h]; simp)]
    | failure => exact absurd h id

theorem callback_eq_none_iff : l.callback r = none ↔ r.Raises := by
  cases l <;> exact decoding_eq_none_iff

theorem not_raises_of_callback (h : l.callback r = some body) : ¬r.Raises := by
  rw [← callback_eq_none_iff (l := l), h]
  simp

/-- The fields that a loader does not own keep their values. -/
theorem after_of_callback (h : l.callback r = some body) (hf : f ∉ l.fields) :
    Effect.after body m f = m f :=
  (ServiceCall.atomic_after (c := .load l) h m).eq_of_notMem hf

/-- **What a callback that stores a list of rooms does**, by the reply as it is decoded. -/
theorem storing_cases {α : Type} {decode : Json → Option α} {value : α → f.Value}
    (h : storing decode f value r = some body) :
    (∃ data, r.reply decode = .decoded data ∧
        body = [.assign f (value data), .call .plain]) ∨
      ((r.reply decode = .undecodable ∨ r.reply decode = .failure) ∧ body = []) :=
  reply_of_decoding h

/-- **What `getConnection` does**, by the reply as it is decoded. -/
theorem getConnection_cases {isFriend : Bool}
    (h : (Loader.getConnection isFriend).callback r = some body) :
    (∃ data, (r.reply GetConnetion.decode).stored = some data ∧
        body = Loader.storeConnection isFriend data ++ [.call .plain]) ∨
      ((r.reply GetConnetion.decode).stored = none ∧
        body = if (r.reply GetConnetion.decode).completes then [.call .plain] else []) := by
  rcases Loader.decoding_cases h with ⟨j, data, rfl, hj, rfl⟩ | ⟨j, rfl, -, hj, rfl⟩ | ⟨rfl, rfl⟩
  · have hreply : Response.reply GetConnetion.decode (.body j) = .decoded data := by
      rw [Response.reply, hj]
    rw [hreply]
    by_cases hcount : data.count = 1
    · exact Or.inl ⟨data.data, by simp [Reply.stored, hcount], by simp [hcount]⟩
    · exact Or.inr ⟨by simp [Reply.stored, hcount], by simp [Reply.completes, hcount]⟩
  · have hreply : Response.reply GetConnetion.decode (.body j) = .undecodable := by
      rw [Response.reply, hj]
    rw [hreply]
    exact Or.inr ⟨rfl, rfl⟩
  · exact Or.inr ⟨rfl, rfl⟩

theorem connections_after_storeConnection (isFriend : Bool) (data : List GetConnetionData) :
    SharedModels.connections
        (Effect.after (Loader.storeConnection isFriend data ++ [.call .plain]) m) =
      Function.update m.connections isFriend data := by
  cases isFriend with
  | false =>
    funext b
    cases b <;> rfl
  | true =>
    funext b
    cases b <;> rfl

theorem completes_stored (f : Field) (v : f.Value) :
    Loader.Completes [.assign f v, .call .plain] :=
  List.mem_singleton.mpr rfl

theorem not_completes_nil : ¬Loader.Completes [] := List.not_mem_nil

theorem completes_storeConnection (isFriend : Bool) (data : List GetConnetionData) :
    Loader.Completes (Loader.storeConnection isFriend data ++ [.call .plain]) := by
  cases isFriend with
  | false => exact List.mem_singleton.mpr rfl
  | true => exact List.mem_singleton.mpr rfl

theorem assigned_storeConnection (isFriend : Bool) (data : List GetConnetionData) :
    Effect.assigned (Loader.storeConnection isFriend data ++ [.call .plain]) ≠ [] := by
  cases isFriend with
  | false => exact List.cons_ne_nil _ _
  | true => exact List.cons_ne_nil _ _

namespace SharedScreens

variable {s t : SharedScreens}

/-! ### What a reply leaves alone

The models after a reply are those after the body of the callback; the screens of the other
kinds are as before. -/

theorem answerGetRoom_frame (s : SharedScreens) (number : ℕ) (caller : GetRoomCaller)
    (body : Body) :
    (s.answerGetRoom number caller body).models = Effect.after body s.models ∧
      (s.answerGetRoom number caller body).matching = s.matching ∧
      (s.answerGetRoom number caller body).connections = s.connections ∧
      (s.answerGetRoom number caller body).crashed = s.crashed := by
  rw [answerGetRoom]
  dsimp only
  split_ifs <;> exact ⟨rfl, rfl, rfl, rfl⟩

theorem answerMatching_frame (s : SharedScreens) (c : MatchingCall) (body : Body) :
    (s.answerMatching c body).models = Effect.after body s.models ∧
      (s.answerMatching c body).home = s.home ∧
      (s.answerMatching c body).connections = s.connections ∧
      (s.answerMatching c body).crashed = s.crashed := by
  rw [answerMatching]
  dsimp only
  split_ifs <;> exact ⟨rfl, rfl, rfl, rfl⟩

theorem answerGetConnection_frame (s : SharedScreens) (number : ℕ) (body : Body) :
    (s.answerGetConnection number body).models = Effect.after body s.models ∧
      (s.answerGetConnection number body).home = s.home ∧
      (s.answerGetConnection number body).matching = s.matching ∧
      (s.answerGetConnection number body).crashed = s.crashed := by
  rw [answerGetConnection]
  exact ⟨rfl, rfl, rfl, rfl⟩

/-! ### Answers, one kind of screen at a time -/

theorem homeList_answerGetRoom (number : ℕ) (caller : GetRoomCaller)
    (h : Loader.getRoom.callback r = some body) :
    (s.answerGetRoom number caller body).homeList =
      s.homeList.answer number caller (r.reply decodeRooms) := by
  have hstoring : storing decodeRooms .gameList id r = some body := h
  rcases storing_cases hstoring with ⟨data, hreply, rfl⟩ | ⟨hreply, rfl⟩
  · rw [hreply, HomeList.answer, answerGetRoom, if_pos (completes_stored _ _)]
    cases caller <;> rfl
  · rw [answerGetRoom, if_neg not_completes_nil]
    rcases hreply with hreply | hreply
    · rw [hreply]
      rfl
    · rw [hreply]
      rfl

/-! Where the list of a screen is what the models have, nothing is to be looked up. -/

theorem matching_with_self {matching : MatchingScreen} {data : List GetRoomInfo}
    (h : matching.matchingList = data) : { matching with matchingList := data } = matching := by
  rw [← h]

theorem connections_with_self {c : Connections} {data : Bool → List GetConnetionData}
    (h : c.connections = data) : { c with connections := data } = c := by
  rw [← h]

/-- The list does not change when the views do. -/
theorem matchingList_complete (matching : MatchingScreen) (c : MatchingCall) :
    (matching.complete c).matchingList = matching.matchingList := by
  cases c <;>
    simp only [MatchingScreen.complete, MatchingScreen.setupView, MatchingScreen.showList] <;>
    split_ifs <;> rfl

theorem matchingScreen_answerMatching (c : MatchingCall)
    (h : c.loader.toLoader.callback r = some body) :
    (s.answerMatching c body).matchingScreen =
      s.matchingScreen.answer c (r.reply decodeRooms) := by
  have hstoring : storing decodeRooms .matchingList id r = some body := by
    cases c <;> exact h
  rcases storing_cases hstoring with ⟨data, hreply, rfl⟩ | ⟨hreply, rfl⟩
  · rw [hreply, MatchingScreen.answer, answerMatching, if_pos (completes_stored _ _)]
    -- the list that is looked up afterwards is the one that has been stored
    exact matching_with_self (matchingList_complete
      { s.matchingScreen with matchingList := data, loadedBy := some c.loader } c)
  · rw [answerMatching, if_neg not_completes_nil]
    rcases hreply with hreply | hreply
    · rw [hreply]
      rfl
    · rw [hreply]
      rfl

theorem connectionScreens_answerGetConnection (number : ℕ)
    (h : (Loader.getConnection (s.connections.screen number).isFriend).callback r = some body) :
    (s.answerGetConnection number body).connectionScreens =
      s.connectionScreens.answer number (r.reply GetConnetion.decode) := by
  rw [Connections.answer_eq]
  rcases getConnection_cases h with ⟨data, hstored, rfl⟩ | ⟨hstored, rfl⟩
  · rw [hstored, answerGetConnection, if_neg (assigned_storeConnection _ _),
      if_pos (completes_storeConnection _ _), connections_after_storeConnection]
    refine connections_with_self ?_
    rw [(Connections.complete_frame _ number).1, (Connections.reloadData_frame _ _).1,
      connections_after_storeConnection]
  · rw [hstored, answerGetConnection]
    cases (r.reply GetConnetion.decode).completes with
    | true => exact connections_with_self (Connections.complete_frame s.connectionScreens number).1
    | false => rfl

/-! ### What a reply does -/

theorem act_getRoomReply {number : ℕ} (h : s.act (.getRoomReply number r) = some t) :
    ∃ caller, s.home.pending.lookup number = some caller ∧
      ((r.Raises ∧ t = { s with crashed := true }) ∨
        ∃ body, Loader.getRoom.callback r = some body ∧
          t = answerGetRoom
            { s with
              home := { s.home with pending := s.home.pending.filter fun c => c.1 ≠ number } }
            number caller body) := by
  rw [act] at h
  split at h
  · exact absurd h (by simp)
  · next caller hcaller =>
    refine ⟨caller, hcaller, ?_⟩
    split at h
    · next hraises =>
      exact Or.inl ⟨callback_eq_none_iff.mp hraises, (Option.some.inj h).symm⟩
    · next body hbody => exact Or.inr ⟨body, hbody, (Option.some.inj h).symm⟩

theorem act_matchingReply {i : ℕ} (h : s.act (.matchingReply i r) = some t) :
    ∃ c, s.matching.pending[i]? = some c ∧
      ((r.Raises ∧ t = { s with crashed := true }) ∨
        ∃ body, c.loader.toLoader.callback r = some body ∧
          t = answerMatching
            { s with matching := { s.matching with pending := s.matching.pending.eraseIdx i } }
            c body) := by
  rw [act] at h
  split at h
  · exact absurd h (by simp)
  · next c hc =>
    refine ⟨c, hc, ?_⟩
    split at h
    · next hraises =>
      exact Or.inl ⟨callback_eq_none_iff.mp hraises, (Option.some.inj h).symm⟩
    · next body hbody => exact Or.inr ⟨body, hbody, (Option.some.inj h).symm⟩

theorem act_getConnectionReply {number : ℕ} (h : s.act (.getConnectionReply number r) = some t) :
    number ∈ s.connections.pending ∧
      ((r.Raises ∧ t = { s with crashed := true }) ∨
        ∃ body, (Loader.getConnection (s.connections.screen number).isFriend).callback r =
            some body ∧
          t = answerGetConnection
            { s with
              connections :=
                { s.connections with pending := s.connections.pending.erase number } }
            number body) := by
  rw [act] at h
  split_ifs at h with hmem
  refine ⟨hmem, ?_⟩
  split at h
  · next hraises => exact Or.inl ⟨callback_eq_none_iff.mp hraises, (Option.some.inj h).symm⟩
  · next body hbody => exact Or.inr ⟨body, hbody, (Option.some.inj h).symm⟩

/-- A reply to the home list assigns `gameList`, and leaves the other screens alone. -/
theorem getRoomReply_leaves {number : ℕ} (h : s.act (.getRoomReply number r) = some t) :
    t.matching = s.matching ∧ t.connections = s.connections ∧
      ∀ f ≠ .gameList, t.models f = s.models f := by
  obtain ⟨caller, -, ⟨-, rfl⟩ | ⟨body, hbody, rfl⟩⟩ := act_getRoomReply h
  · exact ⟨rfl, rfl, fun _ _ => rfl⟩
  · obtain ⟨hmodels, hmatching, hconnections, -⟩ := answerGetRoom_frame
      { s with home := { s.home with pending := s.home.pending.filter fun c => c.1 ≠ number } }
      number caller body
    refine ⟨hmatching, hconnections, fun f hf => ?_⟩
    rw [hmodels]
    exact after_of_callback hbody fun hmem => hf (List.mem_singleton.mp hmem)

/-- A reply to My Matching assigns `matchingList`. -/
theorem matchingReply_leaves {i : ℕ} (h : s.act (.matchingReply i r) = some t) :
    t.home = s.home ∧ t.connections = s.connections ∧
      ∀ f ≠ .matchingList, t.models f = s.models f := by
  obtain ⟨c, -, ⟨-, rfl⟩ | ⟨body, hbody, rfl⟩⟩ := act_matchingReply h
  · exact ⟨rfl, rfl, fun _ _ => rfl⟩
  · obtain ⟨hmodels, hhome, hconnections, -⟩ := answerMatching_frame
      { s with matching := { s.matching with pending := s.matching.pending.eraseIdx i } } c body
    refine ⟨hhome, hconnections, fun f hf => ?_⟩
    rw [hmodels]
    refine after_of_callback hbody ?_
    cases c <;> exact fun hmem => hf (List.mem_singleton.mp hmem)

/-- A reply to a screen of friends or blacklist assigns one of the two lists. -/
theorem getConnectionReply_leaves {number : ℕ}
    (h : s.act (.getConnectionReply number r) = some t) :
    t.home = s.home ∧ t.matching = s.matching ∧
      ∀ f, f ≠ .getFriend → f ≠ .getBlackList → t.models f = s.models f := by
  obtain ⟨-, ⟨-, rfl⟩ | ⟨body, hbody, rfl⟩⟩ := act_getConnectionReply h
  · exact ⟨rfl, rfl, fun _ _ _ => rfl⟩
  · obtain ⟨hmodels, hhome, hmatching, -⟩ := answerGetConnection_frame
      { s with
        connections := { s.connections with pending := s.connections.pending.erase number } }
      number body
    refine ⟨hhome, hmatching, fun f hfriend hblack => ?_⟩
    rw [hmodels]
    refine after_of_callback hbody fun hmem => ?_
    have heq := List.mem_singleton.mp hmem
    split_ifs at heq
    · exact hfriend heq
    · exact hblack heq

/-! ### What a kind of screens sees of an action -/

theorem homeList_congr (hhome : t.home = s.home)
    (hlist : t.models .gameList = s.models .gameList) : t.homeList = s.homeList := by
  rw [homeList, homeList, hhome, hlist]

theorem matchingScreen_congr (hmatching : t.matching = s.matching)
    (hlist : t.models .matchingList = s.models .matchingList) :
    t.matchingScreen = s.matchingScreen := by
  rw [matchingScreen, matchingScreen, hmatching, hlist]

theorem connectionScreens_congr (hconnections : t.connections = s.connections)
    (hfriend : t.models .getFriend = s.models .getFriend)
    (hblack : t.models .getBlackList = s.models .getBlackList) :
    t.connectionScreens = s.connectionScreens := by
  have hlists : t.models.connections = s.models.connections := by
    funext isFriend
    cases isFriend with
    | true => exact hfriend
    | false => exact hblack
  rw [connectionScreens, connectionScreens, hconnections, hlists]

/-- **To the home list, an action is what it sees of it.** -/
theorem home_act (a : SharedAction) (h : s.act a = some t) :
    run HomeList.step s.homeList a.home = some t.homeList := by
  cases a with
  | pull =>
    obtain ⟨home, hstep, rfl⟩ := Option.map_eq_some_iff.mp h
    rw [SharedAction.home, run_cons_of_step hstep, run_nil, HomeList.step_pull hstep]
    rfl
  | posted =>
    obtain ⟨home, hstep, rfl⟩ := Option.map_eq_some_iff.mp h
    rw [SharedAction.home, run_cons_of_step hstep, run_nil, HomeList.step_posted hstep]
    rfl
  | getRoomReply number r =>
    rw [SharedAction.home]
    obtain ⟨caller, hcaller, ⟨hraises, rfl⟩ | ⟨body, hbody, rfl⟩⟩ := act_getRoomReply h
    · rw [if_pos hraises]
      rfl
    · have hpending : s.homeList.pending.lookup number = some caller := hcaller
      rw [homeList_answerGetRoom number caller hbody, if_neg (not_raises_of_callback hbody), run,
        HomeList.step, hpending]
      rfl
  | matchingReply i r =>
    obtain ⟨hhome, -, hmodels⟩ := matchingReply_leaves h
    exact congrArg some (homeList_congr hhome (hmodels _ (by simp))).symm
  | getConnectionReply number r =>
    obtain ⟨hhome, -, hmodels⟩ := getConnectionReply_leaves h
    exact congrArg some (homeList_congr hhome (hmodels _ (by simp) (by simp))).symm
  | tapJoined | tapMade | selectRow | leaveChat =>
    obtain ⟨matching, -, rfl⟩ := Option.map_eq_some_iff.mp h
    rfl
  | didSelectRow | popViewController =>
    obtain ⟨connections, -, rfl⟩ := Option.map_eq_some_iff.mp h
    rfl

/-- A tap on My Matching leaves its list as it is. -/
theorem matching_tap {a : MatchingAction} {matching : MatchingScreen}
    (hreply : ∀ i r, a ≠ .reply i r) (h : s.matchingScreen.next a = some matching) :
    matching.matchingList = s.models .matchingList := by
  cases a with
  | reply i r => exact absurd rfl (hreply i r)
  | tapJoined | tapMade =>
    obtain ⟨-, rfl⟩ := MatchingScreen.tapTab_eq_some h
    rfl
  | selectRow row =>
    obtain ⟨chat, rfl⟩ := MatchingScreen.next_chat (Or.inl ⟨row, rfl⟩) h
    rfl
  | leaveChat =>
    obtain ⟨chat, rfl⟩ := MatchingScreen.next_chat (Or.inr rfl) h
    rfl

/-- **To My Matching, an action is what it sees of it.** -/
theorem matching_act (a : SharedAction) (h : s.act a = some t) :
    run MatchingScreen.next s.matchingScreen a.matching = some t.matchingScreen := by
  cases a with
  | tapJoined | tapMade | selectRow | leaveChat =>
    obtain ⟨matching, hstep, rfl⟩ := Option.map_eq_some_iff.mp h
    have hlist := matching_tap (by simp) hstep
    rw [SharedAction.matching, run_cons_of_step hstep, run_nil]
    exact congrArg some (matching_with_self hlist).symm
  | matchingReply i r =>
    rw [SharedAction.matching]
    obtain ⟨c, hc, ⟨hraises, rfl⟩ | ⟨body, hbody, rfl⟩⟩ := act_matchingReply h
    · rw [if_pos hraises]
      rfl
    · have hpending : s.matchingScreen.pending[i]? = some c := hc
      rw [matchingScreen_answerMatching c hbody, if_neg (not_raises_of_callback hbody), run,
        MatchingScreen.next, hpending]
      rfl
  | getRoomReply number r =>
    obtain ⟨hmatching, -, hmodels⟩ := getRoomReply_leaves h
    exact congrArg some (matchingScreen_congr hmatching (hmodels _ (by simp))).symm
  | getConnectionReply number r =>
    obtain ⟨-, hmatching, hmodels⟩ := getConnectionReply_leaves h
    exact congrArg some (matchingScreen_congr hmatching (hmodels _ (by simp) (by simp))).symm
  | pull | posted =>
    obtain ⟨home, -, rfl⟩ := Option.map_eq_some_iff.mp h
    rfl
  | didSelectRow | popViewController =>
    obtain ⟨connections, -, rfl⟩ := Option.map_eq_some_iff.mp h
    rfl

/-- **To the screens of friends and blacklist, an action is what they see of it.** -/
theorem connections_act (a : SharedAction) (h : s.act a = some t) :
    run Connections.step s.connectionScreens a.connections = some t.connectionScreens := by
  cases a with
  | didSelectRow isFriend =>
    obtain ⟨connections, hstep, rfl⟩ := Option.map_eq_some_iff.mp h
    have hlist : connections.connections = s.models.connections := by
      rw [(Connections.step_didSelectRow hstep).2]
      rfl
    rw [SharedAction.connections, run_cons_of_step hstep, run_nil]
    exact congrArg some (connections_with_self hlist).symm
  | popViewController =>
    obtain ⟨connections, hstep, rfl⟩ := Option.map_eq_some_iff.mp h
    have hlist : connections.connections = s.models.connections := by
      rw [Connections.step_pop hstep]
      rfl
    rw [SharedAction.connections, run_cons_of_step hstep, run_nil]
    exact congrArg some (connections_with_self hlist).symm
  | getConnectionReply number r =>
    rw [SharedAction.connections]
    obtain ⟨hmem, ⟨hraises, rfl⟩ | ⟨body, hbody, rfl⟩⟩ := act_getConnectionReply h
    · rw [if_pos hraises]
      rfl
    · have hpending : number ∈ s.connectionScreens.pending := hmem
      rw [if_neg (not_raises_of_callback hbody), run, Connections.step, if_pos hpending]
      exact congrArg some (connectionScreens_answerGetConnection
        (s := { s with
          connections := { s.connections with pending := s.connections.pending.erase number } })
        number hbody).symm
  | getRoomReply number r =>
    obtain ⟨-, hconnections, hmodels⟩ := getRoomReply_leaves h
    exact congrArg some (connectionScreens_congr hconnections (hmodels _ (by simp))
      (hmodels _ (by simp))).symm
  | matchingReply i r =>
    obtain ⟨-, hconnections, hmodels⟩ := matchingReply_leaves h
    exact congrArg some (connectionScreens_congr hconnections (hmodels _ (by simp))
      (hmodels _ (by simp))).symm
  | pull | posted =>
    obtain ⟨home, -, rfl⟩ := Option.map_eq_some_iff.mp h
    rfl
  | tapJoined | tapMade | selectRow | leaveChat =>
    obtain ⟨matching, -, rfl⟩ := Option.map_eq_some_iff.mp h
    rfl

/-! ### Runs -/

theorem act_of_step {a : SharedAction} (h : s.step a = some t) :
    s.crashed = false ∧ s.act a = some t := by
  rw [step] at h
  split_ifs at h with hcrashed
  exact ⟨Bool.eq_false_iff.mpr hcrashed, h⟩

/-- **A step ends the app exactly if its reply raises the exception.** -/
theorem crashed_act (a : SharedAction) (hs : s.crashed = false) (h : s.act a = some t) :
    t.crashed = true ↔ a.Raises := by
  cases a with
  | getRoomReply number r =>
    obtain ⟨caller, -, ⟨hraises, rfl⟩ | ⟨body, hbody, rfl⟩⟩ := act_getRoomReply h
    · exact iff_of_true rfl hraises
    · rw [(answerGetRoom_frame _ number caller body).2.2.2]
      exact iff_of_false (by simp [hs]) (not_raises_of_callback hbody)
  | matchingReply i r =>
    obtain ⟨c, -, ⟨hraises, rfl⟩ | ⟨body, hbody, rfl⟩⟩ := act_matchingReply h
    · exact iff_of_true rfl hraises
    · rw [(answerMatching_frame _ c body).2.2.2]
      exact iff_of_false (by simp [hs]) (not_raises_of_callback hbody)
  | getConnectionReply number r =>
    obtain ⟨-, ⟨hraises, rfl⟩ | ⟨body, hbody, rfl⟩⟩ := act_getConnectionReply h
    · exact iff_of_true rfl hraises
    · exact iff_of_false (by simp [answerGetConnection, hs]) (not_raises_of_callback hbody)
  | pull | posted | tapJoined | tapMade | selectRow | leaveChat | didSelectRow
  | popViewController =>
    obtain ⟨screen, -, rfl⟩ := Option.map_eq_some_iff.mp h
    exact iff_of_false (by simp [hs]) id

/-- Nothing happens after the exception. -/
theorem eq_of_crashed {as : List SharedAction} (hs : s.crashed = true)
    (hr : run step s as = some t) : as = [] ∧ s = t := by
  cases as with
  | nil => exact ⟨rfl, by simpa using hr⟩
  | cons a as =>
    obtain ⟨u, hu, -⟩ := run_cons_eq_some.mp hr
    exact absurd (hs.symm.trans (act_of_step hu).1) (by simp)

theorem crashed_run {as : List SharedAction} (hs : s.crashed = false)
    (hr : run step s as = some t) : t.crashed = true ↔ ∃ a ∈ as, a.Raises := by
  induction as generalizing s with
  | nil =>
    obtain rfl : s = t := by simpa using hr
    exact iff_of_false (by simp [hs]) (by simp)
  | cons a as ih =>
    obtain ⟨u, hu, hrest⟩ := run_cons_eq_some.mp hr
    have hcrashed := crashed_act a hs (act_of_step hu).2
    rw [List.exists_mem_cons_iff]
    by_cases hraises : a.Raises
    · obtain ⟨rfl, rfl⟩ := eq_of_crashed (hcrashed.mpr hraises) hrest
      exact iff_of_true (hcrashed.mpr hraises) (Or.inl hraises)
    · rw [ih (Bool.eq_false_iff.mpr fun h => hraises (hcrashed.mp h)) hrest]
      exact (or_iff_right hraises).symm

theorem connectionScreens_launched : launched.connectionScreens = .launched := by
  refine connections_with_self (funext fun isFriend => ?_)
  cases isFriend <;> rfl

/-- **Over one store, every kind of screens does what it does by itself.** In every run of
all of them, whatever JSON the requests are answered with and in what order, the home list,
My Matching and the screens of friends and blacklist are each where their own actions lead
them, with every reply read by its decoder; and a callback has ended the app with its
exception exactly if one of the replies was neither an array nor an object. -/
theorem run_refines {as : List SharedAction} (hr : run step launched as = some t) :
    run HomeList.step .loaded (as.flatMap SharedAction.home) = some t.homeList ∧
      run MatchingScreen.next .loaded (as.flatMap SharedAction.matching) =
        some t.matchingScreen ∧
      run Connections.step .launched (as.flatMap SharedAction.connections) =
        some t.connectionScreens ∧
      (t.crashed = true ↔ ∃ a ∈ as, a.Raises) := by
  refine ⟨?_, ?_, ?_, crashed_run rfl hr⟩
  · exact run_flatMap (f := homeList) (fun s a t h => home_act a (act_of_step h).2) hr
  · exact run_flatMap (f := matchingScreen) (fun s a t h => matching_act a (act_of_step h).2) hr
  · rw [← connectionScreens_launched]
    exact run_flatMap (f := connectionScreens)
      (fun s a t h => connections_act a (act_of_step h).2) hr

/-- The home list is answered with no rooms, My Matching with something that is not a list of
rooms, the friends with a list of none, and a pull with a number. -/
def oneOfEach : List SharedAction :=
  [.didSelectRow true, .getRoomReply 0 (.body (.array [])),
    .matchingReply 0 (.body (.array [.number 7 0])),
    .getConnectionReply 0 (.body (.object [("count", .number 1 0), ("data", .array [])])),
    .pull, .getRoomReply 1 (.body (.number 7 0))]

/-- The number ends the app, and until then each screen has had its own replies. -/
theorem oneOfEach_ends : ∃ t, run step launched oneOfEach = some t ∧ t.crashed = true ∧
    run HomeList.step .loaded [.reply 0 (.decoded []), .pull] = some t.homeList ∧
    run MatchingScreen.next .loaded [.reply 0 .undecodable] = some t.matchingScreen := by
  have hr : run step launched oneOfEach = some _ := rfl
  obtain ⟨hhome, hmatching, -, hcrashed⟩ := run_refines hr
  exact ⟨_, hr, hcrashed.mpr ⟨_, List.mem_of_getLast? rfl, rfl⟩, hhome, hmatching⟩

end SharedScreens

end Joinus
