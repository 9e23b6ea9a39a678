import Joinus.Chat.Row
import Joinus.Chat.Screens

/-!
# The roster a chat screen was opened with

A chat screen keeps the room it was opened with, and with it the roster of the room
as the server once sent it; the messages it shows are live. This file puts the two
together, for any number of users: each of them fetches lists of rooms, opens the
Select screen of a room of the home list, taps its join button, gets to the chat
when the answer is `1`, or opens the chat of a room of My Matching; and each of them
sends messages from the chats that are open, and reads what the listener brings.
Requests, replies and snapshots take their time, and everything happens in any order.

| part | what it holds | name |
|---|---|---|
| the server | who has joined which room, in the order of joining | `Joinus.System.joins` |
| a client | two lists, the Select screen, and a chat on each tab | `Joinus.Client` |
| a chat | the room it was opened with, and its screen | `Joinus.OpenChat` |
| in flight | lists of rooms, requests to join and their answers | `Joinus.System` |
| the database | collections and outstanding writes | `Joinus.ChatState` |

The chats of the two tabs live differently. For a row of My Matching a chat is made
anew each time. The chat of a Select screen is made once for that screen: the first
answer `1` loads its view, which registers the listener; when it has been left, the
next answer `1` shows it again as it was, without a listener; and an answer `1` while
it is on the stack ends the app.

A row is made when the table view asks for it, of a document of `snapShots`
(`Joinus.Client.cellForRowAt`); a picture that cannot be loaded ends the app there.
The other things that can end it – the cells of the lists and the Select screen, which
read the start date of their room and its pictures – are not part of the steps, nor
are the alerts and the join button of a room that cannot be joined; a run of the app
that meets none of them is a run of this system.

Of the server it is assumed that a list of rooms carries the rosters of the moment
it is served, and that the answer `1` to a request makes the user a member. The
roster of a list is then a *prefix of history*: it is made of the first so many
joins, and this number – `Joinus.Fetched.seen` – is carried along with each room, by
the lists, the screens and the replies. No client reads it. Every room that a client
holds has an origin, the answer of the server that brought it
(`Joinus.System.exists_served`), and so the roster of that moment; which gives the
result: the rows of a screen can be shown exactly when their senders had joined by the
moment of the screen's roster (`Joinus.rows_shown_iff`).
-/

namespace Joinus

open Base

/-! ### The server -/

/-- What does not change in a run: the users as the server describes them, the
devices they use, and who is in which room at the start. -/
structure World where
  info : ℤ → JoinUserInfo
  info_pk : ∀ p, (info p).joinUserPk = p
  device : ℤ → Sender
  device_pk : ∀ p, (device p).myPk = p
  members : ℤ → List ℤ

/-- The users of a room after some joins. -/
def World.users (w : World) (joins : List (ℤ × ℤ)) (roomPk : ℤ) : List ℤ :=
  w.members roomPk ++ (joins.filter (·.1 = roomPk)).map Prod.snd

/-- The `userList` the server sends with a room after some joins. -/
def World.roster (w : World) (joins : List (ℤ × ℤ)) (roomPk : ℤ) : List JoinUserInfo :=
  (w.users joins roomPk).map w.info

/-- A room of a list, and how many joins there had been when the list was served. -/
structure Fetched where
  room : GetRoomInfo
  seen : ℕ
  deriving DecidableEq

/-! ### A client -/

/-- The two screens with a list of rooms. -/
inductive RoomList where
  | home
  | matching
  deriving DecidableEq

/-- A chat screen, and the room it was opened with. -/
structure OpenChat where
  roomInfo : Fetched
  screen : ChatScreen

/-- A chat whose view is loaded: it listens to the room from now on. -/
def OpenChat.viewDidLoad (user : Sender) (db : ChatState) (f : Fetched) (isJoinjang : Bool) :
    OpenChat :=
  ⟨f, .viewDidLoad user f.room.roomPk isJoinjang (getMessage db f.room.roomPk)⟩

/-- A client: the lists of the home screen and of My Matching, the Select screen on
the home list with its number, and the chats whose view has been loaded, that of the
Select screen and the last one of My Matching. -/
structure Client where
  running : Bool
  gameList : List Fetched
  matchingList : List Fetched
  selectedRoomPk : ℤ
  selects : ℕ
  select : Option Fetched
  joinChatting : RoomList → Option OpenChat

/-- The taps on the lists and on the Select screen that stay in the client. -/
inductive ClientTap where
  /-- A row of the home list, which opens a Select screen. -/
  | selectRow (row : ℕ)
  /-- The back button of the Select screen. -/
  | leaveSelect
  /-- A row of My Matching, which opens a chat, while one of its two buttons is selected. -/
  | matchingRow (row : ℕ) (madeMatchingButton : Bool)

namespace Client

/-- A client after sign-in. -/
def launched : Client := ⟨true, [], [], 0, 0, none, fun _ => none⟩

/-- The chat of a tab is on screen. -/
def Shows (c : Client) (list : RoomList) : Prop :=
  ∃ chat ∈ c.joinChatting list, chat.screen.shown = true

instance (c : Client) (list : RoomList) : Decidable (c.Shows list) :=
  inferInstanceAs (Decidable (∃ chat ∈ c.joinChatting list, _))

def setChat (c : Client) (list : RoomList) (chat : Option OpenChat) : Client :=
  { c with joinChatting := Function.update c.joinChatting list chat }

/-- `getRoom`, `getJoinRoom` and `getMakeRoom`, when their reply has been decoded. -/
def store (c : Client) (rooms : List Fetched) (list : RoomList) : Client :=
  if c.running then
    match list with
    | .home => { c with gameList := rooms }
    | .matching => { c with matchingList := rooms }
  else c

/-- The lists are seen only while no Select screen and no chat is on screen: these hide
the tab bar too. -/
def tap (user : Sender) (db : ChatState) (c : Client) : ClientTap → Option Client
  | .selectRow row =>
    match c.select, c.gameList[row]? with
    | none, some f =>
      if c.Shows .matching then none
      else
        some { c with select := some f, selects := c.selects + 1, selectedRoomPk := f.room.roomPk }
    | _, _ => none
  | .leaveSelect =>
    if c.select.isSome ∧ ¬c.Shows .home then
      some (({ c with select := none } : Client).setChat .home none)
    else none
  | .matchingRow row madeMatchingButton =>
    match c.select, c.matchingList[row]? with
    | none, some f =>
      if c.Shows .matching then none
      else some (c.setChat .matching (some (.viewDidLoad user db f madeMatchingButton)))
    | _, _ => none

/-- The answer to a join request, in the completion of `postRoomUser` of the Select
screen with number `select`. A screen that has been left is on no navigation stack
and pushes nothing. -/
def joined (user : Sender) (db : ChatState) (c : Client) (select : ℕ) (result : ℤ) : Client :=
  match c.select with
  | none => c
  | some f =>
    -- the screen that asked is still the one on the stack
    if c.running ∧ c.selects = select ∧ result = 1 then
      match c.joinChatting .home with
      | none => c.setChat .home (some (.viewDidLoad user db f false))
      | some chat =>
        if chat.screen.shown then { c with running := false }
        else
          -- the view has been loaded: `getMessage` is not called again
          c.setChat .home (some { chat with screen := { chat.screen with shown := true } })
    else c

/-- What happens on a chat screen, and the write it hands over. A chat that has been left
appears again by the answer to a join request, and not by itself. -/
def chat (c : Client) (list : RoomList) (a : ScreenAction) : Option (Client × Option SetData) :=
  match c.joinChatting list with
  | none => none
  | some chat =>
    match a with
    | .viewDidAppear => none
    | a =>
      (chat.screen.step a).map fun r =>
        (c.setChat list (some { chat with screen := r.1 }), r.2)

/-- The table view of a chat on screen asks for a row. -/
def cellForRowAt {Image : Type} (load : String → Option Image) (myPk : ℤ) (c : Client)
    (list : RoomList) (row : ℕ) : Option Client :=
  match c.joinChatting list with
  | none => none
  | some chat =>
    match chat.screen.snapShots[row]? with
    | none => none
    | some (_, data) =>
      if chat.screen.shown then
        some
          { c with
            running := (Joinus.cellForRowAt load myPk chat.roomInfo.room data).isSome }
      else none

/-- A write to a room has been applied. -/
def notify (db : ChatState) (roomPk : ℤ) (c : Client) : Client :=
  { c with
    joinChatting := fun list =>
      (c.joinChatting list).map fun chat =>
        { chat with screen := chat.screen.notify db.chat roomPk } }

end Client

/-! ### The system -/

/-- A list of rooms on its way to a user. -/
structure ListReply where
  userPk : ℤ
  list : RoomList
  rooms : List Fetched

/-- A `postRoomUser` request, and the Select screen it comes from. -/
structure JoinRequest where
  userPk : ℤ
  roomPk : ℤ
  select : ℕ

/-- Its answer. -/
structure JoinReply where
  userPk : ℤ
  select : ℕ
  result : ℤ

structure System where
  clients : ℤ → Client
  joins : List (ℤ × ℤ)
  replies : List ListReply
  joinRequests : List JoinRequest
  joinReplies : List JoinReply
  db : ChatState

inductive SystemAction where
  /-- The server answers a request for a list of rooms. -/
  | serve (userPk : ℤ) (list : RoomList) (rooms : List GetRoomInfo)
  /-- A list of rooms arrives. -/
  | receive (i : ℕ)
  | tap (userPk : ℤ) (t : ClientTap)
  /-- A tap on the join button of the Select screen. -/
  | tapJoin (userPk : ℤ)
  /-- The server answers a join request. -/
  | answerJoin (i : ℕ) (result : ℤ)
  /-- The answer arrives. -/
  | receiveJoin (i : ℕ)
  /-- Something happens on a chat screen: its user does something, or the listener is
  told. -/
  | chat (userPk : ℤ) (list : RoomList) (a : ScreenAction)
  /-- A row of a chat screen is made. -/
  | cellForRowAt (userPk : ℤ) (list : RoomList) (row : ℕ)
  /-- The database applies a write. -/
  | commit (i : ℕ)

namespace System

/-- Everybody has just signed in. -/
def initial : System := ⟨fun _ => .launched, [], [], [], [], ChatState.initial⟩

/-- The clients, when one of them has changed. -/
def setClient (s : System) (p : ℤ) (c : Client) : System :=
  { s with clients := Function.update s.clients p c }

variable {Image : Type} (load : String → Option Image) (w : World)

def step (s : System) : SystemAction → Option System
  | .serve p list rooms =>
    -- the rosters of this moment
    if ∀ r ∈ rooms, r.userList = w.roster s.joins r.roomPk then
      some { s with replies := s.replies ++ [⟨p, list, rooms.map (⟨·, s.joins.length⟩)⟩] }
    else none
  | .receive i =>
    match s.replies[i]? with
    | none => none
    | some reply =>
      let s := { s with replies := s.replies.eraseIdx i }
      some (s.setClient reply.userPk ((s.clients reply.userPk).store reply.rooms reply.list))
  | .tap p t =>
    if (s.clients p).running then
      ((s.clients p).tap (w.device p) s.db t).map (s.setClient p)
    else none
  | .tapJoin p =>
    -- the request takes the room from the shared `selectedRoomPk`, not from the screen
    let c := s.clients p
    if c.running ∧ c.select.isSome ∧ ¬c.Shows .home then
      some { s with joinRequests := s.joinRequests ++ [⟨p, c.selectedRoomPk, c.selects⟩] }
    else none
  | .answerJoin i result =>
    match s.joinRequests[i]? with
    | none => none
    | some request =>
      some
        { s with
          joinRequests := s.joinRequests.eraseIdx i
          joins := if result = 1 then s.joins ++ [(request.roomPk, request.userPk)] else s.joins
          joinReplies := s.joinReplies ++ [⟨request.userPk, request.select, result⟩] }
  | .receiveJoin i =>
    match s.joinReplies[i]? with
    | none => none
    | some reply =>
      let s := { s with joinReplies := s.joinReplies.eraseIdx i }
      some (s.setClient reply.userPk
        ((s.clients reply.userPk).joined (w.device reply.userPk) s.db reply.select reply.result))
  | .chat p list a =>
    if (s.clients p).running then
      ((s.clients p).chat list a).map fun r =>
        { s.setClient p r.1 with db := { s.db with pending := s.db.pending ++ r.2.toList } }
    else none
  | .cellForRowAt p list row =>
    if (s.clients p).running then
      ((s.clients p).cellForRowAt load p list row).map (s.setClient p)
    else none
  | .commit i =>
    match s.db.pending[i]? with
    | none => none
    | some write =>
      let db := { s.db.setData write with pending := s.db.pending.eraseIdx i }
      some { s with db := db, clients := fun p => (s.clients p).notify db write.roomPk }

end System

/-! ### Where the rooms of a client come from -/

/-- A client holds a room: on a list, on the Select screen, or in a chat. -/
inductive Client.Holds (c : Client) (f : Fetched) : Prop where
  | game (h : f ∈ c.gameList)
  | matching (h : f ∈ c.matchingList)
  | select (h : c.select = some f)
  | chat {list : RoomList} {chat : OpenChat} (h : c.joinChatting list = some chat)
      (hf : chat.roomInfo = f)

namespace Client

variable {c c' : Client} {f : Fetched} {user : Sender} {db : ChatState}

theorem not_holds_launched : ¬launched.Holds f := by
  rintro (h | h | h | ⟨h, -⟩)
  · exact List.not_mem_nil h
  · exact List.not_mem_nil h
  · exact absurd h nofun
  · exact absurd h nofun

/-- A client that ends holds what it held. -/
theorem holds_of_running {running : Bool} (h : Holds { c with running := running } f) :
    c.Holds f := by
  rcases h with h | h | h | ⟨h, hf⟩
  · exact .game h
  · exact .matching h
  · exact .select h
  · exact .chat h hf

/-- A chat that is put in the place of another brings its own room. -/
theorem holds_setChat {list : RoomList} {chat : Option OpenChat}
    (h : (c.setChat list chat).Holds f) : c.Holds f ∨ ∃ new ∈ chat, new.roomInfo = f := by
  rcases h with h | h | h | @⟨list', old, h, hf⟩
  · exact Or.inl (.game h)
  · exact Or.inl (.matching h)
  · exact Or.inl (.select h)
  · rw [setChat] at h
    dsimp only at h
    rcases eq_or_ne list' list with rfl | hne
    · rw [Function.update_self] at h
      exact Or.inr ⟨old, h, hf⟩
    · rw [Function.update_of_ne hne] at h
      exact Or.inl (.chat h hf)

theorem holds_store {rooms : List Fetched} {list : RoomList} (h : (c.store rooms list).Holds f) :
    c.Holds f ∨ f ∈ rooms := by
  cases list with
  | home =>
    rw [store] at h
    split_ifs at h
    · rcases h with h | h | h | ⟨h, hf⟩
      · exact Or.inr h
      · exact Or.inl (.matching h)
      · exact Or.inl (.select h)
      · exact Or.inl (.chat h hf)
    · exact Or.inl h
  | matching =>
    rw [store] at h
    split_ifs at h
    · rcases h with h | h | h | ⟨h, hf⟩
      · exact Or.inl (.game h)
      · exact Or.inr h
      · exact Or.inl (.select h)
      · exact Or.inl (.chat h hf)
    · exact Or.inl h

/-- A tap brings no new room to the client. -/
theorem holds_tap {t : ClientTap} (h : c.tap user db t = some c') (hf : c'.Holds f) :
    c.Holds f := by
  cases t with
  | selectRow row =>
    rw [tap] at h
    split at h
    · next g _ hg =>
      split_ifs at h
      obtain rfl := Option.some.inj h
      rcases hf with hf | hf | hf | ⟨hf, hroom⟩
      · exact .game hf
      · exact .matching hf
      · obtain rfl := Option.some.inj hf
        exact .game (List.mem_of_getElem? hg)
      · exact .chat hf hroom
    · exact absurd h nofun
  | leaveSelect =>
    rw [tap] at h
    split_ifs at h
    obtain rfl := Option.some.inj h
    obtain (hf | hf | hf | ⟨hf, hroom⟩) | ⟨new, hnew, -⟩ := holds_setChat hf
    · exact .game hf
    · exact .matching hf
    · exact absurd hf nofun
    · exact .chat hf hroom
    · exact absurd hnew nofun
  | matchingRow row madeMatchingButton =>
    rw [tap] at h
    split at h
    · next g _ hg =>
      split_ifs at h
      obtain rfl := Option.some.inj h
      obtain hf | ⟨new, hnew, rfl⟩ := holds_setChat hf
      · exact hf
      · obtain rfl := Option.some.inj hnew
        exact .matching (List.mem_of_getElem? hg)
    · exact absurd h nofun

/-- The answer to a join request brings no new room to the client either: the chat
it opens is of the room of the Select screen. -/
theorem holds_joined {select : ℕ} {result : ℤ} (h : (c.joined user db select result).Holds f) :
    c.Holds f := by
  rw [joined] at h
  split at h
  · exact h
  · next g hg =>
    split_ifs at h
    · split at h
      · obtain h | ⟨new, hnew, rfl⟩ := holds_setChat h
        · exact h
        · obtain rfl := Option.some.inj hnew
          exact .select hg
      · next chat hchat =>
        split_ifs at h
        · exact holds_of_running h
        · obtain h | ⟨new, hnew, rfl⟩ := holds_setChat h
          · exact h
          · obtain rfl := Option.some.inj hnew
            exact .chat hchat rfl
    · exact h

/-- Nor does anything that happens on a chat screen, which keeps its room. -/
theorem holds_chat {list : RoomList} {a : ScreenAction} {write : Option SetData}
    (h : c.chat list a = some (c', write)) (hf : c'.Holds f) : c.Holds f := by
  rw [chat] at h
  split at h
  · exact absurd h nofun
  · next chat hchat =>
    split at h
    · exact absurd h nofun
    · obtain ⟨r, -, heq⟩ := Option.map_eq_some_iff.mp h
      obtain ⟨rfl, -⟩ := Prod.mk.inj heq
      obtain hf | ⟨new, hnew, rfl⟩ := holds_setChat hf
      · exact hf
      · obtain rfl := Option.some.inj hnew
        exact .chat hchat rfl

theorem holds_cellForRowAt {Image : Type} {load : String → Option Image} {p : ℤ} {list : RoomList}
    {row : ℕ} (h : c.cellForRowAt load p list row = some c') (hf : c'.Holds f) : c.Holds f := by
  rw [cellForRowAt] at h
  split at h
  · exact absurd h nofun
  · split at h
    · exact absurd h nofun
    · split_ifs at h
      obtain rfl := Option.some.inj h
      exact holds_of_running hf

theorem holds_notify {roomPk : ℤ} (h : (c.notify db roomPk).Holds f) : c.Holds f := by
  rcases h with h | h | h | ⟨h, hf⟩
  · exact .game h
  · exact .matching h
  · exact .select h
  · obtain ⟨old, hold, rfl⟩ := Option.map_eq_some_iff.mp h
    exact .chat hold hf

end Client

namespace System

variable {Image : Type} {load : String → Option Image} {w : World} {s t : System} {p : ℤ}
  {f : Fetched}

/-- A room is with a client, or on its way to it. -/
inductive Holds (s : System) (p : ℤ) (f : Fetched) : Prop where
  | client (h : (s.clients p).Holds f)
  | reply {reply : ListReply} (h : reply ∈ s.replies) (hp : reply.userPk = p)
      (hf : f ∈ reply.rooms)

/-- A room comes with the roster of this moment in an answer of the server. -/
def Served (w : World) (s : System) (a : SystemAction) (p : ℤ) (f : Fetched) : Prop :=
  ∃ list rooms, a = .serve p list rooms ∧ f.room ∈ rooms ∧ f.seen = s.joins.length ∧
    f.room.userList = w.roster s.joins f.room.roomPk

/-- Where the clients are the same and no list is new, nothing is. -/
theorem Holds.mono (h : t.Holds p f) (hclients : t.clients = s.clients)
    (hreplies : t.replies ⊆ s.replies) : s.Holds p f := by
  rcases h with h | ⟨hmem, hp, hf⟩
  · rw [hclients] at h
    exact .client h
  · exact .reply (hreplies hmem) hp hf

/-- When one client has changed, it holds what it held, or what the change brought. -/
theorem holds_setClient {q : ℤ} {c : Client} (h : (s.setClient q c).Holds p f) :
    s.Holds p f ∨ p = q ∧ c.Holds f := by
  rcases h with h | ⟨h, hp, hf⟩
  · rw [setClient] at h
    dsimp only at h
    rcases eq_or_ne p q with rfl | hne
    · rw [Function.update_self] at h
      exact Or.inr ⟨rfl, h⟩
    · rw [Function.update_of_ne hne] at h
      exact Or.inl (.client h)
  · exact Or.inl (.reply h hp hf)

theorem not_holds_initial : ¬initial.Holds p f := by
  rintro (h | ⟨h, -, -⟩)
  · exact Client.not_holds_launched h
  · exact List.not_mem_nil h

/-- **Rooms come from the server**: a room that is somewhere after a step was there
before, or is in the answer that the step is. -/
theorem holds_step {a : SystemAction} (h : s.step load w a = some t) (hf : t.Holds p f) :
    s.Holds p f ∨ Served w s a p f := by
  cases a with
  | serve q list rooms =>
    rw [step] at h
    split_ifs at h with hserved
    obtain rfl := Option.some.inj h
    rcases hf with hf | ⟨hmem, hp, hf⟩
    · exact Or.inl (.client hf)
    · rcases List.mem_append.mp hmem with hold | hnew
      · exact Or.inl (.reply hold hp hf)
      · obtain rfl := List.mem_singleton.mp hnew
        obtain rfl : q = p := hp
        obtain ⟨r, hr, rfl⟩ := List.mem_map.mp hf
        exact Or.inr ⟨list, rooms, rfl, hr, rfl, hserved r hr⟩
  | receive i =>
    rw [step] at h
    split at h
    · exact absurd h nofun
    · next reply hi =>
      obtain rfl := Option.some.inj h
      obtain hold | ⟨rfl, hnew⟩ := holds_setClient hf
      · exact Or.inl (hold.mono rfl List.eraseIdx_subset)
      · rcases Client.holds_store hnew with hold | hnew
        · exact Or.inl (.client hold)
        · exact Or.inl (.reply (List.mem_of_getElem? hi) rfl hnew)
  | tap q tp =>
    rw [step] at h
    split_ifs at h
    obtain ⟨c, hc, rfl⟩ := Option.map_eq_some_iff.mp h
    obtain hold | ⟨rfl, hnew⟩ := holds_setClient hf
    · exact Or.inl hold
    · exact Or.inl (.client (Client.holds_tap hc hnew))
  | tapJoin q =>
    rw [step] at h
    split_ifs at h
    obtain rfl := Option.some.inj h
    exact Or.inl (hf.mono rfl (List.Subset.refl _))
  | answerJoin i result =>
    rw [step] at h
    split at h
    · exact absurd h nofun
    · obtain rfl := Option.some.inj h
      exact Or.inl (hf.mono rfl (List.Subset.refl _))
  | receiveJoin i =>
    rw [step] at h
    split at h
    · exact absurd h nofun
    · obtain rfl := Option.some.inj h
      obtain hold | ⟨rfl, hnew⟩ := holds_setClient hf
      · exact Or.inl (hold.mono rfl (List.Subset.refl _))
      · exact Or.inl (.client (Client.holds_joined hnew))
  | chat q list a =>
    rw [step] at h
    split_ifs at h
    obtain ⟨⟨c, write⟩, hc, rfl⟩ := Option.map_eq_some_iff.mp h
    obtain hold | ⟨rfl, hnew⟩ :=
      holds_setClient (hf.mono (s := s.setClient q c) rfl (List.Subset.refl _))
    · exact Or.inl hold
    · exact Or.inl (.client (Client.holds_chat hc hnew))
  | cellForRowAt q list row =>
    rw [step] at h
    split_ifs at h
    obtain ⟨c, hc, rfl⟩ := Option.map_eq_some_iff.mp h
    obtain hold | ⟨rfl, hnew⟩ := holds_setClient hf
    · exact Or.inl hold
    · exact Or.inl (.client (Client.holds_cellForRowAt hc hnew))
  | commit i =>
    rw [step] at h
    split at h
    · exact absurd h nofun
    · obtain rfl := Option.some.inj h
      rcases hf with hf | ⟨hmem, hp, hf⟩
      · exact Or.inl (.client (Client.holds_notify hf))
      · exact Or.inl (.reply hmem hp hf)

/-- **Every room has an origin** in a run: an answer of the server. -/
theorem exists_served {as : List SystemAction}
    (hr : run (step load w) initial as = some s) (hf : s.Holds p f) :
    ∃ pre a u, pre ++ [a] <+: as ∧ run (step load w) initial pre = some u ∧ Served w u a p f := by
  have hstep : ∀ s a t (x : ℤ × Fetched), step load w s a = some t → t.Holds x.1 x.2 →
      s.Holds x.1 x.2 ∨ Served w s a x.1 x.2 := fun s a t x h hx => holds_step h hx
  exact (exists_origin (x := (p, f)) hstep hr hf).resolve_left not_holds_initial

/-! ### The rosters of their moment -/

/-- Users join, and nobody leaves. -/
theorem joins_step (s : System) (a : SystemAction) (t : System) {joins : List (ℤ × ℤ)}
    (hs : joins <+: s.joins) (h : s.step load w a = some t) : joins <+: t.joins := by
  cases a with
  | serve | tapJoin =>
    rw [step] at h
    split_ifs at h
    obtain rfl := Option.some.inj h
    exact hs
  | receive | receiveJoin | commit =>
    rw [step] at h
    split at h
    · exact absurd h nofun
    · obtain rfl := Option.some.inj h
      exact hs
  | tap | chat | cellForRowAt =>
    rw [step] at h
    split_ifs at h
    obtain ⟨r, -, rfl⟩ := Option.map_eq_some_iff.mp h
    exact hs
  | answerJoin i result =>
    rw [step] at h
    split at h
    · exact absurd h nofun
    · obtain rfl := Option.some.inj h
      dsimp only
      split_ifs
      · exact hs.trans (List.prefix_append _ _)
      · exact hs

/-- **A room as it was served**: its roster is that of the first `seen` joins. -/
def Faithful (w : World) (s : System) (f : Fetched) : Prop :=
  f.room.userList = w.roster (s.joins.take f.seen) f.room.roomPk

/-- **In every state of every run, the rooms are as they were served.** -/
theorem faithful_of_holds {as : List SystemAction}
    (hr : run (step load w) initial as = some s) (hf : s.Holds p f) : s.Faithful w f := by
  obtain ⟨pre, a, u, ⟨post, rfl⟩, hu, list, rooms, -, -, hseen, hroster⟩ := exists_served hr hf
  rw [List.append_assoc, run_append_eq_some] at hr
  obtain ⟨u', hu', hrest⟩ := hr
  obtain rfl : u = u' := Option.some.inj (hu.symm.trans hu')
  -- what was served then is what is there now, up to that moment
  have hjoins : u.joins <+: s.joins :=
    run_invariant (P := fun s => u.joins <+: s.joins)
      (fun s a t hs h => joins_step s a t hs h) List.prefix_rfl hrest
  rw [Faithful, hseen, ← List.prefix_iff_eq_take.mp hjoins]
  exact hroster

end System

/-! ### The rows of a screen -/

section Rows

variable {Image : Type} (load : String → Option Image) (w : World) (s : System)

/-- A row of a chat on screen, which the table view can ask for, with the document of a
message of another user, `q`, who has joined the room. -/
structure ForeignRow (p : ℤ) (chat : OpenChat) (data : Document) (q : ℤ) : Prop where
  running : (s.clients p).running = true
  isOpen : ∃ list, (s.clients p).joinChatting list = some chat
  shown : chat.screen.shown = true
  row : data ∈ chat.screen.snapShots.map Prod.snd
  sender : ∃ u roomPk key pk time message, u.myPk = q ∧
    data = (setDBdata u roomPk key pk time message).data
  other : q ≠ p
  joined : q ∈ w.users s.joins chat.roomInfo.room.roomPk

/-- **What is asked of the rows**: the sender is on the screen's roster, the row
shows the sender's image, and it can be shown. -/
def RowsShown : Prop :=
  ∀ p chat data q, ForeignRow w s p chat data q →
    q ∈ chat.roomInfo.room.userList.map JoinUserInfo.joinUserPk ∧
      (otherRow chat.roomInfo.room.userList data).imageAddress = (w.info q).imageAddress ∧
      cellForRowAt load p chat.roomInfo.room data ≠ none

/-- **The senders were there in time**: they had joined the room when the list was
served that the screen has its roster from. -/
def JoinedInTime : Prop :=
  ∀ p chat data q, ForeignRow w s p chat data q →
    q ∈ w.users (s.joins.take chat.roomInfo.seen) chat.roomInfo.room.roomPk

variable {load w s}

theorem joinUserPk_roster (joins : List (ℤ × ℤ)) (roomPk : ℤ) :
    (w.roster joins roomPk).map JoinUserInfo.joinUserPk = w.users joins roomPk := by
  rw [World.roster, List.map_map]
  exact (List.map_congr_left fun p _ => w.info_pk p).trans (List.map_id _)

/-- On a roster of the server, a user's entry is what the server says of the user. -/
theorem senderInfo_roster {joins : List (ℤ × ℤ)} {roomPk q : ℤ} {info : JoinUserInfo}
    (h : senderInfo (w.roster joins roomPk) q = some info) : info = w.info q := by
  obtain ⟨hmem, hpk⟩ := mem_of_senderInfo h
  obtain ⟨p, -, rfl⟩ := List.mem_map.mp hmem
  rw [← hpk, w.info_pk]

/-- On a room as it was served, the roster's users are those who had joined by then. -/
theorem mem_roster_iff {f : Fetched} {q : ℤ} (h : s.Faithful w f) :
    q ∈ f.room.userList.map JoinUserInfo.joinUserPk ↔
      q ∈ w.users (s.joins.take f.seen) f.room.roomPk := by
  rw [h, joinUserPk_roster]

/-- Who is on such a roster is found on it, as the server describes the user. -/
theorem senderInfo_of_mem {f : Fetched} {q : ℤ} (h : s.Faithful w f)
    (hq : q ∈ f.room.userList.map JoinUserInfo.joinUserPk) :
    senderInfo f.room.userList q = some (w.info q) := by
  cases hinfo : senderInfo f.room.userList q with
  | none => exact absurd hq (senderInfo_eq_none.mp hinfo)
  | some info =>
    rw [h] at hinfo
    rw [senderInfo_roster hinfo]

/-- **One row**: it can be shown, with the sender's image, when the sender is on the
roster of the screen. -/
theorem foreignRow_shown {p : ℤ} {chat : OpenChat} {data : Document} {q : ℤ}
    (hload : ∀ q, imageURL load (w.info q).imageAddress ≠ none)
    (hserved : s.Faithful w chat.roomInfo) (hrow : ForeignRow w s p chat data q)
    (hq : q ∈ chat.roomInfo.room.userList.map JoinUserInfo.joinUserPk) :
    (otherRow chat.roomInfo.room.userList data).imageAddress = (w.info q).imageAddress ∧
      cellForRowAt load p chat.roomInfo.room data ≠ none := by
  have hinfo := senderInfo_of_mem hserved hq
  obtain ⟨u, roomPk, key, pk, time, message, rfl, rfl⟩ := hrow.sender
  constructor
  · rw [otherRow_setDBdata, hinfo]
  · intro hcrash
    rw [cellForRowAt_eq_none_iff u roomPk key pk time message load hrow.other] at hcrash
    exact hload u.myPk (hcrash (w.info u.myPk) hinfo)

/-- The room of a chat that a row is on. -/
theorem ForeignRow.holds {p : ℤ} {chat : OpenChat} {data : Document} {q : ℤ}
    (hrow : ForeignRow w s p chat data q) : s.Holds p chat.roomInfo := by
  obtain ⟨list, hchat⟩ := hrow.isOpen
  exact .client (.chat hchat rfl)

/-- **When the rows of the chat screens can be shown**: in every state that users,
servers and networks can reach, exactly when everyone whose message is shown had
joined the room by the moment from which the screen has its roster. -/
theorem rows_shown_iff {as : List SystemAction}
    (hload : ∀ q, imageURL load (w.info q).imageAddress ≠ none)
    (hr : run (System.step load w) System.initial as = some s) :
    RowsShown load w s ↔ JoinedInTime w s := by
  constructor
  · intro hshown p chat data q hrow
    have hserved := System.faithful_of_holds hr hrow.holds
    exact (mem_roster_iff hserved).mp (hshown p chat data q hrow).1
  · intro hjoined p chat data q hrow
    have hserved := System.faithful_of_holds hr hrow.holds
    have hq := (mem_roster_iff hserved).mpr (hjoined p chat data q hrow)
    exact ⟨hq, foreignRow_shown hload hserved hrow hq⟩

end Rows

/-! ### A sender who came later -/

/-- A world in which user `1` is in room `7` from the start. -/
def someWorld : World where
  info p := ⟨p, 20, 0, "token", none, "picture", "name", true⟩
  info_pk _ := rfl
  device p := ⟨p, "name", TimeZone.fixed 32400, "AM"⟩
  device_pk _ := rfl
  members r := if r = 7 then [1] else []

/-- Room `7`, with some users. -/
def roomSeven (users : List ℤ) : GetRoomInfo where
  roomPk := 7
  roomName := "room"
  gameName := "league of legends"
  peopleNumber := 4
  startDate := "2021-10-01 20-00-00"
  createdAt := "2021-09-30 10-00-00"
  voiceChat := false
  lowestTier := 0
  highestTier := 7
  isStart := 0
  nowPeopleCnt := users.length
  leaderPk := 1
  roomManner := 10
  userList := users.map someWorld.info

/-- User `2` finds room `7` on the home list, joins it and gets to its chat. -/
def joinsSeven : List SystemAction :=
  [.serve 2 .home [roomSeven [1]], .receive 0, .tap 2 (.selectRow 0), .tapJoin 2,
    .answerJoin 0 1, .receiveJoin 0]

/-- User `1` fetches My Matching and opens the chat of room `7`. -/
def opensSeven (users : List ℤ) : List SystemAction :=
  [.serve 1 .matching [roomSeven users], .receive 0, .tap 1 (.matchingRow 0 false)]

/-- User `2` sends a message, and user `1` is told of it. -/
def greets : List SystemAction :=
  [.chat 2 .home (.didChange "hello"), .chat 2 .home (.send 300 301 303), .commit 0,
    .chat 1 .matching (.snapShot 1)]

/-- The message of user `2`, as it is stored. -/
def greeting : Document := [("message", "hello"), ("time", "AM 9:05"), ("2", "name")]

/-- User `2` joins and speaks after user `1` has opened the chat. -/
def lateJoin : List SystemAction := opensSeven [1] ++ joinsSeven ++ greets

/-- User `1` opens the chat after user `2` has joined. -/
def earlyJoin : List SystemAction := joinsSeven ++ opensSeven [1, 2] ++ greets

/-- What user `1` has before him, and who has joined. -/
def System.before (s : System) : Option (Fetched × Bool × List Document) × Bool × List (ℤ × ℤ) :=
  (((s.clients 1).joinChatting .matching).map fun chat =>
      (chat.roomInfo, chat.screen.shown, chat.screen.snapShots.map Prod.snd),
    (s.clients 1).running, s.joins)

/-- The greeting is a row of user `1`. -/
theorem foreignRow_greeting {s : System} {f : Fetched}
    (h : s.before = (some (f, true, [greeting]), true, [(7, 2)])) (hf : f.room.roomPk = 7) :
    ∃ chat, chat.roomInfo = f ∧ ForeignRow someWorld s 1 chat greeting 2 := by
  obtain ⟨hchat, hrest⟩ := Prod.mk.inj h
  obtain ⟨hrunning, hjoins⟩ := Prod.mk.inj hrest
  obtain ⟨chat, hopen, heq⟩ := Option.map_eq_some_iff.mp hchat
  obtain ⟨rfl, hrest⟩ := Prod.mk.inj heq
  obtain ⟨hshown, hrows⟩ := Prod.mk.inj hrest
  exact ⟨chat, rfl,
    { running := hrunning
      isOpen := ⟨.matching, hopen⟩
      shown := hshown
      row := hrows ▸ List.mem_singleton_self _
      sender := ⟨someWorld.device 2, 7, "", 2, "AM 9:05", "hello", rfl, by decide⟩
      other := by decide
      joined := by rw [hjoins, hf]; decide }⟩

/-- **The message of a user who joined later crashes the reader**, as soon as its row is
made. -/
theorem lateJoin_crashes :
    ∃ s, run (System.step (fun _ => some ()) someWorld) System.initial lateJoin = some s ∧
      ¬RowsShown (fun _ => some ()) someWorld s ∧
      ∃ t, s.step (fun _ => some ()) someWorld (.cellForRowAt 1 .matching 0) = some t ∧
        (t.clients 1).running = false := by
  obtain ⟨s, hs⟩ : ∃ s, run (System.step (fun _ => some ()) someWorld) System.initial lateJoin =
      some s := ⟨_, rfl⟩
  have hstate : (run (System.step (fun _ => some ()) someWorld) System.initial lateJoin).map
      System.before = some (some (⟨roomSeven [1], 0⟩, true, [greeting]), true, [(7, 2)]) := rfl
  have hcell : (run (System.step (fun _ => some ()) someWorld) System.initial
      (lateJoin ++ [.cellForRowAt 1 .matching 0])).map (fun t => (t.clients 1).running) =
      some false := by
    decide
  rw [hs, Option.map_some, Option.some.injEq] at hstate
  obtain ⟨chat, hchat, hrow⟩ := foreignRow_greeting hstate rfl
  refine ⟨s, hs, fun h => ?_, ?_⟩
  · have hmem := (h _ _ _ _ hrow).1
    rw [hchat] at hmem
    exact absurd hmem (by decide)
  · obtain ⟨t, ht, hend⟩ := Option.map_eq_some_iff.mp hcell
    obtain ⟨s', hs', hstep⟩ := run_append_eq_some.mp ht
    obtain rfl : s = s' := Option.some.inj (hs.symm.trans hs')
    obtain ⟨t', ht', hnil⟩ := run_cons_eq_some.mp hstep
    obtain rfl : t' = t := Option.some.inj hnil
    exact ⟨t', ht', hend⟩

/-- With a list served after the join, the reader's roster has both users, and the message
is shown. -/
theorem earlyJoin_shown :
    ∃ s chat, run (System.step (fun _ => some ()) someWorld) System.initial earlyJoin = some s ∧
      ForeignRow someWorld s 1 chat greeting 2 ∧ RowsShown (fun _ => some ()) someWorld s := by
  obtain ⟨s, hs⟩ : ∃ s, run (System.step (fun _ => some ()) someWorld) System.initial earlyJoin =
      some s := ⟨_, rfl⟩
  have hstate : (run (System.step (fun _ => some ()) someWorld) System.initial earlyJoin).map
      System.before = some (some (⟨roomSeven [1, 2], 1⟩, true, [greeting]), true, [(7, 2)]) := rfl
  rw [hs, Option.map_some, Option.some.injEq] at hstate
  obtain ⟨chat, -, hgreeting⟩ := foreignRow_greeting hstate rfl
  have hload : ∀ q, imageURL (fun _ => some ()) (someWorld.info q).imageAddress ≠ none :=
    fun _ => nofun
  refine ⟨s, chat, hs, hgreeting, (rows_shown_iff hload hs).mpr ?_⟩
  intro p chat data q hrow
  refine (mem_roster_iff (System.faithful_of_holds hs hrow.holds)).mp ?_
  have hjoins : s.joins = [(7, 2)] := congrArg (fun b => b.2.2) hstate
  have husers : someWorld.users [(7, 2)] 7 = [1, 2] := by decide
  have hq := hrow.joined
  have hother := hrow.other
  -- users `1` and `2` have each been served one room
  obtain ⟨pre, a, u, hpre, -, list, rooms, rfl, hroom, -⟩ := System.exists_served hs hrow.holds
  have hserve : SystemAction.serve p list rooms ∈ earlyJoin :=
    hpre.subset (List.mem_append_right _ (List.mem_singleton_self _))
  simp only [earlyJoin, joinsSeven, opensSeven, greets, List.cons_append, List.nil_append,
    List.mem_cons, SystemAction.serve.injEq, reduceCtorEq, List.not_mem_nil, or_false,
    false_or] at hserve
  rcases hserve with ⟨rfl, -, rfl⟩ | ⟨rfl, -, rfl⟩
  · rw [hjoins, List.mem_singleton.mp hroom, roomSeven, husers] at hq
    rw [List.mem_singleton.mp hroom]
    have hone : q = 1 := by simpa [hother] using hq
    exact hone ▸ List.mem_singleton_self _
  · rw [hjoins, List.mem_singleton.mp hroom, roomSeven, husers] at hq
    rw [List.mem_singleton.mp hroom]
    exact hq

end Joinus
