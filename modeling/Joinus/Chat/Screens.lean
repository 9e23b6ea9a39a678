import Joinus.Chat.Writes

/-!
# From one text view to every screen of the room

A message is typed on one device and read on all the others: the text view, its
placeholder and its button on the one side, the listener and the rows of the table on the
other, and the collection between them. This file puts the screens around the collections
of `Joinus.Chat.Writes`:

| | what it does to the screen | what it does to the database |
|---|---|---|
| editing | the placeholder is hidden while there is a text | – |
| the send button | the text is removed, sent or not | is given a write, unless the text is blank |
| the start button of the leader | hides itself and the text view | – |
| a snapshot | replaces `snapShots`, and the rows with them | – |
| an error of the listener | nothing, and no snapshots after it | – |
| `viewDidDisappear` | removes the listener | – |

The database tells a listener of the documents that are there when it is added, and of
every write to its room that is applied after that. What it tells is on its way for a
while, arrives in order, and may be passed over for something newer. The database also tells
a writer's own listener of its writes at once, before they are applied; that is left out.

What the screens do to the database is what `Joinus.ChatState` does
(`Joinus.ChatWorld.run_db`), so that all that is known about its runs is known about the
screens. The result is about what is read in the end
(`Joinus.ChatWorld.screens_show_messages`): a screen whose listener has been told everything
shows one row for each time of day at which something was sent to the room, and every row
is a message that somebody has sent.
-/

namespace Joinus

open Base

/-! ### A screen -/

/-- A `JoinChattingViewController`, as far as messages go, on the device of a user. -/
structure ChatScreen where
  user : Sender
  roomPk : ℤ
  isJoinjang : Bool
  /-- The text of the text view. -/
  text : String
  /-- `isHidden` of the placeholder, of the text view with its button, and of
  `gameStartView`. -/
  placeHolderHidden : Bool
  messageTextViewHidden : Bool
  gameStartViewHidden : Bool
  /-- It is on screen. -/
  shown : Bool
  snapShots : List (String × Document)
  /-- The number of rows the table view has been loaded with. -/
  rows : ℕ
  /-- The listener, with the snapshots on their way to it. -/
  listener : Option (List (List (String × Document)))

inductive ScreenAction where
  /-- The user has changed the text. -/
  | didChange (text : String)
  | didEndEditing
  /-- A tap on the send button, with its three readings of the clock. -/
  | send (hourAt minuteAt secondAt : Instant)
  | gameStart
  | gameEnd
  /-- One of the snapshots on their way arrives, and those before it never will. -/
  | snapShot (n : ℕ)
  /-- The listener gets an error. -/
  | err
  | viewDidDisappear
  | viewDidAppear

namespace ChatScreen

/-- `viewDidLoad`, which ends with `getMessage`: the listener is told what is in the
collection. -/
def viewDidLoad (user : Sender) (roomPk : ℤ) (isJoinjang : Bool)
    (documents : List (String × Document)) : ChatScreen where
  user := user
  roomPk := roomPk
  isJoinjang := isJoinjang
  text := ""
  placeHolderHidden := false
  messageTextViewHidden := false
  gameStartViewHidden := false
  shown := true
  snapShots := []
  rows := 0
  listener := some [documents]

/-- `hasText` of the text view. -/
def hasText (c : ChatScreen) : Bool := c.text ≠ ""

/-- `placeHolder.isHidden = textView.hasText`. -/
def textViewPlaceHolder (c : ChatScreen) : ChatScreen := { c with placeHolderHidden := c.hasText }

/-- The tap on the send button that sends the text of the screen. -/
def sendTap (c : ChatScreen) (hourAt minuteAt secondAt : Instant) : SendTap :=
  ⟨c.text, hourAt, minuteAt, secondAt⟩

/-- `snapShots`, with its `didSet`: the table view is loaded again. -/
def setSnapShots (c : ChatScreen) (documents : List (String × Document)) : ChatScreen :=
  { c with snapShots := documents, rows := documents.length }

/-- `chattingScroll`: the row that is scrolled to. -/
def chattingScroll (c : ChatScreen) : Option ℕ :=
  if c.snapShots.length > 3 then some (c.snapShots.length - 1) else none

/-- What an action does to the screen, and the write it hands over. -/
def step (c : ChatScreen) : ScreenAction → Option (ChatScreen × Option SetData)
  | .didChange text =>
    -- a text view that is hidden may still have the keyboard
    if c.shown then some (({ c with text := text } : ChatScreen).textViewPlaceHolder, none)
    else none
  | .didEndEditing => some (c.textViewPlaceHolder, none)
  | .send hourAt minuteAt secondAt =>
    if c.shown ∧ c.messageTextViewHidden = false then
      some (({ c with text := "" } : ChatScreen).textViewPlaceHolder,
        sendMessage c.user c.roomPk (c.sendTap hourAt minuteAt secondAt))
    else none
  | .gameStart =>
    -- the view with the start button has its place on the screen of the leader only
    if c.shown ∧ c.isJoinjang ∧ c.gameStartViewHidden = false then
      some ({ c with gameStartViewHidden := true, messageTextViewHidden := true }, none)
    else none
  | .gameEnd => if c.shown ∧ c.gameStartViewHidden then some (c, none) else none
  | .snapShot n =>
    match c.listener with
    | none => none
    | some documents =>
      match documents[n]? with
      | none => none
      | some snapShot =>
        some (({ c with listener := some (documents.drop (n + 1)) } : ChatScreen).setSnapShots
          snapShot, none)
  | .err => if c.listener.isSome then some ({ c with listener := none }, none) else none
  | .viewDidDisappear =>
    if c.shown then some ({ c with shown := false, listener := none }, none) else none
  | .viewDidAppear => if c.shown then none else some ({ c with shown := true }, none)

/-- A write to a room has been applied: a listener on the room is told what is there
now. -/
def notify (chat : ℤ → Collection String Document) (roomPk : ℤ) (c : ChatScreen) : ChatScreen :=
  if c.roomPk = roomPk then { c with listener := c.listener.map (· ++ [(chat roomPk).entries]) }
  else c

end ChatScreen

/-! ### The screens and the database -/

/-- The database, and the chat screens that have been opened on whatever devices. -/
structure ChatWorld where
  db : ChatState
  screens : List ChatScreen

inductive ChatWorldAction where
  | viewDidLoad (user : Sender) (roomPk : ℤ) (isJoinjang : Bool)
  | screen (i : ℕ) (a : ScreenAction)
  /-- The database applies one of the outstanding writes. -/
  | commit (i : ℕ)

namespace ChatWorld

def initial : ChatWorld := ⟨ChatState.initial, []⟩

def step (s : ChatWorld) : ChatWorldAction → Option ChatWorld
  | .viewDidLoad user roomPk isJoinjang =>
    some { s with
      screens := s.screens ++
        [.viewDidLoad user roomPk isJoinjang (getMessage s.db roomPk)] }
  | .screen i a =>
    match s.screens[i]? with
    | none => none
    | some c =>
      match c.step a with
      | none => none
      | some (c', w) =>
        some
          { db := { s.db with pending := s.db.pending ++ w.toList }
            screens := s.screens.set i c' }
  | .commit i =>
    match s.db.pending[i]? with
    | none => none
    | some w =>
      let db := { s.db.setData w with pending := s.db.pending.eraseIdx i }
      some { db := db, screens := s.screens.map (ChatScreen.notify db.chat w.roomPk) }

/-- What a step is to the database. -/
def chatActions (s : ChatWorld) : ChatWorldAction → List ChatAction
  | .viewDidLoad .. => []
  | .screen i (.send hourAt minuteAt secondAt) =>
    match s.screens[i]? with
    | none => []
    | some c => [.send c.user c.roomPk (c.sendTap hourAt minuteAt secondAt)]
  | .screen _ _ => []
  | .commit i => [.commit i]

/-! ### The database under the screens -/

/-- Only a tap on the send button hands over a write. -/
theorem write_of_step {c c' : ChatScreen} {a : ScreenAction} {w : Option SetData}
    (h : c.step a = some (c', w)) :
    (∃ hourAt minuteAt secondAt, a = .send hourAt minuteAt secondAt ∧
        w = sendMessage c.user c.roomPk (c.sendTap hourAt minuteAt secondAt)) ∨
      ((∀ hourAt minuteAt secondAt, a ≠ .send hourAt minuteAt secondAt) ∧ w = none) := by
  cases a with
  | send hourAt minuteAt secondAt =>
    rw [ChatScreen.step] at h
    split_ifs at h
    exact Or.inl ⟨hourAt, minuteAt, secondAt, rfl, (Prod.mk.inj (Option.some.inj h)).2.symm⟩
  | snapShot n =>
    refine Or.inr ⟨by simp, ?_⟩
    rw [ChatScreen.step] at h
    split at h
    · exact absurd h (by simp)
    · split at h
      · exact absurd h (by simp)
      · exact (Prod.mk.inj (Option.some.inj h)).2.symm
  | didEndEditing => exact Or.inr ⟨by simp, (Prod.mk.inj (Option.some.inj h)).2.symm⟩
  | didChange | gameStart | gameEnd | err | viewDidDisappear | viewDidAppear =>
    refine Or.inr ⟨by simp, ?_⟩
    rw [ChatScreen.step] at h
    split_ifs at h
    exact (Prod.mk.inj (Option.some.inj h)).2.symm

variable {s t : ChatWorld}

/-- What an action on a screen does. -/
theorem step_screen {i : ℕ} {a : ScreenAction} (h : s.step (.screen i a) = some t) :
    ∃ c c' w, s.screens[i]? = some c ∧ c.step a = some (c', w) ∧
      t = { db := { s.db with pending := s.db.pending ++ w.toList }
            screens := s.screens.set i c' } := by
  rw [step] at h
  split at h
  · exact absurd h (by simp)
  · next c hc =>
    split at h
    · exact absurd h (by simp)
    · next c' w hstep => exact ⟨c, c', w, hc, hstep, (Option.some.inj h).symm⟩

theorem step_commit {i : ℕ} (h : s.step (.commit i) = some t) :
    ∃ w, s.db.pending[i]? = some w ∧
      t.db = { s.db.setData w with pending := s.db.pending.eraseIdx i } ∧
      t.screens = s.screens.map (ChatScreen.notify t.db.chat w.roomPk) := by
  rw [step] at h
  split at h
  · exact absurd h (by simp)
  · next w hw =>
    rw [← Option.some.inj h]
    exact ⟨w, hw, rfl, rfl⟩

/-- **What a step is to the database**: the taps on send buttons, and the writes that are
applied. -/
theorem step_db (a : ChatWorldAction) (h : s.step a = some t) :
    run ChatState.step s.db (s.chatActions a) = some t.db := by
  cases a with
  | viewDidLoad user roomPk isJoinjang =>
    rw [← Option.some.inj h]
    rfl
  | screen i a =>
    obtain ⟨c, c', w, hc, hstep, rfl⟩ := step_screen h
    rcases write_of_step hstep with ⟨hourAt, minuteAt, secondAt, rfl, rfl⟩ | ⟨hsend, rfl⟩
    · rw [chatActions, hc]
      dsimp only
      rw [run, ChatState.step]
      cases sendMessage c.user c.roomPk (c.sendTap hourAt minuteAt secondAt) with
      | none => simp
      | some w => rfl
    · have hnone : s.chatActions (.screen i a) = [] := by
        cases a with
        | send hourAt minuteAt secondAt => exact absurd rfl (hsend hourAt minuteAt secondAt)
        | _ => rfl
      rw [hnone, run_nil, Option.toList_none, List.append_nil]
  | commit i =>
    obtain ⟨w, hw, hdb, -⟩ := step_commit h
    rw [chatActions, run, ChatState.step, hw, hdb]
    rfl

/-- **The screens do to the database what a run of the database does.** -/
theorem run_db {as : List ChatWorldAction} (hr : run step s as = some t) :
    run ChatState.step s.db (observed step chatActions s as) = some t.db := by
  have hfollows : Follows ChatState.step step chatActions fun s db => s.db = db :=
    ⟨fun hs h => ⟨_, hs ▸ step_db _ h, rfl⟩⟩
  obtain ⟨db, hdb, rfl⟩ := hfollows.exists_run rfl hr
  exact hdb

/-! ### What a listener is told -/

/-- **What a screen will show when its listener has been told everything.** -/
def latest (c : ChatScreen) (documents : List (List (String × Document))) :
    List (String × Document) :=
  documents.getLast?.getD c.snapShots

/-- **The listeners are told of everything**: the last of the snapshots on their way is
what is in the collection. -/
def ToldAll (s : ChatWorld) : Prop :=
  ∀ c ∈ s.screens, ∀ documents, c.listener = some documents →
    latest c documents = getMessage s.db c.roomPk

/-- What an action on a screen leaves as it is. -/
structure ScreenFrame (c c' : ChatScreen) : Prop where
  roomPk : c'.roomPk = c.roomPk
  latest : ∀ documents', c'.listener = some documents' →
    ∃ documents, c.listener = some documents ∧ latest c' documents' = latest c documents

/-- A snapshot that arrives leaves the last one where it is, or is the last one. -/
theorem latest_drop {c : ChatScreen} {documents : List (List (String × Document))} {n : ℕ}
    {snapShot : List (String × Document)} (h : documents[n]? = some snapShot) :
    latest (c.setSnapShots snapShot) (documents.drop (n + 1)) = latest c documents := by
  rw [latest, latest, List.getLast?_drop]
  obtain ⟨hn, rfl⟩ := List.getElem?_eq_some_iff.mp h
  split_ifs with hlast
  · have hlen : documents.length - 1 = n := by omega
    rw [List.getLast?_eq_getElem?, hlen, h]
    rfl
  · rw [List.getLast?_eq_getElem?, List.getElem?_eq_getElem (by omega)]
    rfl

theorem screenFrame_step {c c' : ChatScreen} {a : ScreenAction} {w : Option SetData}
    (h : c.step a = some (c', w)) : ScreenFrame c c' := by
  cases a with
  | snapShot n =>
    rw [ChatScreen.step] at h
    split at h
    · exact absurd h (by simp)
    · next documents hlistener =>
      split at h
      · exact absurd h (by simp)
      · next snapShot hn =>
        obtain ⟨rfl, -⟩ := Prod.mk.inj (Option.some.inj h)
        refine ⟨rfl, fun documents' hsome => ⟨documents, hlistener, ?_⟩⟩
        obtain rfl : documents.drop (n + 1) = documents' := Option.some.inj hsome
        exact latest_drop hn
  | didEndEditing =>
    obtain ⟨rfl, -⟩ := Prod.mk.inj (Option.some.inj h)
    exact ⟨rfl, fun documents hsome => ⟨documents, hsome, rfl⟩⟩
  | err | viewDidDisappear =>
    rw [ChatScreen.step] at h
    split_ifs at h
    obtain ⟨rfl, -⟩ := Prod.mk.inj (Option.some.inj h)
    exact ⟨rfl, fun documents hsome => absurd hsome (by simp)⟩
  | didChange | send | gameStart | gameEnd | viewDidAppear =>
    rw [ChatScreen.step] at h
    split_ifs at h
    obtain ⟨rfl, -⟩ := Prod.mk.inj (Option.some.inj h)
    exact ⟨rfl, fun documents hsome => ⟨documents, hsome, rfl⟩⟩

/-- A listener on the room of a write is told of it, and the others have nothing to be told
of. -/
theorem latest_notify {db : ChatState} {w : SetData} {c : ChatScreen}
    {documents : List (List (String × Document))}
    (hc : ∀ documents, c.listener = some documents → latest c documents = getMessage db c.roomPk)
    (h : (c.notify (db.setData w).chat w.roomPk).listener = some documents) :
    latest (c.notify (db.setData w).chat w.roomPk) documents =
      getMessage (db.setData w) (c.notify (db.setData w).chat w.roomPk).roomPk := by
  rw [ChatScreen.notify] at h ⊢
  split_ifs at h ⊢ with hroom
  · obtain ⟨before, -, rfl⟩ := Option.map_eq_some_iff.mp h
    rw [latest, List.getLast?_concat, getMessage, ← hroom]
    rfl
  · rw [hc documents h, getMessage, getMessage, chat_setData_of_ne db hroom]

theorem toldAll_step (s : ChatWorld) (a : ChatWorldAction) (t : ChatWorld) (hs : s.ToldAll)
    (h : s.step a = some t) : t.ToldAll := by
  intro c hc documents hlistener
  cases a with
  | viewDidLoad user roomPk isJoinjang =>
    obtain rfl := Option.some.inj h
    rcases List.mem_append.mp hc with hold | hnew
    · exact hs c hold documents hlistener
    · obtain rfl := List.mem_singleton.mp hnew
      obtain rfl : [getMessage s.db roomPk] = documents := Option.some.inj hlistener
      rfl
  | screen i a =>
    obtain ⟨c₀, c', w, hc₀, hstep, rfl⟩ := step_screen h
    rcases List.mem_or_eq_of_mem_set hc with hold | rfl
    · exact hs c hold documents hlistener
    · have hframe := screenFrame_step hstep
      obtain ⟨before, hbefore, hlatest⟩ := hframe.latest documents hlistener
      rw [hlatest, hs c₀ (List.mem_of_getElem? hc₀) before hbefore, hframe.roomPk]
      rfl
  | commit i =>
    obtain ⟨w, hw, hdb, hscreens⟩ := step_commit h
    rw [hscreens, hdb] at hc
    obtain ⟨c₀, hc₀, rfl⟩ := List.mem_map.mp hc
    rw [hdb]
    exact latest_notify (hs c₀ hc₀) hlistener

theorem toldAll_initial : initial.ToldAll := fun _ hc => absurd hc List.not_mem_nil

/-! ### What is read in the end -/

/-- **A screen shows what has been sent.** In every run of any number of screens and users,
the database is where the taps on send buttons and the writes it has applied lead it. A
screen whose listener has been told everything shows the documents of its room, in
ascending order of ids; and once no write is outstanding, there is a row for every time of
day at which a text that is not blank has been sent to the room, no other, and what it
shows is one of the messages sent then. -/
theorem screens_show_messages (z : TimeZone) {as : List ChatWorldAction}
    (hr : run step initial as = some t) :
    run ChatState.step .initial (observed step chatActions initial as) = some t.db ∧
    ∀ c ∈ t.screens, c.listener = some [] →
      c.snapShots = getMessage t.db c.roomPk ∧ Ascending c.snapShots ∧
      (t.db.pending = [] →
        (∀ id, id ∈ c.snapShots.map Prod.fst ↔
          ∃ r ∈ readings c.roomPk (observed step chatActions initial as), keyTime z r = id) ∧
        ∀ row ∈ c.snapShots,
          row ∈ writesTo c.roomPk (handed (observed step chatActions initial as))) := by
  have hdb := run_db hr
  refine ⟨hdb, fun c hc hlistener => ?_⟩
  have hshows : c.snapShots = getMessage t.db c.roomPk :=
    run_invariant toldAll_step toldAll_initial hr c hc [] hlistener
  refine ⟨hshows, hshows ▸ (t.db.chat c.roomPk).ascending, fun hdone => ?_⟩
  obtain ⟨ws, hperm, hchat, -⟩ := exists_applied_of_done hdb hdone
  have hwrites := writesTo_perm hperm c.roomPk
  rw [hshows, getMessage, hchat]
  constructor
  · intro id
    rw [Collection.mem_ids_setAll_iff, ← (hwrites.map Prod.fst).mem_iff,
      keys_handed (z := z), List.mem_map]
    simp
  · intro row hrow
    rcases Collection.mem_of_mem_entries_setAll hrow with hempty | hmem
    · exact absurd hempty List.not_mem_nil
    · exact hwrites.mem_iff.mpr hmem

/-- **Screens agree**: two that have been told everything about one room show the same. -/
theorem screens_agree {as : List ChatWorldAction} (hr : run step initial as = some t)
    {c c' : ChatScreen} (hc : c ∈ t.screens) (hc' : c' ∈ t.screens) (h : c.listener = some [])
    (h' : c'.listener = some []) (hroom : c.roomPk = c'.roomPk) :
    c.snapShots = c'.snapShots := by
  have htold : t.ToldAll := run_invariant toldAll_step toldAll_initial hr
  have hshows : c.snapShots = getMessage t.db c.roomPk := htold c hc [] h
  have hshows' : c'.snapShots = getMessage t.db c'.roomPk := htold c' hc' [] h'
  rw [hshows, hshows', hroom]

/-- Two users open the chat of room `7`, and one says hello. The other is told of it at
once, without having been told that there was nothing before. -/
def helloRead : List ChatWorldAction :=
  [.viewDidLoad mina 7 true, .viewDidLoad joon 7 false, .screen 0 (.didChange "hello"),
    .screen 0 (.send 300 300 300), .commit 0, .screen 1 (.snapShot 1), .screen 0 (.snapShot 1)]

/-- Both read it. -/
theorem helloRead_shown : ∃ t, run step initial helloRead = some t ∧ t.db.pending = [] ∧
    ∀ c ∈ t.screens, c.snapShots.map Prod.snd =
        [[("message", "hello"), ("time", "AM 9:05"), ("1", "mina")]] ∧
      c.snapShots = getMessage t.db c.roomPk := by
  have hr : run step initial helloRead = some _ := rfl
  refine ⟨_, hr, rfl, fun c hc => ?_⟩
  have hlistener : c.listener = some [] := by
    rcases List.mem_cons.mp hc with rfl | hc
    · rfl
    · obtain rfl := List.mem_singleton.mp hc
      rfl
  have hshows := ((screens_show_messages (TimeZone.fixed 32400) hr).2 c hc hlistener).1
  refine ⟨?_, hshows⟩
  rcases List.mem_cons.mp hc with rfl | hc
  · decide
  · obtain rfl := List.mem_singleton.mp hc
    decide

/-! ### Writing a message

The text view, its placeholder and the two views that the start button hides are set by
different handlers, each to what it thinks right. -/

/-- **The parts of a screen go together.** -/
structure Composed (c : ChatScreen) : Prop where
  placeHolder : c.placeHolderHidden = c.hasText
  rows : c.rows = c.snapShots.length
  started : c.messageTextViewHidden = c.gameStartViewHidden
  leader : c.messageTextViewHidden = true → c.isJoinjang = true

theorem composed_viewDidLoad (user : Sender) (roomPk : ℤ) (isJoinjang : Bool)
    (documents : List (String × Document)) :
    Composed (.viewDidLoad user roomPk isJoinjang documents) :=
  ⟨rfl, rfl, rfl, fun h => absurd h (by simp [ChatScreen.viewDidLoad])⟩

theorem composed_notify {c : ChatScreen} (hc : Composed c)
    (chat : ℤ → Collection String Document) (roomPk : ℤ) : Composed (c.notify chat roomPk) := by
  rw [ChatScreen.notify]
  split_ifs
  · exact ⟨hc.placeHolder, hc.rows, hc.started, hc.leader⟩
  · exact hc

/-- Every action on a screen leaves its parts together, and what the start button has
hidden is not shown again. -/
theorem composed_step {c c' : ChatScreen} {a : ScreenAction} {w : Option SetData}
    (hc : Composed c) (h : c.step a = some (c', w)) :
    Composed c' ∧ (c.messageTextViewHidden = true → c'.messageTextViewHidden = true) := by
  cases a with
  | didEndEditing =>
    obtain ⟨rfl, -⟩ := Prod.mk.inj (Option.some.inj h)
    exact ⟨⟨rfl, hc.rows, hc.started, hc.leader⟩, id⟩
  | didChange text | send hourAt minuteAt secondAt =>
    rw [ChatScreen.step] at h
    split_ifs at h
    obtain ⟨rfl, -⟩ := Prod.mk.inj (Option.some.inj h)
    exact ⟨⟨rfl, hc.rows, hc.started, hc.leader⟩, id⟩
  | gameStart =>
    rw [ChatScreen.step] at h
    split_ifs at h with hleader
    obtain ⟨rfl, -⟩ := Prod.mk.inj (Option.some.inj h)
    exact ⟨⟨hc.placeHolder, hc.rows, rfl, fun _ => hleader.2.1⟩, fun _ => rfl⟩
  | snapShot n =>
    rw [ChatScreen.step] at h
    split at h
    · exact absurd h (by simp)
    · split at h
      · exact absurd h (by simp)
      · obtain ⟨rfl, -⟩ := Prod.mk.inj (Option.some.inj h)
        exact ⟨⟨hc.placeHolder, rfl, hc.started, hc.leader⟩, id⟩
  | gameEnd | err | viewDidDisappear | viewDidAppear =>
    rw [ChatScreen.step] at h
    split_ifs at h
    obtain ⟨rfl, -⟩ := Prod.mk.inj (Option.some.inj h)
    exact ⟨⟨hc.placeHolder, hc.rows, hc.started, hc.leader⟩, id⟩

/-- All screens are composed. -/
def AllComposed (s : ChatWorld) : Prop := ∀ c ∈ s.screens, Composed c

theorem allComposed_step (s : ChatWorld) (a : ChatWorldAction) (t : ChatWorld)
    (hs : s.AllComposed) (h : s.step a = some t) : t.AllComposed := by
  intro c hc
  cases a with
  | viewDidLoad user roomPk isJoinjang =>
    obtain rfl := Option.some.inj h
    rcases List.mem_append.mp hc with hold | hnew
    · exact hs c hold
    · obtain rfl := List.mem_singleton.mp hnew
      exact composed_viewDidLoad user roomPk isJoinjang _
  | screen i a =>
    obtain ⟨c₀, c', w, hc₀, hstep, rfl⟩ := step_screen h
    rcases List.mem_or_eq_of_mem_set hc with hold | rfl
    · exact hs c hold
    · exact (composed_step (hs c₀ (List.mem_of_getElem? hc₀)) hstep).1
  | commit i =>
    obtain ⟨w, -, -, hscreens⟩ := step_commit h
    rw [hscreens] at hc
    obtain ⟨c₀, hc₀, rfl⟩ := List.mem_map.mp hc
    exact composed_notify (hs c₀ hc₀) _ _

theorem allComposed_initial : initial.AllComposed := fun _ hc => absurd hc List.not_mem_nil

/-- The game has been started on a screen. -/
def Started (i : ℕ) (s : ChatWorld) : Prop :=
  ∃ c, s.screens[i]? = some c ∧ c.messageTextViewHidden = true

theorem started_step {i : ℕ} (s : ChatWorld) (a : ChatWorldAction) (t : ChatWorld)
    (hs : s.AllComposed ∧ s.Started i) (h : s.step a = some t) :
    t.AllComposed ∧ t.Started i := by
  refine ⟨allComposed_step s a t hs.1 h, ?_⟩
  obtain ⟨hall, c, hc, hhidden⟩ := hs
  have hi := (List.getElem?_eq_some_iff.mp hc).1
  cases a with
  | viewDidLoad user roomPk isJoinjang =>
    obtain rfl := Option.some.inj h
    exact ⟨c, by rw [List.getElem?_append_left hi, hc], hhidden⟩
  | screen j a =>
    obtain ⟨c₀, c', w, hc₀, hstep, rfl⟩ := step_screen h
    rcases eq_or_ne j i with rfl | hne
    · obtain rfl : c₀ = c := Option.some.inj (hc₀.symm.trans hc)
      refine ⟨c', List.getElem?_set_self hi, ?_⟩
      exact (composed_step (hall c₀ (List.mem_of_getElem? hc₀)) hstep).2 hhidden
    · exact ⟨c, by rw [List.getElem?_set_ne hne, hc], hhidden⟩
  | commit j =>
    obtain ⟨w, -, -, hscreens⟩ := step_commit h
    refine ⟨c.notify t.db.chat w.roomPk, by rw [hscreens, List.getElem?_map, hc]; rfl, ?_⟩
    rw [ChatScreen.notify]
    split_ifs
    · exact hhidden
    · exact hhidden

/-- **What a chat screen never does.** In every state of every run, the placeholder is hidden
exactly while there is a text, and no scrolling asks for a row that the table does not have;
the text view is hidden on a leader's screen only, and once it is, whatever happens, the
screen never sends again. -/
theorem screens_composed {as : List ChatWorldAction} (hr : run step initial as = some t) :
    (∀ c ∈ t.screens, c.placeHolderHidden = c.hasText ∧
      (∀ row ∈ c.chattingScroll, row < c.rows) ∧
      (c.messageTextViewHidden = true → c.isJoinjang = true)) ∧
    ∀ i, t.Started i → ∀ bs u, run step t bs = some u →
      ∀ hourAt minuteAt secondAt, u.step (.screen i (.send hourAt minuteAt secondAt)) = none := by
  have hall : t.AllComposed := run_invariant allComposed_step allComposed_initial hr
  constructor
  · intro c hc
    obtain ⟨hplaceHolder, hrows, -, hleader⟩ := hall c hc
    refine ⟨hplaceHolder, fun row hrow => ?_, hleader⟩
    rw [ChatScreen.chattingScroll] at hrow
    split_ifs at hrow with hmany
    · obtain rfl := Option.some.inj hrow
      rw [hrows]
      omega
    · exact absurd hrow (Option.not_mem_none row)
  · intro i hstarted bs u hu hourAt minuteAt secondAt
    obtain ⟨-, c, hc, hhidden⟩ := run_invariant started_step ⟨hall, hstarted⟩ hu
    rw [step, hc]
    dsimp only
    rw [ChatScreen.step, if_neg (by simp [hhidden])]

/-- The leader starts the game with a text in the text view: it stays there, and is never
sent. -/
theorem gameStarted_silent : ∃ t,
    run step initial [.viewDidLoad mina 7 true, .screen 0 (.didChange "wait"),
      .screen 0 .gameStart] = some t ∧
    t.screens.map ChatScreen.text = ["wait"] ∧ ∀ bs u, run step t bs = some u →
      ∀ hourAt minuteAt secondAt, u.step (.screen 0 (.send hourAt minuteAt secondAt)) = none := by
  have hr : run step initial [.viewDidLoad mina 7 true, .screen 0 (.didChange "wait"),
      .screen 0 .gameStart] = some _ := rfl
  exact ⟨_, hr, rfl, (screens_composed hr).2 0 ⟨_, rfl, rfl⟩⟩

end ChatWorld

end Joinus
