import Joinus.Chat.Row
import Joinus.Chat.Screens

/-!
# What a reader gets to read

The last stretch of the way of a message: the table of a chat screen makes its rows, one by
one, with `cellForRowAt`, of the documents in `snapShots` and the roster that the screen was
pushed with. So what stands in a row depends on two things that have come to the device on
different ways and at different times, and neither need be up to date.

| what is wrong | what the reader gets |
|---|---|
| the snapshots are old, or some have been passed over | fewer rows, all of them of messages |
| the roster has another name for the sender | the name that the sender has sent |
| the roster has another picture | that one |
| the roster does not have the sender | the end of the app |

Whatever the state of the two, a row is never anything but a message: what stands in it was,
as a whole, in the text view of a screen of the same room when its send button was tapped
(`Joinus.ChatWorld.read_as_sent`). This is for all screens at all times, with writes
outstanding and snapshots on their way; what is there in the end, when there are none, is
said in `Joinus.ChatWorld.screens_show_messages`.
-/

namespace Joinus

open Base

/-! ### The row of a text -/

/-- **The row that a reader should get** of a text that was sent: the reader's own without a
picture, another's with the one that the roster has for the sender. There is none if the
roster has no sender, or the picture cannot be had. -/
def SendTap.cell {Image : Type} (tap : SendTap) (u : Sender) (load : String → Option Image)
    (myPk : ℤ) (roomInfo : GetRoomInfo) : Option (ChattingCell Image) :=
  if u.myPk = myPk then
    some ⟨true, none, u.myGameID, sendTime u (tap.reading u.timeZone), tap.text⟩
  else
    match senderInfo roomInfo.userList u.myPk with
    | none => none
    | some info =>
      (imageURL load info.imageAddress).map fun image =>
        ⟨false, some image, u.myGameID, sendTime u (tap.reading u.timeZone), tap.text⟩

/-- The row of what is written is the row of what was sent, on any roster. -/
theorem cellForRowAt_setDBdata {Image : Type} (load : String → Option Image) (u : Sender)
    (roomPk : ℤ) (key : String) (pk myPk : ℤ) (tap : SendTap) (roomInfo : GetRoomInfo) :
    cellForRowAt load myPk roomInfo
        (setDBdata u roomPk key pk (sendTime u (tap.reading u.timeZone)) tap.text).data =
      tap.cell u load myPk roomInfo := by
  rw [cellForRowAt, lookup_setDBdata_toString, SendTap.cell]
  by_cases hown : myPk = u.myPk
  · rw [if_pos hown, if_pos hown.symm]
    rfl
  · rw [if_neg hown, if_neg (Ne.symm hown), otherRow_setDBdata]
    rcases senderInfo roomInfo.userList u.myPk with - | info
    · rfl
    · dsimp only
      rcases imageURL load info.imageAddress with - | image
      · rfl
      · rfl

namespace ChatScreen

/-- All lists of documents that a screen has, or will be given. -/
def lists (c : ChatScreen) : List (List (String × Document)) :=
  c.snapShots :: c.listener.getD []

theorem snapShots_mem_lists (c : ChatScreen) : c.snapShots ∈ c.lists := List.mem_cons_self

/-- **No action on a screen makes a list of documents.** -/
theorem lists_step {c c' : ChatScreen} {a : ScreenAction} {w : Option SetData}
    (h : c.step a = some (c', w)) : c'.lists ⊆ c.lists ∧ c'.roomPk = c.roomPk := by
  rcases a with text | - | ⟨hourAt, minuteAt, secondAt⟩ | - | - | n | - | - | -
  case didEndEditing =>
    obtain ⟨rfl, -⟩ := Prod.mk.inj (Option.some.inj h)
    exact ⟨List.Subset.refl _, rfl⟩
  case snapShot =>
    rw [step] at h
    split at h
    · exact absurd h (by simp)
    · next documents hlistener =>
      split at h
      · exact absurd h (by simp)
      · next snapShot hn =>
        obtain ⟨rfl, -⟩ := Prod.mk.inj (Option.some.inj h)
        refine ⟨fun d hd => ?_, rfl⟩
        rw [lists, hlistener, Option.getD_some]
        -- what has been taken out is what is shown, and what remains was behind it
        rcases List.mem_cons.mp hd with rfl | hd
        · exact List.mem_cons_of_mem _ (List.mem_of_getElem? hn)
        · exact List.mem_cons_of_mem _ (List.mem_of_mem_drop hd)
  case err | viewDidDisappear =>
    rw [step] at h
    split_ifs at h
    obtain ⟨rfl, -⟩ := Prod.mk.inj (Option.some.inj h)
    refine ⟨fun d hd => ?_, rfl⟩
    rcases List.mem_cons.mp hd with rfl | hd
    · exact snapShots_mem_lists c
    · exact absurd hd List.not_mem_nil
  all_goals
    rw [step] at h
    split_ifs at h
    obtain ⟨rfl, -⟩ := Prod.mk.inj (Option.some.inj h)
    exact ⟨List.Subset.refl _, rfl⟩

theorem lists_notify {chat : ℤ → Collection String Document} {roomPk : ℤ} {c : ChatScreen}
    {d : List (String × Document)} (hd : d ∈ (c.notify chat roomPk).lists) :
    d ∈ c.lists ∨ c.roomPk = roomPk ∧ d = (chat roomPk).entries := by
  rw [notify] at hd
  split_ifs at hd with hroom
  · rcases List.mem_cons.mp hd with rfl | hd
    · exact Or.inl (snapShots_mem_lists c)
    · rcases hlistener : c.listener with - | documents
      · simp [hlistener] at hd
      · simp only [hlistener, Option.map_some, Option.getD_some] at hd
        rcases List.mem_append.mp hd with hd | hd
        · refine Or.inl (List.mem_cons_of_mem _ ?_)
          rwa [hlistener, Option.getD_some]
        · exact Or.inr ⟨hroom, List.mem_singleton.mp hd⟩
  · exact Or.inl hd

theorem roomPk_notify (chat : ℤ → Collection String Document) (roomPk : ℤ) (c : ChatScreen) :
    (c.notify chat roomPk).roomPk = c.roomPk := by
  rw [notify]
  split_ifs <;> rfl

end ChatScreen

namespace ChatWorld

variable {s t : ChatWorld}

/-! ### Where the lists of documents come from -/

/-- **A list of a screen after a step**: one of the lists of a screen before it, or what is in
the collection afterwards. Only a screen that has just been loaded has an empty one. -/
theorem lists_of_step {a : ChatWorldAction} (h : s.step a = some t) {c : ChatScreen}
    (hc : c ∈ t.screens) {d : List (String × Document)} (hd : d ∈ c.lists) :
    (∃ c₀ ∈ s.screens, c₀.roomPk = c.roomPk ∧ d ∈ c₀.lists) ∨ d = [] ∨
      d = getMessage t.db c.roomPk := by
  rcases a with ⟨user, roomPk, isJoinjang⟩ | ⟨i, a⟩ | i
  · obtain rfl := Option.some.inj h
    rcases List.mem_append.mp hc with hold | hnew
    · exact Or.inl ⟨c, hold, rfl, hd⟩
    · obtain rfl := List.mem_singleton.mp hnew
      rcases List.mem_cons.mp hd with rfl | hd
      · exact Or.inr (Or.inl rfl)
      · exact Or.inr (Or.inr (List.mem_singleton.mp hd))
  · obtain ⟨c₀, c', w, hc₀, hstep, rfl⟩ := step_screen h
    rcases List.mem_or_eq_of_mem_set hc with hold | rfl
    · exact Or.inl ⟨c, hold, rfl, hd⟩
    · obtain ⟨hlists, hroom⟩ := ChatScreen.lists_step hstep
      exact Or.inl ⟨c₀, List.mem_of_getElem? hc₀, hroom.symm, hlists hd⟩
  · obtain ⟨w, -, -, hscreens⟩ := step_commit h
    rw [hscreens] at hc
    obtain ⟨c₀, hc₀, rfl⟩ := List.mem_map.mp hc
    rw [ChatScreen.roomPk_notify]
    rcases ChatScreen.lists_notify hd with hold | ⟨hroom, rfl⟩
    · exact Or.inl ⟨c₀, hc₀, rfl, hold⟩
    · exact Or.inr (Or.inr (by rw [hroom]; rfl))

/-- Every list that a screen has or will be given is in ascending order of ids. -/
def AllAscending (s : ChatWorld) : Prop := ∀ c ∈ s.screens, ∀ d ∈ c.lists, Ascending d

theorem allAscending_step (s : ChatWorld) (a : ChatWorldAction) (t : ChatWorld)
    (hs : s.AllAscending) (h : s.step a = some t) : t.AllAscending := by
  intro c hc d hd
  rcases lists_of_step h hc hd with ⟨c₀, hc₀, -, hold⟩ | rfl | rfl
  · exact hs c₀ hc₀ d hold
  · exact List.Pairwise.nil
  · exact (t.db.chat c.roomPk).ascending

/-- **Where a document of a room can be**: outstanding, in the collection, or on a list of a
screen. -/
inductive Holds (s : ChatWorld) : ℤ × String × Document → Prop
  | pending {w : SetData} (hw : w ∈ s.db.pending) : Holds s (w.roomPk, w.keyTime, w.data)
  | stored {roomPk : ℤ} {row : String × Document} (h : row ∈ getMessage s.db roomPk) :
      Holds s (roomPk, row)
  | listed {c : ChatScreen} (hc : c ∈ s.screens) {d : List (String × Document)}
      (hd : d ∈ c.lists) {row : String × Document} (h : row ∈ d) : Holds s (c.roomPk, row)

/-- **A document is made** by a tap on the send button of a screen of its room. -/
def Makes (s : ChatWorld) (a : ChatWorldAction) (x : ℤ × String × Document) : Prop :=
  ∃ i hourAt minuteAt secondAt c w, a = .screen i (.send hourAt minuteAt secondAt) ∧
    s.screens[i]? = some c ∧ c.shown = true ∧ c.messageTextViewHidden = false ∧
    sendMessage c.user c.roomPk (c.sendTap hourAt minuteAt secondAt) = some w ∧
    x = (w.roomPk, w.keyTime, w.data)

/-- What is in the collections and outstanding after a step was so before, or is made. -/
theorem holds_db {a : ChatWorldAction} (h : s.step a = some t) {w : SetData}
    (hw : w ∈ t.db.pending) :
    Holds s (w.roomPk, w.keyTime, w.data) ∨ s.Makes a (w.roomPk, w.keyTime, w.data) := by
  rcases a with ⟨user, roomPk, isJoinjang⟩ | ⟨i, a⟩ | i
  · obtain rfl := Option.some.inj h
    exact Or.inl (.pending hw)
  · obtain ⟨c, c', w', hc, hstep, rfl⟩ := step_screen h
    rcases List.mem_append.mp hw with hold | hnew
    · exact Or.inl (.pending hold)
    · rcases write_of_step hstep with ⟨hourAt, minuteAt, secondAt, rfl, hsent⟩ | ⟨-, rfl⟩
      · obtain rfl : w' = some w := Option.mem_toList.mp hnew
        rw [ChatScreen.step] at hstep
        split_ifs at hstep with hoffered
        exact Or.inr ⟨i, hourAt, minuteAt, secondAt, c, w, rfl, hc, hoffered.1, hoffered.2,
          hsent.symm, rfl⟩
      · exact absurd hnew List.not_mem_nil
  · obtain ⟨w', -, hdb, -⟩ := step_commit h
    rw [hdb] at hw
    exact Or.inl (.pending (List.mem_of_mem_eraseIdx hw))

theorem holds_stored {a : ChatWorldAction} (h : s.step a = some t) {roomPk : ℤ}
    {row : String × Document} (hrow : row ∈ getMessage t.db roomPk) : Holds s (roomPk, row) := by
  rcases a with ⟨user, room, isJoinjang⟩ | ⟨i, a⟩ | i
  · obtain rfl := Option.some.inj h
    exact .stored hrow
  · obtain ⟨c, c', w', -, -, rfl⟩ := step_screen h
    exact .stored hrow
  · obtain ⟨w, hw, hdb, -⟩ := step_commit h
    rw [hdb, getMessage] at hrow
    rcases eq_or_ne roomPk w.roomPk with rfl | hne
    · have hset : row ∈ ((s.db.chat w.roomPk).set w.keyTime w.data).entries := by
        rwa [← chat_setData_self s.db w]
      rcases mem_of_mem_place hset with rfl | hold
      · exact .pending (List.mem_of_getElem? hw)
      · exact .stored hold
    · refine .stored ?_
      rw [getMessage, ← chat_setData_of_ne s.db hne]
      exact hrow

/-- **A step holds nothing but what was held before it, or what it makes.** -/
theorem holds_step (s : ChatWorld) (a : ChatWorldAction) (t : ChatWorld)
    (x : ℤ × String × Document) (h : s.step a = some t) (hx : Holds t x) :
    Holds s x ∨ s.Makes a x := by
  rcases hx with hw | hrow | ⟨hc, hd, hrow⟩
  · exact holds_db h hw
  · exact Or.inl (holds_stored h hrow)
  · rcases lists_of_step h hc hd with ⟨c₀, hc₀, hroom, hold⟩ | rfl | rfl
    · exact Or.inl (hroom ▸ .listed hc₀ hold hrow)
    · exact absurd hrow List.not_mem_nil
    · exact Or.inl (holds_stored h hrow)

/-! ### What is read -/

/-- **A text was sent** to a room in a run: it was in the text view of a screen of the room
when the send button of that screen was tapped. -/
def Sent (as : List ChatWorldAction) (roomPk : ℤ) (u : Sender) (tap : SendTap) : Prop :=
  ∃ pre i s c, pre ++ [.screen i (.send tap.hourAt tap.minuteAt tap.secondAt)] <+: as ∧
    run step initial pre = some s ∧ s.screens[i]? = some c ∧ c.shown = true ∧
    c.messageTextViewHidden = false ∧ c.user = u ∧ c.roomPk = roomPk ∧ c.text = tap.text ∧
    ¬Blank tap.text

theorem not_holds_initial (x : ℤ × String × Document) : ¬Holds initial x := by
  rintro (hw | hrow | ⟨hc, -, -⟩)
  · exact List.not_mem_nil hw
  · exact List.not_mem_nil hrow
  · exact List.not_mem_nil hc

/-- **Every document is a message**, wherever it is. -/
theorem exists_sent {as : List ChatWorldAction} (hr : run step initial as = some t) {roomPk : ℤ}
    {row : String × Document} (hrow : Holds t (roomPk, row)) :
    ∃ u tap, Sent as roomPk u tap ∧
      row = (keyTime u.timeZone (tap.reading u.timeZone),
        (setDBdata u roomPk (keyTime u.timeZone (tap.reading u.timeZone)) u.myPk
          (sendTime u (tap.reading u.timeZone)) tap.text).data) := by
  rcases exists_origin holds_step hr hrow with hstart | ⟨pre, a, s, hpre, hs, hmade⟩
  · exact absurd hstart (not_holds_initial _)
  · obtain ⟨i, hourAt, minuteAt, secondAt, c, w, rfl, hc, hshown, hhidden, hsent, heq⟩ := hmade
    rw [sendMessage_eq] at hsent
    split_ifs at hsent with hblank
    obtain rfl := Option.some.inj hsent
    obtain ⟨rfl, rfl⟩ := Prod.mk.inj heq
    exact ⟨c.user, c.sendTap hourAt minuteAt secondAt,
      ⟨pre, i, s, c, hpre, hs, hc, hshown, hhidden, rfl, rfl, rfl, hblank⟩, rfl⟩

/-- **What is read is what was sent.** At any time of any run, the rows of a screen have
different ids, in ascending order; and each of them is made of one text that was sent to the
room of the screen, and shows this text, with the name of its sender and the time it was sent
at – whatever the roster of the screen, and unless the roster does not know the sender or the
picture cannot be had. -/
theorem read_as_sent {Image : Type} (load : String → Option Image) (roomInfo : GetRoomInfo)
    {as : List ChatWorldAction} (hr : run step initial as = some t) {c : ChatScreen}
    (hc : c ∈ t.screens) :
    Ascending c.snapShots ∧ ∀ row ∈ c.snapShots, ∃ u tap, Sent as c.roomPk u tap ∧
      row.1 = keyTime u.timeZone (tap.reading u.timeZone) ∧
      cellForRowAt load c.user.myPk roomInfo row.2 = tap.cell u load c.user.myPk roomInfo := by
  have hascending : t.AllAscending := run_invariant allAscending_step
    (fun c hc => absurd hc List.not_mem_nil) hr
  refine ⟨hascending c hc _ c.snapShots_mem_lists, fun row hrow => ?_⟩
  obtain ⟨u, tap, hsent, rfl⟩ := exists_sent hr (.listed hc c.snapShots_mem_lists hrow)
  refine ⟨u, tap, hsent, rfl, ?_⟩
  exact cellForRowAt_setDBdata load u c.roomPk (keyTime u.timeZone (tap.reading u.timeZone)) u.myPk
    c.user.myPk tap roomInfo

/-- Joon reads the hello, on a roster that has another name for Mina. -/
theorem helloRead_read : ∃ t c, run step initial helloRead = some t ∧ t.screens[1]? = some c ∧
    c.snapShots.map (fun row => cellForRowAt some 2 jinAndBora row.2) =
      [some ⟨false, some "image", "mina", "AM 9:05", "hello"⟩] ∧
    ∀ row ∈ c.snapShots, ∃ u tap, Sent helloRead 7 u tap ∧
      row.1 = keyTime u.timeZone (tap.reading u.timeZone) ∧
      cellForRowAt some 2 jinAndBora row.2 = tap.cell u some 2 jinAndBora := by
  have hr : run step initial helloRead = some _ := rfl
  exact ⟨_, _, hr, rfl, rfl,
    (read_as_sent some jinAndBora hr (List.mem_of_getElem? (i := 1) rfl)).2⟩

end ChatWorld

end Joinus
