import Joinus.Base.Collection
import Joinus.Base.Run
import Joinus.Chat.Message
import Mathlib.Data.String.Basic
import Mathlib.Logic.Function.Basic

/-!
# The chat collections, and what becomes of the messages

Each room has a collection `chat`, to which every client writes on its own: a
message is handed to `setDBdata` on the client at once, and reaches the collection
when the database applies the write – at any later moment, and not necessarily in
the order in which the writes were made. A write replaces the document stored under
its id, if there is one.

The state is therefore the collections, and the writes not yet applied
(`Joinus.ChatState`); a step is a tap on a send button by any user in any room, or
the application of any outstanding write. What the app shows of a collection is
what its listener delivers, all documents in ascending order of ids
(`Joinus.getMessage`). A writer's own listener is told of its writes at once, before
they have been applied; that is left out, so that all devices are told alike, when a
write is applied.

Everything about a run is said by one lemma, `Joinus.exists_applied`: the writes
handed over are those applied and those outstanding, the collections are what the
applied writes leave behind, and no write replaced a document exactly when the
applied writes went to different ids. From it follow both results on the messages of
a room: when none of them is lost (`Joinus.messages_kept_iff`), and, in
`Joinus.Chat.Order`, when they are shown in the order in which they were sent.
-/

namespace Joinus

open Base

/-! ### The system -/

/-- The `chat` collections of the rooms, and the writes that have been handed to the
database but not been applied. -/
structure ChatState where
  chat : ℤ → Collection String Document
  pending : List SetData

/-- Rooms without messages. -/
def ChatState.initial : ChatState := ⟨fun _ => Collection.empty, []⟩

inductive ChatAction where
  /-- A tap on the send button of the chat screen of a room. -/
  | send (u : Sender) (roomPk : ℤ) (tap : SendTap)
  /-- The database applies one of the outstanding writes. -/
  | commit (i : ℕ)

/-- The database applies a write: `document(keyTime).setData(data)`. -/
def ChatState.setData (s : ChatState) (w : SetData) : ChatState :=
  { s with chat := Function.update s.chat w.roomPk ((s.chat w.roomPk).set w.keyTime w.data) }

def ChatState.step (s : ChatState) : ChatAction → Option ChatState
  | .send u roomPk tap =>
    match sendMessage u roomPk tap with
    | none => some s
    | some w => some { s with pending := s.pending ++ [w] }
  | .commit i =>
    match s.pending[i]? with
    | none => none
    | some w => some { s.setData w with pending := s.pending.eraseIdx i }

/-- `getMessage`: what the listener on a room stores in `snapShots`, row by row. -/
def getMessage (s : ChatState) (roomPk : ℤ) : List (String × Document) :=
  (s.chat roomPk).entries

/-! ### What a run hands over -/

/-- The writes `sendMessage` hands to `setDBdata` in a run. -/
def handed : List ChatAction → List SetData
  | [] => []
  | .send u roomPk tap :: as => (sendMessage u roomPk tap).toList ++ handed as
  | .commit _ :: as => handed as

/-- The times of day of the messages sent to a room in a run, as their senders'
clocks gave them. -/
def readings (roomPk : ℤ) : List ChatAction → List Reading
  | [] => []
  | .send u r tap :: as =>
    if r = roomPk ∧ ¬Blank tap.text then tap.reading u.timeZone :: readings roomPk as
    else readings roomPk as
  | .commit _ :: as => readings roomPk as

/-- The writes that go to a room, as ids with documents. -/
def writesTo (roomPk : ℤ) (ws : List SetData) : List (String × Document) :=
  (ws.filter (·.roomPk = roomPk)).map fun w => (w.keyTime, w.data)

theorem writesTo_cons_self (w : SetData) (ws : List SetData) :
    writesTo w.roomPk (w :: ws) = (w.keyTime, w.data) :: writesTo w.roomPk ws := by
  simp [writesTo]

theorem writesTo_cons_of_ne {w : SetData} {roomPk : ℤ} (h : w.roomPk ≠ roomPk)
    (ws : List SetData) : writesTo roomPk (w :: ws) = writesTo roomPk ws := by
  simp [writesTo, h]

theorem writesTo_perm {ws us : List SetData} (h : ws.Perm us) (roomPk : ℤ) :
    (writesTo roomPk ws).Perm (writesTo roomPk us) :=
  (h.filter _).map _

theorem mem_writesTo {w : SetData} {ws : List SetData} (h : w ∈ ws) :
    (w.keyTime, w.data) ∈ writesTo w.roomPk ws :=
  List.mem_map.mpr ⟨w, List.mem_filter.mpr ⟨h, by simp⟩, rfl⟩

/-- **The ids of a room's messages are their times of day.** -/
theorem keys_handed {z : TimeZone} (roomPk : ℤ) (as : List ChatAction) :
    (writesTo roomPk (handed as)).map Prod.fst = (readings roomPk as).map (keyTime z) := by
  induction as with
  | nil => rfl
  | cons a as ih =>
    cases a with
    | commit i => exact ih
    | send u r tap =>
      rw [handed, readings, sendMessage_eq]
      by_cases hblank : Blank tap.text
      · simpa [hblank] using ih
      · rw [if_neg hblank, Option.toList_some, List.singleton_append]
        by_cases hr : r = roomPk
        · subst hr
          have hw := writesTo_cons_self (setDBdata u r (keyTime u.timeZone
            (tap.reading u.timeZone)) u.myPk (sendTime u (tap.reading u.timeZone)) tap.text)
            (handed as)
          rw [if_pos ⟨rfl, hblank⟩, List.map_cons, ← ih]
          exact congrArg (List.map Prod.fst) hw
        · rw [if_neg (fun h => hr h.1), writesTo_cons_of_ne hr, ih]

/-! ### What a run leaves behind -/

/-- A step that replaces no document. -/
def ReplacesNothing (s : ChatState) : ChatAction → Prop
  | .send .. => True
  | .commit i => ∀ w ∈ s.pending[i]?, (s.chat w.roomPk).get w.keyTime = none

instance (s : ChatState) : ∀ a, Decidable (ReplacesNothing s a)
  | .send .. => isTrue trivial
  | .commit i => inferInstanceAs (Decidable (∀ w ∈ s.pending[i]?, _))

theorem chat_setData_self (s : ChatState) (w : SetData) :
    (s.setData w).chat w.roomPk = (s.chat w.roomPk).set w.keyTime w.data :=
  Function.update_self ..

theorem chat_setData_of_ne (s : ChatState) {w : SetData} {roomPk : ℤ} (h : roomPk ≠ w.roomPk) :
    (s.setData w).chat roomPk = s.chat roomPk :=
  Function.update_of_ne h ..

/-- The ids a room has used, once the writes of a list have been applied. -/
def usedKeys (s : ChatState) (ws : List SetData) (roomPk : ℤ) : List String :=
  ((s.chat roomPk).entries ++ writesTo roomPk ws).map Prod.fst

/-- Applying one more write leaves the ids of every room pairwise different, if it
goes to a new id. -/
theorem nodup_usedKeys_setData (s : ChatState) (w : SetData) (ws : List SetData) :
    (∀ r, (usedKeys s (w :: ws) r).Nodup) ↔
      (s.chat w.roomPk).get w.keyTime = none ∧ ∀ r, (usedKeys (s.setData w) ws r).Nodup := by
  have hother : ∀ r ≠ w.roomPk, usedKeys (s.setData w) ws r = usedKeys s (w :: ws) r := by
    intro r hr
    rw [usedKeys, usedKeys, chat_setData_of_ne s hr, writesTo_cons_of_ne hr.symm]
  -- under a new id, the write goes the same way into the collection as before it
  have hroom : (s.chat w.roomPk).get w.keyTime = none →
      (usedKeys (s.setData w) ws w.roomPk).Perm (usedKeys s (w :: ws) w.roomPk) := by
    intro hfree
    rw [usedKeys, usedKeys, chat_setData_self, writesTo_cons_self]
    refine List.Perm.map _ (List.Perm.trans ?_ List.perm_middle.symm)
    exact (place_perm_of_fresh (Collection.get_eq_none.mp hfree)).append_right _
  constructor
  · intro h
    have hfree : (s.chat w.roomPk).get w.keyTime = none := by
      refine Collection.get_eq_none.mpr fun hused => ?_
      have hnodup := h w.roomPk
      rw [usedKeys, writesTo_cons_self, List.map_append, List.map_cons] at hnodup
      exact (List.nodup_append.mp hnodup).2.2 _ hused _ List.mem_cons_self rfl
    refine ⟨hfree, fun r => ?_⟩
    by_cases hr : r = w.roomPk
    · subst hr
      exact (hroom hfree).nodup_iff.mpr (h w.roomPk)
    · exact hother r hr ▸ h r
  · rintro ⟨hfree, h⟩ r
    by_cases hr : r = w.roomPk
    · subst hr
      exact (hroom hfree).nodup_iff.mp (h w.roomPk)
    · exact hother r hr ▸ h r

/-- **A run, by the writes it applies**: with those still outstanding they are the
writes that were outstanding or have been handed over since; the collections are
what they leave behind; and no step replaced a document exactly when the ids in each
room stayed different. -/
theorem exists_applied {s t : ChatState} {as : List ChatAction}
    (hr : run ChatState.step s as = some t) :
    ∃ ws, (s.pending ++ handed as).Perm (ws ++ t.pending) ∧
      (∀ r, t.chat r = (s.chat r).setAll (writesTo r ws)) ∧
      (Along ChatState.step ReplacesNothing s as ↔ ∀ r, (usedKeys s ws r).Nodup) := by
  induction as generalizing s with
  | nil =>
    obtain rfl : s = t := by simpa using hr
    refine ⟨[], by simp [handed], fun r => rfl, iff_of_true trivial fun r => ?_⟩
    rw [usedKeys, writesTo, List.filter_nil, List.map_nil, List.append_nil]
    exact fst_nodup_of_ascending (s.chat r).ascending
  | cons a as ih =>
    obtain ⟨s', hstep, hrest⟩ := run_cons_eq_some.mp hr
    obtain ⟨ws, hperm, hchat, halong⟩ := ih hrest
    rw [along_cons_of_step hstep]
    cases a with
    | send u roomPk tap =>
      -- the write joins the outstanding ones, the collections stay
      have hsame : s'.chat = s.chat ∧
          s'.pending = s.pending ++ (sendMessage u roomPk tap).toList := by
        rw [ChatState.step] at hstep
        cases hw : sendMessage u roomPk tap with
        | none =>
          simp only [hw, Option.some.injEq] at hstep
          simp [← hstep]
        | some w =>
          simp only [hw, Option.some.injEq] at hstep
          simp [← hstep]
      have hused : ∀ r, usedKeys s' ws r = usedKeys s ws r := fun r => by
        rw [usedKeys, usedKeys, hsame.1]
      refine ⟨ws, ?_, fun r => by rw [hchat r, hsame.1], ?_⟩
      · rw [handed, ← List.append_assoc, ← hsame.2]
        exact hperm
      · simpa only [ReplacesNothing, true_and, hused] using halong
    | commit i =>
      rw [ChatState.step] at hstep
      cases hw : s.pending[i]? with
      | none => simp [hw] at hstep
      | some w =>
        simp only [hw, Option.some.injEq] at hstep
        have hpending : s.pending.Perm (w :: s'.pending) := by
          rw [← hstep]
          exact perm_cons_eraseIdx hw
        have hset : ∀ r, s'.chat r = (s.setData w).chat r := fun r => by rw [← hstep]
        refine ⟨w :: ws, ?_, fun r => ?_, ?_⟩
        · exact (hpending.append_right _).trans (hperm.cons w)
        · rw [hchat r, hset r]
          by_cases hroom : w.roomPk = r
          · subst hroom
            rw [chat_setData_self, writesTo_cons_self, Collection.setAll_cons]
          · rw [chat_setData_of_ne s (Ne.symm hroom), writesTo_cons_of_ne hroom]
        · have hused : ∀ r, usedKeys s' ws r = usedKeys (s.setData w) ws r := fun r => by
            rw [usedKeys, usedKeys, hset r]
          rw [nodup_usedKeys_setData, halong]
          simp only [ReplacesNothing, hw, hused, Option.mem_def, Option.some.injEq, forall_eq']

/-- A run from empty rooms that has nothing outstanding has applied what was handed
over, in some order. -/
theorem exists_applied_of_done {t : ChatState} {as : List ChatAction}
    (hr : run ChatState.step ChatState.initial as = some t) (hdone : t.pending = []) :
    ∃ ws, (handed as).Perm ws ∧
      (∀ r, t.chat r = Collection.empty.setAll (writesTo r ws)) ∧
      (Along ChatState.step ReplacesNothing ChatState.initial as ↔
        ∀ r, ((writesTo r ws).map Prod.fst).Nodup) := by
  obtain ⟨ws, hperm, hchat, halong⟩ := exists_applied hr
  rw [hdone, List.append_nil] at hperm
  exact ⟨ws, hperm, hchat, halong⟩

theorem nodup_readings_iff {ws : List SetData} {as : List ChatAction} (hperm : (handed as).Perm ws)
    (r : ℤ) : ((writesTo r ws).map Prod.fst).Nodup ↔ (readings r as).Nodup := by
  rw [← ((writesTo_perm hperm r).map Prod.fst).nodup_iff, keys_handed (z := TimeZone.fixed 0),
    List.nodup_map_iff fun _ _ h => keyTime_inj.mp h]

/-! ### No message is lost -/

/-- **When no message is lost**: once all writes of a run have been applied, no step
has replaced a document and every message handed to `setDBdata` is a document of its
room – if and only if no two messages of one room were sent at the same time of
day, by the senders' own clocks, on whatever days and by whatever users. -/
theorem messages_kept_iff {t : ChatState} {as : List ChatAction}
    (hr : run ChatState.step ChatState.initial as = some t) (hdone : t.pending = []) :
    (Along ChatState.step ReplacesNothing ChatState.initial as ∧
        ∀ w ∈ handed as, (t.chat w.roomPk).get w.keyTime = some w.data) ↔
      ∀ r, (readings r as).Nodup := by
  obtain ⟨ws, hperm, hchat, halong⟩ := exists_applied_of_done hr hdone
  rw [halong]
  refine ⟨fun h r => (nodup_readings_iff hperm r).mp (h.1 r), fun h => ?_⟩
  have hnodup : ∀ r, ((writesTo r ws).map Prod.fst).Nodup := fun r =>
    (nodup_readings_iff hperm r).mpr (h r)
  refine ⟨hnodup, fun w hw => Collection.get_eq_some.mpr ?_⟩
  rw [hchat, (Collection.entries_setAll_perm_iff.mpr (hnodup w.roomPk)).mem_iff]
  exact mem_writesTo (hperm.mem_iff.mp hw)

/-! ### Two users at one second -/

/-- Two users of one room, with their clocks set to the time zone of Seoul. -/
def mina : Sender := ⟨1, "mina", TimeZone.fixed 32400, "AM"⟩

def joon : Sender := ⟨2, "joon", TimeZone.fixed 32400, "AM"⟩

/-- A tap with all three readings at one instant. -/
def SendTap.at (text : String) (t : Instant) : SendTap := ⟨text, t, t, t⟩

/-- Both users send to room `7` at five past nine, and both writes are applied. -/
def sameSecond : List ChatAction :=
  [.send mina 7 (.at "hello" 300), .send joon 7 (.at "hi" 300), .commit 0, .commit 0]

/-- The same, with one second between the two. -/
def nextSecond : List ChatAction :=
  [.send mina 7 (.at "hello" 300), .send joon 7 (.at "hi" 301), .commit 1, .commit 0]

/-- **Two users who send within one second overwrite one another**: the first
message is no longer a document of the room. -/
theorem sameSecond_loses_message :
    ∃ t, run ChatState.step ChatState.initial sameSecond = some t ∧ t.pending = [] ∧
      ¬∀ w ∈ handed sameSecond, (t.chat w.roomPk).get w.keyTime = some w.data :=
  ⟨_, rfl, rfl, by decide⟩

/-- One second apart, both messages are kept. -/
theorem nextSecond_keeps_messages :
    ∃ t, run ChatState.step ChatState.initial nextSecond = some t ∧ t.pending = [] ∧
      (Along ChatState.step ReplacesNothing ChatState.initial nextSecond ∧
        ∀ w ∈ handed nextSecond, (t.chat w.roomPk).get w.keyTime = some w.data) := by
  refine ⟨_, rfl, rfl, (messages_kept_iff rfl rfl).mpr fun r => ?_⟩
  by_cases hr : 7 = r
  · subst hr
    decide
  · simp [nextSecond, readings, hr]

end Joinus
