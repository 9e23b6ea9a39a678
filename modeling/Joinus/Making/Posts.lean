import Mathlib.Data.List.Nodup
import Joinus.Making.Sessions

/-!
# How many rooms a form makes

What ends a session after its room has been posted is the answer to the *second* of
two chained requests, and until then the form is on screen with its values, and its
confirm button does what it did the first time. So a form can post again while its
first request is on its way, and again after that request has succeeded: while the
list of rooms is being fetched, or after fetching it has failed.

A form makes one room at most if its confirm button is left alone in these states,
and a tap in one of them is exactly one that some answers turn into a second room
(`Joinus.MakingApp.one_room_iff`).

What is counted is kept in one list: the sessions that have succeeded, and after them
the sessions with a request on its way (`Joinus.MakingApp.rooms`). An answer moves a
session from the second part to the first, or drops it, and only a tap adds one.
-/

namespace Joinus

open Base

/-- The session of a `postRoom` request. -/
def MakingCall.posting : MakingCall → Option ℕ
  | .postRoom session => some session
  | .getRoom _ => none

/-- An answer to one of the two requests. -/
def MakingAction.IsReply : MakingAction → Prop
  | .postReply _ _ => True
  | .getReply _ _ => True
  | _ => False

namespace MakingApp

/-- The rooms there are, and those on their way, by session. -/
def rooms (s : MakingApp) : List ℕ := s.created ++ s.pending.filterMap MakingCall.posting

/-- **The confirm button is tapped once**: not on a complete form whose session has
a request on its way, or has made a room already. -/
def ConfirmsOnce (s : MakingApp) : MakingAction → Prop
  | .confirm =>
    ¬s.model.Incomplete → s.session ∉ s.created ∧ MakingCall.postRoom s.session ∉ s.pending
  | _ => True

instance (s : MakingApp) : ∀ a, Decidable (ConfirmsOnce s a)
  | .confirm => inferInstanceAs (Decidable (_ → _))
  | .openForm _ | .edit _ | .close | .postReply _ _ | .getReply _ _ => isTrue trivial

/-! ### Taps and answers -/

@[simp] theorem mem_posting {calls : List MakingCall} {n : ℕ} :
    n ∈ calls.filterMap MakingCall.posting ↔ MakingCall.postRoom n ∈ calls := by
  rw [List.mem_filterMap]
  constructor
  · rintro ⟨call, hcall, hn⟩
    cases call with
    | postRoom m => exact Option.some.inj hn ▸ hcall
    | getRoom m => exact absurd hn nofun
  · intro h
    exact ⟨_, h, rfl⟩

/-- Taking out an answered request takes out its session, if it was a `postRoom`. -/
theorem posting_perm {calls : List MakingCall} {i : ℕ} {call : MakingCall}
    (h : calls[i]? = some call) :
    (calls.filterMap MakingCall.posting).Perm
      (call.posting.toList ++ (calls.eraseIdx i).filterMap MakingCall.posting) := by
  have hperm := (perm_cons_eraseIdx h).filterMap MakingCall.posting
  cases call with
  | postRoom n => exact hperm
  | getRoom n => exact hperm

/-- A form of which nothing is counted adds one by a tap. -/
theorem rooms_nodup_confirm {s : MakingApp} {p : ℕ × PostRoom} (hs : s.rooms.Nodup)
    (hcreated : s.session ∉ s.created) (hpending : MakingCall.postRoom s.session ∉ s.pending) :
    ({ s with
        pending := s.pending ++ [.postRoom s.session]
        posted := s.posted ++ [p] } : MakingApp).rooms.Nodup := by
  have hnew : s.session ∉ s.rooms := by
    rw [rooms, List.mem_append, mem_posting]
    exact fun h => h.elim hcreated hpending
  have hrooms : s.created ++
      (s.pending ++ [MakingCall.postRoom s.session]).filterMap MakingCall.posting =
      s.rooms ++ [s.session] := by
    rw [List.filterMap_append, ← List.append_assoc]
    rfl
  rw [rooms, hrooms, ← List.concat_eq_append]
  exact hs.concat hnew

/-- An answer to `postRoom` moves its session, or drops it. -/
theorem rooms_nodup_answerPost {s : MakingApp} {i n : ℕ} (r : Reply ℤ) (hs : s.rooms.Nodup)
    (hi : s.pending[i]? = some (.postRoom n)) :
    (({ s with pending := s.pending.eraseIdx i } : MakingApp).answerPost n r).rooms.Nodup := by
  have hmoved : (s.created ++
      n :: (s.pending.eraseIdx i).filterMap MakingCall.posting).Nodup :=
    ((posting_perm hi).append_left s.created).nodup_iff.mp hs
  have hdropped : (s.created ++ (s.pending.eraseIdx i).filterMap MakingCall.posting).Nodup :=
    hmoved.sublist ((List.sublist_cons_self _ _).append_left _)
  cases r with
  | decoded pk =>
    have hrooms : (s.created ++ [n]) ++
        (s.pending.eraseIdx i ++ [MakingCall.getRoom n]).filterMap MakingCall.posting =
        s.created ++ n :: (s.pending.eraseIdx i).filterMap MakingCall.posting := by
      rw [List.filterMap_append, List.append_assoc]
      simp [MakingCall.posting]
    rw [answerPost, rooms, hrooms]
    exact hmoved
  | undecodable => exact hdropped
  | failure => exact hdropped

/-- An answer to `getRoom` is not counted. -/
theorem rooms_nodup_answerGet {s : MakingApp} {i n : ℕ} (r : Reply (List GetRoomInfo))
    (hs : s.rooms.Nodup) (hi : s.pending[i]? = some (.getRoom n)) :
    (({ s with pending := s.pending.eraseIdx i } : MakingApp).answerGet n r).rooms.Nodup := by
  have hleft : (s.created ++ (s.pending.eraseIdx i).filterMap MakingCall.posting).Nodup :=
    ((posting_perm hi).append_left s.created).nodup_iff.mp hs
  cases r with
  | decoded data =>
    obtain ⟨hpending, hcreated, -⟩ :=
      pop_ghost { s with pending := s.pending.eraseIdx i, gameList := data } n
    rw [answerGet, rooms]
    dsimp only
    rw [hpending, hcreated]
    exact hleft
  | undecodable => exact hleft
  | failure => exact hleft

/-! ### One tap, one room -/

/-- **No session is counted twice**, in a step that does not tap the confirm button
again. -/
theorem rooms_nodup_step {z : TimeZone} {myPk : ℤ} (s : MakingApp) (a : MakingAction)
    (t : MakingApp) (hs : s.rooms.Nodup) (hc : ConfirmsOnce s a)
    (h : step z myPk s a = some t) : t.rooms.Nodup := by
  cases a with
  | openForm now =>
    obtain ⟨-, rfl⟩ := step_openForm h
    exact hs
  | edit a =>
    obtain ⟨f, u, -, -, rfl⟩ := step_edit h
    exact hs
  | confirm =>
    obtain ⟨-, ⟨-, rfl⟩ | ⟨hcomplete, rfl⟩⟩ := step_confirm h
    · exact hs
    · obtain ⟨hcreated, hpending⟩ := hc hcomplete
      exact rooms_nodup_confirm hs hcreated hpending
  | close =>
    obtain ⟨-, rfl⟩ := step_close h
    obtain ⟨hpending, hcreated, -⟩ := pop_ghost s s.session
    rw [rooms, hpending, hcreated]
    exact hs
  | postReply i r =>
    obtain ⟨n, hi, rfl⟩ := step_postReply h
    exact rooms_nodup_answerPost r hs hi
  | getReply i r =>
    obtain ⟨n, hi, rfl⟩ := step_getReply h
    exact rooms_nodup_answerGet r hs hi

theorem rooms_nodup {z : TimeZone} {myPk : ℤ} {s : MakingApp} {history : List MakingAction}
    (hr : run (step z myPk) launched history = some s)
    (honce : Along (step z myPk) ConfirmsOnce launched history) : s.rooms.Nodup :=
  run_invariant_along (P := fun s => s.rooms.Nodup) rooms_nodup_step List.nodup_nil honce hr

theorem count_created_le_one {s : MakingApp} (h : s.rooms.Nodup) (session : ℕ) :
    s.created.count session ≤ 1 :=
  List.nodup_iff_count_le_one.mp (h.sublist (List.sublist_append_left _ _)) session

/-! ### Every other tap can make a second room -/

/-- Answering `postRoom` with a number counts its session. -/
theorem step_postReply_decoded {z : TimeZone} {myPk pk : ℤ} {s : MakingApp} {i n : ℕ}
    (hi : s.pending[i]? = some (.postRoom n)) :
    step z myPk s (.postReply i (.decoded pk)) =
      some { s with
        pending := s.pending.eraseIdx i ++ [.getRoom n]
        created := s.created ++ [n] } := by
  rw [step, hi]
  rfl

/-- The request of the last tap can be answered first. -/
theorem answer_last {z : TimeZone} {myPk : ℤ} {s : MakingApp} {p : ℕ × PostRoom} :
    step z myPk
        { s with
          pending := s.pending ++ [.postRoom s.session]
          posted := s.posted ++ [p] } (.postReply s.pending.length (.decoded 0)) =
      some { s with
        pending := s.pending ++ [.getRoom s.session]
        posted := s.posted ++ [p]
        created := s.created ++ [s.session] } := by
  rw [step_postReply_decoded List.getElem?_concat_length]
  simp only [List.eraseIdx_append_of_length_le (le_refl s.pending.length), Nat.sub_self,
    List.eraseIdx_cons_zero, List.append_nil]

/-- **A tap to be left alone**: from a form that has a request on its way, or has made
a room, a further tap leads to a second room if all is answered well. -/
theorem second_room {z : TimeZone} {myPk : ℤ} {s t : MakingApp}
    (htap : step z myPk s .confirm = some t) (hagain : ¬ConfirmsOnce s .confirm) :
    ∃ replies u, (∀ a ∈ replies, a.IsReply) ∧ run (step z myPk) t replies = some u ∧
      2 ≤ u.created.count s.session := by
  rw [ConfirmsOnce, Classical.not_imp] at hagain
  obtain ⟨hcomplete, hagain⟩ := hagain
  obtain ⟨-, ⟨hinc, -⟩ | ⟨-, rfl⟩⟩ := step_confirm htap
  · exact absurd hinc hcomplete
  · by_cases hcreated : s.session ∈ s.created
    -- a room is there already: it is enough that the new request succeeds
    · refine ⟨[.postReply s.pending.length (.decoded 0)], _, ?_,
        by rw [run_cons_of_step answer_last, run_nil], ?_⟩
      · simp [MakingAction.IsReply]
      · have := List.count_pos_iff.mpr hcreated
        simp only [List.count_append, List.count_singleton_self]
        omega
    · have hpending : MakingCall.postRoom s.session ∈ s.pending := by
        by_contra hnot
        exact hagain ⟨hcreated, hnot⟩
      -- the new request is answered first, so that the earlier one keeps its place
      obtain ⟨i, hi, hget⟩ := List.getElem_of_mem hpending
      have hearlier : (s.pending ++ [MakingCall.getRoom s.session])[i]? =
          some (.postRoom s.session) := by
        rw [List.getElem?_append_left hi, List.getElem?_eq_getElem hi, hget]
      refine ⟨[.postReply s.pending.length (.decoded 0), .postReply i (.decoded 0)], _, ?_,
        by rw [run_cons_of_step answer_last, run_cons_of_step (step_postReply_decoded hearlier),
          run_nil], ?_⟩
      · simp [MakingAction.IsReply]
      · simp only [List.count_append, List.count_singleton_self]
        omega

/-- **The taps to be left alone are exactly these**: after a history without them, a
tap cannot lead to a second room by answers alone if and only if it is none of
them. -/
theorem confirmsOnce_iff {z : TimeZone} {myPk : ℤ} {s t : MakingApp}
    {history : List MakingAction} (hr : run (step z myPk) launched history = some s)
    (honce : Along (step z myPk) ConfirmsOnce launched history)
    (htap : step z myPk s .confirm = some t) :
    ConfirmsOnce s .confirm ↔
      ∀ replies u, (∀ a ∈ replies, a.IsReply) → run (step z myPk) t replies = some u →
        u.created.count s.session ≤ 1 := by
  constructor
  · intro hc replies u hreplies hu
    have ht : t.rooms.Nodup := rooms_nodup_step s .confirm t (rooms_nodup hr honce) hc htap
    have honce' : Along (step z myPk) ConfirmsOnce t replies := along_of_forall fun a ha s => by
      have hreply := hreplies a ha
      cases a with
      | confirm => exact absurd hreply id
      | _ => trivial
    exact count_created_le_one
      (run_invariant_along (P := fun s => s.rooms.Nodup) rooms_nodup_step ht honce' hu) _
  · intro hone
    by_contra hagain
    obtain ⟨replies, u, hreplies, hu, htwo⟩ := second_room htap hagain
    have := hone replies u hreplies hu
    omega

/-! ### One form, one room -/

/-- **When a form makes one room at most**: in every run, whatever is answered and
when, in which its confirm button is left alone while a request of the form is on its
way and after one has succeeded. And nothing less will do: a tap at the end of such a
run leads to no second room, whatever is answered to it, exactly if it is none of
these. -/
theorem one_room_iff {z : TimeZone} {myPk : ℤ} {s : MakingApp} {history : List MakingAction}
    (hr : run (step z myPk) launched history = some s)
    (honce : Along (step z myPk) ConfirmsOnce launched history) :
    (∀ session, s.created.count session ≤ 1) ∧
      ∀ t, step z myPk s .confirm = some t →
        (ConfirmsOnce s .confirm ↔
          ∀ replies u, (∀ a ∈ replies, a.IsReply) → run (step z myPk) t replies = some u →
            u.created.count s.session ≤ 1) :=
  ⟨count_created_le_one (rooms_nodup hr honce), fun _ htap => confirmsOnce_iff hr honce htap⟩

/-- A form filled in. -/
def fillIn : List MakingAction :=
  [.openForm 0, .edit (.editTitle "tonight"), .edit .countUp, .edit (.chooseGame .lol)]

/-- Two taps on the confirm button, and the answers to both. -/
def tappedTwice : List MakingAction :=
  fillIn ++ [.confirm, .confirm, .postReply 0 (.decoded 5), .postReply 0 (.decoded 6)]

/-- One tap, and both requests succeed. -/
def tappedOnce : List MakingAction :=
  fillIn ++ [.confirm, .postReply 0 (.decoded 5), .getReply 0 (.decoded [])]

/-- **Two taps make two rooms.** -/
theorem tappedTwice_makes_two :
    ∃ s, run (step (TimeZone.fixed 32400) 1) launched tappedTwice = some s ∧
      s.created.count 1 = 2 :=
  ⟨_, rfl, by decide⟩

/-- One tap makes one room, and ends the session. -/
theorem tappedOnce_makes_one :
    ∃ s, run (step (TimeZone.fixed 32400) 1) launched tappedOnce = some s ∧
      s.created = [1] ∧ s.form = none ∧ ∀ session, s.created.count session ≤ 1 := by
  have hr : run (step (TimeZone.fixed 32400) 1) launched tappedOnce = some _ := rfl
  exact ⟨_, hr, by decide, by decide, (one_room_iff hr (by decide)).1⟩

end MakingApp

end Joinus
