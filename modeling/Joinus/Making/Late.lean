import Joinus.Making.Sessions

/-!
# Replies that come late

The reset of the model is the last thing a confirmation does, two replies after the
tap, in a closure that does not ask which form is open by then. A form can be closed
while its requests are on their way, and another one opened; the reply to the first
then finds the values of the second in the model, and resets them.

An open form keeps its entries (`Joinus.MakingApp.EntriesKept`) if no confirmation but
its own resets the model, so that only the user's edits change a value before the
session is posted or left. Over a whole run this is so exactly if every reply that
ends a confirmation while a form is open is the open form's own
(`Joinus.MakingApp.entries_kept_iff`). What makes the condition exact is that requests
only come from sessions up to the present one.

As long as nothing at all resets the model, a session is no more than a run of its form, by
the edits in it (`Joinus.MakingApp.exists_form_of_session`).
-/

namespace Joinus

open Base

/-- The session a request comes from. -/
def MakingCall.session : MakingCall → ℕ
  | .postRoom session => session
  | .getRoom session => session

namespace MakingApp

/-- The session whose form is open. -/
def openSession (s : MakingApp) : Option ℕ := s.form.map fun _ => s.session

/-- The session whose confirmation calls `initialized` in a step. -/
def resetBy (s : MakingApp) : MakingAction → Option ℕ
  | .getReply i (.decoded _) => s.pending[i]?.map MakingCall.session
  | _ => none

/-- **An open form keeps its entries** in a step: no earlier session's confirmation
resets the model, and the model is as it was unless the user edits it or the open
session's own confirmation is complete. -/
def EntriesKept (z : TimeZone) (myPk : ℤ) (s : MakingApp) (a : MakingAction) : Prop :=
  ∀ m ∈ s.openSession,
    (∀ n ∈ s.resetBy a, m ≤ n) ∧
      ∀ t, step z myPk s a = some t →
        (∃ e, a = .edit e) ∨ s.resetBy a = some m ∨ t.model = s.model

/-- **The open form's own reply**: where the rooms are fetched while a form is open,
they are fetched for that form. -/
def OwnReply (s : MakingApp) : MakingAction → Prop
  | .getReply i (.decoded _) => s.form.isSome → s.pending[i]? = some (.getRoom s.session)
  | _ => True

instance (s : MakingApp) : ∀ a, Decidable (OwnReply s a)
  | .getReply _ (.decoded _) => inferInstanceAs (Decidable (_ → _))
  | .getReply _ .undecodable | .getReply _ .failure => isTrue trivial
  | .openForm _ | .edit _ | .confirm | .close | .postReply _ _ => isTrue trivial

/-! ### What resets the model -/

/-- `resetBy` names the steps that call `initialized`. -/
theorem model_of_resetBy {z : TimeZone} {myPk : ℤ} {s t : MakingApp} {a : MakingAction} {n : ℕ}
    (h : step z myPk s a = some t) (hreset : s.resetBy a = some n) : t.model = .initial := by
  cases a with
  | getReply i r =>
    obtain ⟨m, -, rfl⟩ := step_getReply h
    cases r with
    | decoded data => rfl
    | undecodable => exact absurd hreset nofun
    | failure => exact absurd hreset nofun
  | _ => exact absurd hreset nofun

/-- A step that is no edit and no reset leaves the model as it is. -/
theorem model_of_not_resetBy {z : TimeZone} {myPk : ℤ} {s t : MakingApp} {a : MakingAction}
    (h : step z myPk s a = some t) (hreset : s.resetBy a = none) :
    (∃ e, a = .edit e) ∨ t.model = s.model := by
  cases a with
  | openForm now =>
    obtain ⟨-, rfl⟩ := step_openForm h
    exact Or.inr rfl
  | edit e => exact Or.inl ⟨e, rfl⟩
  | confirm =>
    obtain ⟨-, ⟨-, rfl⟩ | ⟨-, rfl⟩⟩ := step_confirm h
    · exact Or.inr rfl
    · exact Or.inr rfl
  | close =>
    obtain ⟨-, rfl⟩ := step_close h
    exact Or.inr (pop_model s s.session)
  | postReply i r =>
    obtain ⟨n, -, rfl⟩ := step_postReply h
    exact Or.inr (model_answerPost _ n r)
  | getReply i r =>
    obtain ⟨n, hi, rfl⟩ := step_getReply h
    cases r with
    | decoded data =>
      rw [resetBy, hi] at hreset
      exact absurd hreset nofun
    | undecodable => exact Or.inr rfl
    | failure => exact Or.inr rfl

/-! ### A session is a run of its form -/

/-- The events of a session: what the user does with the open form, and the replies that
arrive meanwhile, to whichever session. -/
def InSession : MakingAction → Prop
  | .edit _ | .confirm | .postReply _ _ | .getReply _ _ => True
  | .openForm _ | .close => False

end MakingApp

/-- The edits in an event. -/
def MakingAction.edits : MakingAction → List FormAction
  | .edit a => [a]
  | _ => []

namespace MakingApp

/-- The form and the model of an app are those of a form by itself. -/
structure FormOf (u : MakingApp) (v : FormState) : Prop where
  form : u.form = some v.form
  model : u.model = v.model

/-- An event that does not reset the model is to the form what edits there are in it. -/
theorem formOf_step {z : TimeZone} {myPk : ℤ} {u u' : MakingApp} {v : FormState}
    {a : MakingAction} (huv : u.FormOf v) (ha : InSession a ∧ u.resetBy a = none)
    (h : step z myPk u a = some u') :
    ∃ v', run (FormState.step z) v a.edits = some v' ∧ u'.FormOf v' := by
  obtain ⟨hsession, hreset⟩ := ha
  cases a with
  | edit a =>
    obtain ⟨f, w, hf, hw, rfl⟩ := step_edit h
    obtain rfl := Option.some.inj (huv.form.symm.trans hf)
    rw [huv.model] at hw
    exact ⟨w, run_cons_of_step hw, rfl, rfl⟩
  | confirm =>
    obtain ⟨-, ⟨-, rfl⟩ | ⟨-, rfl⟩⟩ := step_confirm h
    · exact ⟨v, rfl, huv⟩
    · exact ⟨v, rfl, huv.form, huv.model⟩
  | postReply i r =>
    obtain ⟨n, -, rfl⟩ := step_postReply h
    refine ⟨v, rfl, ?_, (model_answerPost _ n r).trans huv.model⟩
    cases r <;> exact huv.form
  | getReply i r =>
    obtain ⟨n, hi, rfl⟩ := step_getReply h
    cases r with
    | decoded data =>
      rw [resetBy, hi] at hreset
      exact absurd hreset nofun
    | undecodable => exact ⟨v, rfl, huv.form, huv.model⟩
    | failure => exact ⟨v, rfl, huv.form, huv.model⟩
  | openForm now => exact absurd hsession id
  | close => exact absurd hsession id

/-- **Where no reply resets the model, a session is a run of its form**, by the edits alone. -/
theorem exists_form_of_session {z : TimeZone} {myPk : ℤ} {s t : MakingApp} {now : Instant}
    {as : List MakingAction} (has : ∀ a ∈ as, InSession a)
    (hr : run (step z myPk) s (.openForm now :: as) = some t)
    (hkept : Along (step z myPk) (fun u a => u.resetBy a = none) s (.openForm now :: as)) :
    ∃ f, t.form = some f ∧ run (FormState.step z) ⟨.opened z now, s.model⟩
      (as.flatMap MakingAction.edits) = some ⟨f, t.model⟩ := by
  obtain ⟨u, hopen, hrest⟩ := run_cons_eq_some.mp hr
  obtain ⟨-, hkept⟩ := (along_cons_of_step hopen).mp hkept
  have hopened : u.FormOf ⟨.opened z now, s.model⟩ := by
    obtain ⟨-, rfl⟩ := step_openForm hopen
    exact ⟨rfl, rfl⟩
  have hsession : Along (step z myPk) (fun u a => InSession a ∧ u.resetBy a = none) u as :=
    (along_of_forall fun a ha _ => has a ha).and hkept
  obtain ⟨v, hv, hform, hmodel⟩ := exists_run_along
    (fun huv ha h => formOf_step huv ha h) hopened hsession hrest
  rw [observed_of_run hrest] at hv
  exact ⟨v.form, hform, by rw [hv, hmodel]⟩

/-! ### Requests come from sessions up to the present one -/

/-- **The invariant.** -/
def PendingOpened (s : MakingApp) : Prop := ∀ c ∈ s.pending, c.session ≤ s.session

theorem pendingOpened_eraseIdx {s : MakingApp} (hs : s.PendingOpened) (i : ℕ) :
    ({ s with pending := s.pending.eraseIdx i } : MakingApp).PendingOpened :=
  fun c hc => hs c (List.mem_of_mem_eraseIdx hc)

/-- A new request of a session that has been opened. -/
theorem pendingOpened_append {s t : MakingApp} {c : MakingCall} (hs : s.PendingOpened)
    (hc : c.session ≤ s.session) (hpending : t.pending = s.pending ++ [c])
    (hsession : t.session = s.session) : t.PendingOpened := by
  intro d hd
  rw [hsession]
  rw [hpending] at hd
  rcases List.mem_append.mp hd with hd | hd
  · exact hs d hd
  · rw [List.mem_singleton.mp hd]
    exact hc

theorem pendingOpened_step {z : TimeZone} {myPk : ℤ} (s : MakingApp) (a : MakingAction)
    (t : MakingApp) (hs : s.PendingOpened) (h : step z myPk s a = some t) : t.PendingOpened := by
  cases a with
  | openForm now =>
    obtain ⟨-, rfl⟩ := step_openForm h
    exact fun c hc => (hs c hc).trans (Nat.le_succ _)
  | edit e =>
    obtain ⟨f, u, -, -, rfl⟩ := step_edit h
    exact hs
  | confirm =>
    obtain ⟨-, ⟨-, rfl⟩ | ⟨-, rfl⟩⟩ := step_confirm h
    · exact hs
    · exact pendingOpened_append hs le_rfl rfl rfl
  | close =>
    obtain ⟨-, rfl⟩ := step_close h
    obtain ⟨hpending, -, hsession⟩ := pop_ghost s s.session
    rw [PendingOpened, hpending, hsession]
    exact hs
  | postReply i r =>
    obtain ⟨n, hi, rfl⟩ := step_postReply h
    have hn : n ≤ s.session := hs _ (List.mem_of_getElem? hi)
    have herase := pendingOpened_eraseIdx hs i
    cases r with
    | decoded pk => exact pendingOpened_append herase (c := .getRoom n) hn rfl rfl
    | undecodable => exact herase
    | failure => exact herase
  | getReply i r =>
    obtain ⟨n, hi, rfl⟩ := step_getReply h
    have herase := pendingOpened_eraseIdx hs i
    cases r with
    | decoded data =>
      obtain ⟨hpending, -, hsession⟩ :=
        pop_ghost { s with pending := s.pending.eraseIdx i, gameList := data } n
      rw [PendingOpened, answerGet]
      dsimp only
      rw [hpending, hsession]
      exact herase
    | undecodable => exact herase
    | failure => exact herase

/-! ### Entries are kept from late replies -/

theorem entriesKept_iff {z : TimeZone} {myPk : ℤ} {s t : MakingApp} {a : MakingAction}
    (hs : s.PendingOpened) (h : step z myPk s a = some t) :
    EntriesKept z myPk s a ↔ OwnReply s a := by
  -- away from the replies that reset the model there is nothing to show
  have hquiet : s.resetBy a = none → EntriesKept z myPk s a := by
    intro hnone m _
    refine ⟨fun n hn => absurd (hnone.symm.trans hn) nofun, fun u hu => ?_⟩
    exact (model_of_not_resetBy hu hnone).imp_right Or.inr
  cases a with
  | getReply i r =>
    cases r with
    | decoded data =>
      obtain ⟨n, hi, -⟩ := step_getReply h
      have hreset : s.resetBy (.getReply i (.decoded data)) = some n := by
        rw [resetBy, hi]
        rfl
      have hn : n ≤ s.session := hs _ (List.mem_of_getElem? hi)
      rw [OwnReply, hi]
      constructor
      · intro hkept hform
        obtain ⟨f, hf⟩ := Option.isSome_iff_exists.mp hform
        have hopen : s.openSession = some s.session := by rw [openSession, hf, Option.map_some]
        have hle : s.session ≤ n := (hkept _ hopen).1 n hreset
        rw [hn.antisymm hle]
      · intro hown m hm
        obtain ⟨f, hf, rfl⟩ := Option.map_eq_some_iff.mp hm
        obtain rfl : n = s.session := by simpa using hown (by rw [hf]; rfl)
        refine ⟨fun k hk => ?_, fun u _ => Or.inr (Or.inl hreset)⟩
        rw [hreset, Option.mem_some_iff] at hk
        exact hk.le
    | undecodable => exact iff_of_true (hquiet rfl) trivial
    | failure => exact iff_of_true (hquiet rfl) trivial
  | openForm now => exact iff_of_true (hquiet rfl) trivial
  | edit e => exact iff_of_true (hquiet rfl) trivial
  | confirm => exact iff_of_true (hquiet rfl) trivial
  | close => exact iff_of_true (hquiet rfl) trivial
  | postReply i r => exact iff_of_true (hquiet rfl) trivial

/-- **When an open form keeps its entries**: over a whole run – forms opened, edited,
confirmed and closed, replies in any order and however late – exactly when the rooms
are never fetched for an earlier form while another is open. -/
theorem entries_kept_iff {z : TimeZone} {myPk : ℤ} {t : MakingApp} {as : List MakingAction}
    (hr : run (step z myPk) launched as = some t) :
    Along (step z myPk) (EntriesKept z myPk) launched as ↔
      Along (step z myPk) OwnReply launched as :=
  along_congr pendingOpened_step (fun _ _ _ hs h => entriesKept_iff hs h) nofun hr

/-- What a user has entered is still there after any events but edits and the replies
that end a confirmation of the same session, as long as the form stays open. -/
theorem model_kept {z : TimeZone} {myPk : ℤ} {s t : MakingApp} {as : List MakingAction}
    (hs : s.PendingOpened) (hr : run (step z myPk) s as = some t)
    (hown : Along (step z myPk) OwnReply s as)
    (hopen : Along (step z myPk) (fun u a =>
      u.form.isSome ∧ (∀ e, a ≠ .edit e) ∧ u.resetBy a ≠ some u.session) s as) :
    t.model = s.model := by
  refine (run_invariant_along (P := fun u => u.PendingOpened ∧ u.model = s.model)
    (fun u a v hu hC hsu => ⟨pendingOpened_step u a v hu.1 hsu, ?_⟩) ⟨hs, rfl⟩
    (hown.and hopen) hr).2
  obtain ⟨hpending, hmodel⟩ := hu
  obtain ⟨hownU, hform, hedit, hreset⟩ := hC
  obtain ⟨f, hf⟩ := Option.isSome_iff_exists.mp hform
  have hsession : u.openSession = some u.session := by rw [openSession, hf, Option.map_some]
  rcases ((entriesKept_iff hpending hsu).mpr hownU _ hsession).2 v hsu with
    ⟨e, he⟩ | hres | hsame
  · exact absurd he (hedit e)
  · exact absurd hres hreset
  · exact hsame.trans hmodel

/-- A form is filled in, confirmed and closed; in the next one a title is typed, and
`postRoom` answered for the first. -/
def closedAndReopened : List MakingAction :=
  [.openForm 0, .edit (.editTitle "tonight"), .edit .countUp, .edit (.chooseGame .lol), .confirm,
    .close, .openForm 60, .edit (.editTitle "tomorrow"), .postReply 0 (.decoded 5)]

/-- **The title of the open form is erased** when the rooms are fetched for the form
before it. -/
theorem closedAndReopened_erases :
    ∃ s, run (step (TimeZone.fixed 32400) 1) launched
        (closedAndReopened ++ [.getReply 0 (.decoded [])]) = some s ∧
      s.openSession = some 2 ∧ s.form.map MakeMatchingForm.titleText = some "tomorrow" ∧
      s.model.roomTitle = "" ∧
      ¬Along (step (TimeZone.fixed 32400) 1) (EntriesKept (TimeZone.fixed 32400) 1) launched
        (closedAndReopened ++ [.getReply 0 (.decoded [])]) := by
  refine ⟨_, rfl, by decide, by decide, by decide, fun h => ?_⟩
  have hr : run (step (TimeZone.fixed 32400) 1) launched closedAndReopened = some _ := rfl
  have hlast := (h.of_append hr).1 2 (by decide)
  exact absurd (hlast.1 1 (by decide)) (by decide)

/-- The same form is closed, and the next one opened after the replies. -/
def reopenedLater : List MakingAction :=
  [.openForm 0, .edit (.editTitle "tonight"), .edit .countUp, .edit (.chooseGame .lol), .confirm,
    .close, .postReply 0 (.decoded 5), .getReply 0 (.decoded []), .openForm 60,
    .edit (.editTitle "tomorrow")]

/-- A form opened after the replies keeps its title. -/
theorem reopenedLater_keeps :
    ∃ s, run (step (TimeZone.fixed 32400) 1) launched reopenedLater = some s ∧
      s.model.roomTitle = "tomorrow" ∧
      Along (step (TimeZone.fixed 32400) 1) (EntriesKept (TimeZone.fixed 32400) 1) launched
        reopenedLater := by
  have hr : run (step (TimeZone.fixed 32400) 1) launched reopenedLater = some _ := rfl
  exact ⟨_, hr, by decide, (entries_kept_iff hr).mpr (by decide)⟩

end MakingApp

end Joinus
