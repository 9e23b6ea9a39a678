import Joinus.Making.Form
import Joinus.Room

/-!
# Sessions of the form

A session begins with a tap on the button of the home list, which opens a form with
fresh widgets, and ends when the form is taken from the navigation stack: by its
close button, or when a room has been posted and the list of rooms fetched again.
Both calls of `didTapMakeMatchingRoomButton` are chained – `getRoom` is sent when
`postRoom` has succeeded, and only its success takes the form away and resets the
model – and nothing keeps the user from tapping meanwhile.

The navigation stack has the home list at its bottom, then at most one form, then at
most its tier screen. A completion that pops the stack takes away what is *on top*:
if the user has gone to the tier screen, that screen, and the form stays. A form
that has been left already has no navigation controller, and nothing is popped; but
the model is reset in any case.

| part | what it holds |
|---|---|
| `model` | the values, shared by all sessions |
| `form` | the widgets of the form on the stack, if there is one |
| `session` | how many forms have been opened; the one on the stack is the last |
| `pending` | the requests not yet answered, with the session they come from |
| `posted`, `created` | what was posted, and which sessions have succeeded; nothing reads it |

Dialogs are taken as one step each: the alert of an incomplete form changes nothing,
and the date dialog is an action of the form.
-/

namespace Joinus

open Base

/-- The two requests of a confirmed form. -/
inductive MakingCall where
  | postRoom (session : ℕ)
  | getRoom (session : ℕ)
  deriving DecidableEq

/-- The home list and the form over it. -/
structure MakingApp where
  model : MakeMatchingModel
  form : Option MakeMatchingForm
  session : ℕ
  pending : List MakingCall
  gameList : List GetRoomInfo
  posted : List (ℕ × PostRoom)
  created : List ℕ

/-- The app after launch. -/
def MakingApp.launched : MakingApp := ⟨.initial, none, 0, [], [], [], []⟩

inductive MakingAction where
  /-- `HomeListViewController.didTapMakeMatchingButton`. -/
  | openForm (now : Instant)
  /-- An action on the form or its tier screen. -/
  | edit (a : FormAction)
  /-- The confirm button. -/
  | confirm
  /-- The close button. -/
  | close
  /-- `postRoom` is answered. -/
  | postReply (i : ℕ) (r : Reply ℤ)
  /-- `getRoom` is answered. -/
  | getReply (i : ℕ) (r : Reply (List GetRoomInfo))

namespace MakingApp

/-- A form is on top of the stack. -/
def formOnTop (s : MakingApp) : Bool :=
  match s.form with
  | none => false
  | some f => !f.tierScreen

/-- `navigationController?.popViewController`, called by the form of a session. -/
def pop (s : MakingApp) (session : ℕ) : MakingApp :=
  if s.session = session then
    { s with
      -- what is popped is what is on top: the tier screen, or the form
      form := s.form.bind fun f =>
        if f.tierScreen then some { f with tierScreen := false } else none }
  else s

/-- `didTapMakeMatchingRoomButton`. -/
def didTapMakeMatchingRoomButton (myPk : ℤ) (s : MakingApp) : MakingApp :=
  match s.model.confirm myPk with
  | none => s
  | some p =>
    { s with
      pending := s.pending ++ [.postRoom s.session]
      posted := s.posted ++ [(s.session, p)] }

/-- `postRoom`, when it is answered: a number makes it a success. -/
def answerPost (s : MakingApp) (session : ℕ) : Reply ℤ → MakingApp
  | .decoded _ =>
    { s with
      pending := s.pending ++ [.getRoom session]
      created := s.created ++ [session] }
  | .undecodable => s
  | .failure => s

/-- `getRoom`, when it is answered, with the innermost completion of
`didTapMakeMatchingRoomButton`. -/
def answerGet (s : MakingApp) (session : ℕ) : Reply (List GetRoomInfo) → MakingApp
  | .decoded data =>
    -- whichever form is open by now, it is the one model that is reset
    let s := ({ s with gameList := data } : MakingApp).pop session
    { s with model := s.model.initialized }
  | .undecodable => s
  | .failure => s

def step (z : TimeZone) (myPk : ℤ) (s : MakingApp) : MakingAction → Option MakingApp
  | .openForm now =>
    match s.form with
    | none => some { s with form := some (.opened z now), session := s.session + 1 }
    | some _ => none
  | .edit a =>
    match s.form with
    | none => none
    | some f =>
      (FormState.step z ⟨f, s.model⟩ a).map fun t =>
        { s with form := some t.form, model := t.model }
  | .confirm => if s.formOnTop then some (s.didTapMakeMatchingRoomButton myPk) else none
  | .close => if s.formOnTop then some (s.pop s.session) else none
  | .postReply i r =>
    match s.pending[i]? with
    | some (.postRoom session) =>
      some (({ s with pending := s.pending.eraseIdx i } : MakingApp).answerPost session r)
    | _ => none
  | .getReply i r =>
    match s.pending[i]? with
    | some (.getRoom session) =>
      some (({ s with pending := s.pending.eraseIdx i } : MakingApp).answerGet session r)
    | _ => none

/-! ### What a step can do

One lemma for each action with more than one outcome; the invariants below take
their cases from here. -/

theorem pop_model (s : MakingApp) (n : ℕ) : (s.pop n).model = s.model := by
  unfold pop
  split_ifs <;> rfl

theorem pop_ghost (s : MakingApp) (n : ℕ) :
    (s.pop n).pending = s.pending ∧ (s.pop n).created = s.created ∧
      (s.pop n).session = s.session := by
  unfold pop
  split_ifs <;> exact ⟨rfl, rfl, rfl⟩

theorem step_openForm {z : TimeZone} {myPk : ℤ} {s t : MakingApp} {now : Instant}
    (h : s.step z myPk (.openForm now) = some t) :
    s.form = none ∧ t = { s with form := some (.opened z now), session := s.session + 1 } := by
  rw [step] at h
  split at h
  · next hnone => exact ⟨hnone, (Option.some.inj h).symm⟩
  · exact absurd h nofun

theorem step_edit {z : TimeZone} {myPk : ℤ} {s t : MakingApp} {a : FormAction}
    (h : s.step z myPk (.edit a) = some t) :
    ∃ f u, s.form = some f ∧ FormState.step z ⟨f, s.model⟩ a = some u ∧
      t = { s with form := some u.form, model := u.model } := by
  rw [step] at h
  split at h
  · exact absurd h nofun
  · next f hf =>
    obtain ⟨u, hu, rfl⟩ := Option.map_eq_some_iff.mp h
    exact ⟨f, u, hf, hu, rfl⟩

theorem step_confirm {z : TimeZone} {myPk : ℤ} {s t : MakingApp}
    (h : s.step z myPk .confirm = some t) :
    s.formOnTop = true ∧ ((s.model.Incomplete ∧ t = s) ∨ (¬s.model.Incomplete ∧ t =
      { s with
        pending := s.pending ++ [.postRoom s.session]
        posted := s.posted ++ [(s.session, Joinus.postRoom myPk s.model)] })) := by
  rw [step] at h
  split_ifs at h with htop
  refine ⟨htop, ?_⟩
  rw [Option.some.injEq, didTapMakeMatchingRoomButton, MakeMatchingModel.confirm] at h
  by_cases hinc : s.model.Incomplete
  · rw [if_pos hinc] at h
    exact Or.inl ⟨hinc, h.symm⟩
  · rw [if_neg hinc] at h
    exact Or.inr ⟨hinc, h.symm⟩

theorem step_close {z : TimeZone} {myPk : ℤ} {s t : MakingApp}
    (h : s.step z myPk .close = some t) : s.formOnTop = true ∧ t = s.pop s.session := by
  rw [step] at h
  split_ifs at h with htop
  exact ⟨htop, (Option.some.inj h).symm⟩

theorem step_postReply {z : TimeZone} {myPk : ℤ} {s t : MakingApp} {i : ℕ} {r : Reply ℤ}
    (h : s.step z myPk (.postReply i r) = some t) :
    ∃ n, s.pending[i]? = some (.postRoom n) ∧
      t = ({ s with pending := s.pending.eraseIdx i } : MakingApp).answerPost n r := by
  rw [step] at h
  split at h
  · next n hi => exact ⟨n, hi, (Option.some.inj h).symm⟩
  · exact absurd h nofun

theorem step_getReply {z : TimeZone} {myPk : ℤ} {s t : MakingApp} {i : ℕ}
    {r : Reply (List GetRoomInfo)} (h : s.step z myPk (.getReply i r) = some t) :
    ∃ n, s.pending[i]? = some (.getRoom n) ∧
      t = ({ s with pending := s.pending.eraseIdx i } : MakingApp).answerGet n r := by
  rw [step] at h
  split at h
  · next n hi => exact ⟨n, hi, (Option.some.inj h).symm⟩
  · exact absurd h nofun

/-! ### Invariants of the model

The model changes in two ways: by an action on a form, and by being reset. A
property that both keep is kept by every run. -/

theorem model_answerPost (s : MakingApp) (n : ℕ) (r : Reply ℤ) :
    (s.answerPost n r).model = s.model := by
  cases r <;> rfl

theorem model_answerGet (s : MakingApp) (n : ℕ) (r : Reply (List GetRoomInfo)) :
    (s.answerGet n r).model = s.model ∨ (s.answerGet n r).model = .initial := by
  cases r with
  | decoded data => exact Or.inr rfl
  | undecodable => exact Or.inl rfl
  | failure => exact Or.inl rfl

/-- **An invariant of the model**, from what the actions on a form do to it. -/
theorem model_invariant {z : TimeZone} {myPk : ℤ} {P : MakeMatchingModel → Prop}
    (hinit : P .initial)
    (hact : ∀ (s : FormState) a, P s.model → P (s.act z a).model)
    {s t : MakingApp} {as : List MakingAction} (hs : P s.model)
    (hr : run (step z myPk) s as = some t) : P t.model := by
  refine run_invariant (P := fun s => P s.model) (fun s a t hs h => ?_) hs hr
  cases a with
  | openForm now =>
    obtain ⟨-, rfl⟩ := step_openForm h
    exact hs
  | edit a =>
    obtain ⟨f, u, -, hu, rfl⟩ := step_edit h
    obtain ⟨-, rfl⟩ := FormState.step_eq_some.mp hu
    exact hact ⟨f, s.model⟩ a hs
  | confirm =>
    obtain ⟨-, ⟨-, rfl⟩ | ⟨-, rfl⟩⟩ := step_confirm h
    · exact hs
    · exact hs
  | close =>
    obtain ⟨-, rfl⟩ := step_close h
    rw [pop_model]
    exact hs
  | postReply i r =>
    obtain ⟨n, -, rfl⟩ := step_postReply h
    rw [model_answerPost]
    exact hs
  | getReply i r =>
    obtain ⟨n, -, rfl⟩ := step_getReply h
    rcases model_answerGet _ n r with hsame | hreset
    · rw [hsame]
      exact hs
    · rw [hreset]
      exact hinit

/-- The count is between one and four. -/
theorem count_bounds {z : TimeZone} {myPk : ℤ} {s : MakingApp} {as : List MakingAction}
    (hr : run (step z myPk) launched as = some s) :
    1 ≤ s.model.countJoinPeople ∧ s.model.countJoinPeople ≤ 4 := by
  refine model_invariant (P := fun m => 1 ≤ m.countJoinPeople ∧ m.countJoinPeople ≤ 4)
    (by decide) (fun s a hs => ?_) (by decide) hr
  cases a with
  | countUp =>
    simp only [FormState.act, FormState.setCount, FormState.countUp]
    split_ifs <;> omega
  | countDown =>
    simp only [FormState.act, FormState.setCount, FormState.countDown]
    split_ifs <;> omega
  | openTiers =>
    obtain ⟨smallest, largest, hopened⟩ := FormState.act_openTiers z s
    rw [hopened]
    exact hs
  | _ => exact hs

/-- The tiers are tiers. -/
theorem tiers_bounds {z : TimeZone} {myPk : ℤ} {s : MakingApp} {as : List MakingAction}
    (hr : run (step z myPk) launched as = some s) :
    IsTier s.model.lowestTier ∧ IsTier s.model.highestTier := by
  refine model_invariant (P := fun m => IsTier m.lowestTier ∧ IsTier m.highestTier)
    ⟨⟨by decide, by decide⟩, ⟨by decide, by decide⟩⟩ (fun s a hs => ?_)
    ⟨⟨by decide, by decide⟩, ⟨by decide, by decide⟩⟩ hr
  cases a with
  | smallest tier =>
    refine ⟨?_, hs.2⟩
    simp only [FormState.act, FormState.didTapSmallestTierRangeButton]
    split_ifs with hall
    · exact ⟨by decide, by decide⟩
    · exact isTier_rawValue hall
  | largest tier =>
    refine ⟨hs.1, ?_⟩
    simp only [FormState.act, FormState.didTapLargestTierRangeButton]
    split_ifs with hall
    · exact ⟨by decide, by decide⟩
    · exact isTier_rawValue hall
  | openTiers =>
    obtain ⟨smallest, largest, hopened⟩ := FormState.act_openTiers z s
    rw [hopened]
    exact hs
  | _ => exact hs

/-- The start date is missing, or it was made by `Date.toString`. -/
theorem startGameDate_cases {z : TimeZone} {myPk : ℤ} {s : MakingApp} {as : List MakingAction}
    (hr : run (step z myPk) launched as = some s) :
    s.model.startGameDate = "" ∨ ∃ date, s.model.startGameDate = Date.toString z date := by
  refine model_invariant
    (P := fun m => m.startGameDate = "" ∨ ∃ date, m.startGameDate = Date.toString z date)
    (Or.inl rfl) (fun s a hs => ?_) (Or.inl rfl) hr
  cases a with
  | setDate date => exact Or.inr ⟨date, rfl⟩
  | openTiers =>
    obtain ⟨smallest, largest, hopened⟩ := FormState.act_openTiers z s
    rw [hopened]
    exact hs
  | _ => exact hs

end MakingApp

end Joinus
