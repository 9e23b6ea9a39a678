import Joinus.Making.Late
import Mathlib.Data.List.InsertIdx

/-!
# What a session leaves to the next

The widgets of a form are made anew for each session, and the model is not. A
session that ends with the list of rooms fetched again resets the model; one that
ends with the close button leaves it as it is. What the next session starts from is
then the old values behind a form that shows none of them. And the close button leaves
something else: requests that are still on their way, whose replies reset the model in
the middle of the next session.

Whether this matters is asked of the confirm button: two states are told apart if
some use of a freshly opened form – edits, and taps on the confirm button between
them and at the end, with replies arriving at any time – posts something in one of them
that it does not post in the other. Here this is: in the state at hand, and at launch,
where there are no replies but those to the session's own requests
(`Joinus.MakingApp.asFirst`, `Joinus.MakingApp.AsAfterLaunch`).

| left over | shows in the next session |
|---|---|
| a value in the model | if nothing is done about it |
| a request, sent or answered once | if its last reply comes after the form has been filled in |

So a session is as the first one exactly if it is opened with the initial values and with
no request on its way (`Joinus.MakingApp.as_after_launch_iff`). Of the two, the first holds
after every history in which the close button is only tapped where there is nothing to
leave (`Joinus.MakingApp.nothing_left`); and where the second fails, a session is still as
the first one if the replies come while there is nothing to reset
(`Joinus.MakingApp.posts_eq`).
-/

namespace Joinus

open Base

namespace MakingApp

/-! ### Using a form -/

/-- An event is one of the user's. -/
def ByUser : MakingAction → Prop
  | .edit _ | .confirm => True
  | _ => False

/-- A request of the session at hand. -/
def own (s : MakingApp) (c : MakingCall) : Bool := c.session = s.session

theorem own_iff {s : MakingApp} {c : MakingCall} : s.own c = true ↔ c.session = s.session :=
  decide_eq_true_iff

/-- **What the first session after launch has of an event**: all that the user does, and the
replies to requests of the session at hand, each as the reply to the same request. It has no
replies to requests of earlier sessions. -/
def asFirst (s : MakingApp) : MakingAction → List MakingAction
  | .postReply i r =>
    if s.pending[i]?.any s.own then [.postReply ((s.pending.take i).countP s.own) r] else []
  | .getReply i r =>
    if s.pending[i]?.any s.own then [.getReply ((s.pending.take i).countP s.own) r] else []
  | a => [a]

/-- What a sequence of actions posts, from a state on; `none` if it is not
offered. -/
def postsOf (z : TimeZone) (myPk : ℤ) (s : MakingApp) (as : List MakingAction) :
    Option (List PostRoom) :=
  (run (step z myPk) s as).map fun t => (t.posted.drop s.posted.length).map Prod.snd

/-- The events of a session that ends with a tap on the confirm button. -/
def sessionOf (now : Instant) (as : List MakingAction) : List MakingAction :=
  .openForm now :: (as ++ [.confirm])

/-- **A session as after launch**: whatever is done with a form opened now, and whenever
replies arrive, it posts what it would post in the first session; and it can do what it could
do there. -/
structure AsAfterLaunch (z : TimeZone) (myPk : ℤ) (s : MakingApp) : Prop where
  posts : ∀ now as, (∀ a ∈ as, InSession a) →
    (run (step z myPk) s (sessionOf now as)).isSome →
      postsOf z myPk launched (observed (step z myPk) asFirst s (sessionOf now as)) =
        postsOf z myPk s (sessionOf now as)
  offered : ∀ now as, (∀ a ∈ as, ByUser a) →
    ((run (step z myPk) s (sessionOf now as)).isSome ↔
      (run (step z myPk) launched (sessionOf now as)).isSome)

/-! ### Equal models give equal sessions -/

/-- A request, as that of another session. -/
def ofSession (session : ℕ) : MakingCall → MakingCall
  | .postRoom _ => .postRoom session
  | .getRoom _ => .getRoom session

/-- Two states of which the same can be seen: the model, the form, and what has been
posted since; and the requests of the session at hand are the only ones of the second. -/
structure SameSession (old old' : ℕ) (s t : MakingApp) : Prop where
  model : s.model = t.model
  form : s.form = t.form
  pending : t.pending = (s.pending.filter s.own).map (ofSession t.session)
  length : old ≤ s.posted.length
  length' : old' ≤ t.posted.length
  posted : (s.posted.drop old).map Prod.snd = (t.posted.drop old').map Prod.snd

/-- A new request of the session at hand. -/
theorem SameSession.pending_append {old old' : ℕ} {s t : MakingApp}
    (h : SameSession old old' s t) {c : MakingCall} (hc : c.session = s.session) :
    t.pending ++ [ofSession t.session c] =
      ((s.pending ++ [c]).filter s.own).map (ofSession t.session) := by
  rw [List.filter_append, List.filter_singleton, own_iff.mpr hc, List.map_append, h.pending]
  rfl

theorem formOnTop_congr {s t : MakingApp} (h : s.form = t.form) : s.formOnTop = t.formOnTop := by
  rw [formOnTop, formOnTop, h]

variable {z : TimeZone} {myPk : ℤ} {old old' : ℕ} {s t : MakingApp}

/-- What the user does on the form looks at nothing else. -/
theorem sameSession_byUser (z : TimeZone) (myPk : ℤ) (s t : MakingApp) (a : MakingAction)
    (h : SameSession old old' s t) (ha : ByUser a) :
    Option.Rel (SameSession old old') (step z myPk s a) (step z myPk t a) := by
  cases a with
  | edit a =>
    rw [step, step, ← h.form, ← h.model]
    cases s.form with
    | none => exact .none
    | some f =>
      dsimp only
      cases FormState.step z ⟨f, s.model⟩ a with
      | none => exact .none
      | some u => exact .some { h with model := rfl, form := rfl }
  | confirm =>
    rw [step, step, ← formOnTop_congr h.form, didTapMakeMatchingRoomButton,
      didTapMakeMatchingRoomButton, ← h.model]
    split_ifs
    · cases s.model.confirm myPk with
      | none => exact .some h
      | some p =>
        refine .some ⟨rfl, h.form, h.pending_append (c := .postRoom s.session) rfl, ?_, ?_, ?_⟩
        · exact le_trans h.length (by simp)
        · exact le_trans h.length' (by simp)
        · simp only [List.drop_append_of_le_length h.length,
            List.drop_append_of_le_length h.length', List.map_append, h.posted, List.map_cons,
            List.map_nil]
    · exact .none
  | openForm now => exact absurd ha id
  | close => exact absurd ha id
  | postReply i r => exact absurd ha id
  | getReply i r => exact absurd ha id

/-! #### Replies to requests of the session at hand -/

/-- Where a request of the session at hand is in the first session, and what is left there when
it is answered. -/
theorem SameSession.pending_own (h : SameSession old old' s t) {i : ℕ} {c : MakingCall}
    (hi : s.pending[i]? = some c) (hc : s.own c = true) :
    t.pending[(s.pending.take i).countP s.own]? = some (ofSession t.session c) ∧
      t.pending.eraseIdx ((s.pending.take i).countP s.own) =
        ((s.pending.eraseIdx i).filter s.own).map (ofSession t.session) := by
  obtain ⟨hget, herase⟩ := filter_eraseIdx_of_pos hi hc
  rw [h.pending, List.getElem?_map, hget, herase, List.eraseIdx_map]
  exact ⟨rfl, rfl⟩

theorem sameSession_answerPost (h : SameSession old old' s t) (r : Reply ℤ) :
    SameSession old old' (s.answerPost s.session r) (t.answerPost t.session r) := by
  cases r with
  | decoded pk => exact { h with pending := h.pending_append (c := .getRoom s.session) rfl }
  | undecodable => exact h
  | failure => exact h

theorem sameSession_answerGet (h : SameSession old old' s t) (r : Reply (List GetRoomInfo)) :
    SameSession old old' (s.answerGet s.session r) (t.answerGet t.session r) := by
  cases r with
  | decoded data =>
    simp only [answerGet, pop, if_true]
    exact { h with model := rfl, form := by rw [h.form] }
  | undecodable => exact h
  | failure => exact h

/-! #### Replies to requests of earlier sessions -/

theorem sameSession_answerPost_late (h : SameSession old old' s t) {n : ℕ}
    (hn : n ≠ s.session) (r : Reply ℤ) : SameSession old old' (s.answerPost n r) t := by
  cases r with
  | decoded pk =>
    have hnot : s.own (MakingCall.getRoom n) = false := decide_eq_false hn
    have hpending : t.pending =
        ((s.pending ++ [MakingCall.getRoom n]).filter s.own).map (ofSession t.session) := by
      rw [List.filter_append, List.filter_singleton, hnot, h.pending]
      simp
    exact { h with pending := hpending }
  | undecodable => exact h
  | failure => exact h

theorem sameSession_answerGet_late (h : SameSession old old' s t) {n : ℕ} (hn : n ≠ s.session)
    {r : Reply (List GetRoomInfo)} (hr : ∀ data, r = .decoded data → s.model = .initial) :
    SameSession old old' (s.answerGet n r) t := by
  cases r with
  | decoded data =>
    simp only [answerGet, pop, if_neg hn.symm]
    exact { h with model := (hr data rfl).symm.trans h.model }
  | undecodable => exact h
  | failure => exact h

/-! #### Sessions side by side -/

/-- **A reply to a request of an earlier session finds nothing to reset.** -/
def ResetsNothing (s : MakingApp) : MakingAction → Prop
  | .getReply i (.decoded _) => s.pending[i]?.any s.own = true ∨ s.model = .initial
  | _ => True

/-- **The first session follows**: what an event of a session is to it, it can do, and the same
is seen of both afterwards. -/
theorem sameSession_follows {s' : MakingApp} {a : MakingAction} (h : SameSession old old' s t)
    (ha : InSession a ∧ s.ResetsNothing a) (hstep : step z myPk s a = some s') :
    ∃ t', run (step z myPk) t (s.asFirst a) = some t' ∧ SameSession old old' s' t' := by
  have huser : ByUser a → ∃ t', run (step z myPk) t [a] = some t' ∧
      SameSession old old' s' t' := by
    intro ha
    have hrel := sameSession_byUser z myPk s t a h ha
    rw [hstep] at hrel
    rcases ht : step z myPk t a with - | t'
    · rw [ht] at hrel
      cases hrel
    · rw [ht] at hrel
      cases hrel with
      | some hsame => exact ⟨t', run_cons_of_step ht, hsame⟩
  cases a with
  | edit a => exact huser trivial
  | confirm => exact huser trivial
  | postReply i r =>
    obtain ⟨n, hi, rfl⟩ := step_postReply hstep
    rw [asFirst, hi, Option.any_some]
    split_ifs with hown
    · obtain ⟨hget, herase⟩ := h.pending_own hi hown
      obtain rfl : n = s.session := own_iff.mp hown
      refine ⟨_, run_cons_of_step (by rw [step, hget]; rfl), ?_⟩
      exact sameSession_answerPost (s := { s with pending := s.pending.eraseIdx i })
        (t := { t with pending := t.pending.eraseIdx _ }) { h with pending := herase } r
    · have hrest : SameSession old old' { s with pending := s.pending.eraseIdx i } t :=
        { h with pending := by rw [h.pending, ← filter_eraseIdx_of_neg hi hown]; rfl }
      exact ⟨t, rfl, sameSession_answerPost_late hrest (fun hn => hown (own_iff.mpr hn)) r⟩
  | getReply i r =>
    obtain ⟨n, hi, rfl⟩ := step_getReply hstep
    have hquiet := ha.2
    rw [asFirst, hi, Option.any_some]
    split_ifs with hown
    · obtain ⟨hget, herase⟩ := h.pending_own hi hown
      obtain rfl : n = s.session := own_iff.mp hown
      refine ⟨_, run_cons_of_step (by rw [step, hget]; rfl), ?_⟩
      exact sameSession_answerGet (s := { s with pending := s.pending.eraseIdx i })
        (t := { t with pending := t.pending.eraseIdx _ }) { h with pending := herase } r
    · have hrest : SameSession old old' { s with pending := s.pending.eraseIdx i } t :=
        { h with pending := by rw [h.pending, ← filter_eraseIdx_of_neg hi hown]; rfl }
      refine ⟨t, rfl, sameSession_answerGet_late hrest (fun hn => hown (own_iff.mpr hn)) ?_⟩
      rintro data rfl
      rw [ResetsNothing, hi, Option.any_some] at hquiet
      exact hquiet.resolve_left hown
  | openForm now => exact absurd ha.1 id
  | close => exact absurd ha.1 id

/-- A form opened on the values of launch is a form opened at launch. -/
theorem sameSession_opened (hs : s.PendingOpened) (hmodel : s.model = .initial) (now : Instant) :
    SameSession s.posted.length 0
      { s with form := some (.opened z now), session := s.session + 1 }
      { launched with form := some (.opened z now), session := launched.session + 1 } where
  model := hmodel
  form := rfl
  pending := by
    have hnone : s.pending.filter
        (own { s with form := some (.opened z now), session := s.session + 1 }) = [] := by
      rw [List.filter_eq_nil_iff]
      intro c hc
      simpa [own] using (Nat.lt_succ_of_le (hs c hc)).ne
    dsimp only
    rw [hnone]
    rfl
  length := le_rfl
  length' := le_rfl
  posted := by simp [launched]

theorem step_openForm_of_home (z : TimeZone) (myPk : ℤ) (hhome : s.form = none) (now : Instant) :
    step z myPk s (.openForm now) =
      some { s with form := some (.opened z now), session := s.session + 1 } := by
  rw [step, hhome]

theorem inSession_sessionOf {as : List MakingAction} (has : ∀ a ∈ as, InSession a) :
    ∀ a ∈ as ++ [.confirm], InSession a := by
  intro a ha
  rcases List.mem_append.mp ha with ha | ha
  · exact has a ha
  · rw [List.mem_singleton.mp ha]
    trivial

/-- **A session on the initial values posts what the first one posts**, if the replies to
requests of earlier sessions find nothing to reset. -/
theorem posts_eq (hs : s.PendingOpened) (hhome : s.form = none) (hmodel : s.model = .initial)
    {now : Instant} {as : List MakingAction} (has : ∀ a ∈ as, InSession a)
    (hr : run (step z myPk) s (sessionOf now as) = some t)
    (hquiet : Along (step z myPk) ResetsNothing s (sessionOf now as)) :
    postsOf z myPk launched (observed (step z myPk) asFirst s (sessionOf now as)) =
      postsOf z myPk s (sessionOf now as) := by
  have hopen := step_openForm_of_home z myPk hhome now
  have hlaunch := step_openForm_of_home z myPk (s := launched) rfl now
  rw [sessionOf] at hr hquiet ⊢
  rw [run_cons_of_step hopen] at hr
  have hsession := (along_of_forall fun a ha _ => inSession_sessionOf has a ha).and
    ((along_cons_of_step hopen).mp hquiet).2
  obtain ⟨t', ht', hsame⟩ := exists_run_along sameSession_follows
    (sameSession_opened hs hmodel now) hsession hr
  have hfirst : s.asFirst (.openForm now) = [.openForm now] := rfl
  rw [observed_cons_of_step hopen, hfirst, List.singleton_append, postsOf, postsOf,
    run_cons_of_step hlaunch, run_cons_of_step hopen, ht', hr, Option.map_some, Option.map_some]
  exact congrArg some hsame.posted.symm

/-- All requests on their way are of the session at hand. -/
def AllOwn (s : MakingApp) : Prop := ∀ c ∈ s.pending, s.own c = true

theorem allOwn_step (s : MakingApp) (a : MakingAction) (t : MakingApp) (hs : s.AllOwn)
    (ha : InSession a) (h : step z myPk s a = some t) : t.AllOwn := by
  have herase : ∀ i, AllOwn { s with pending := s.pending.eraseIdx i } :=
    fun i c hc => hs c (List.mem_of_mem_eraseIdx hc)
  cases a with
  | edit a =>
    obtain ⟨f, u, -, -, rfl⟩ := step_edit h
    exact hs
  | confirm =>
    obtain ⟨-, ⟨-, rfl⟩ | ⟨-, rfl⟩⟩ := step_confirm h
    · exact hs
    · rw [AllOwn, List.forall_mem_append, List.forall_mem_singleton]
      exact ⟨hs, by simp [own, MakingCall.session]⟩
  | postReply i r =>
    obtain ⟨n, hi, rfl⟩ := step_postReply h
    cases r with
    | decoded pk =>
      have hn := own_iff.mp (hs (.postRoom n) (List.mem_of_getElem? hi))
      rw [AllOwn, answerPost, List.forall_mem_append, List.forall_mem_singleton]
      exact ⟨herase i, own_iff.mpr hn⟩
    | undecodable => exact herase i
    | failure => exact herase i
  | getReply i r =>
    obtain ⟨n, hi, rfl⟩ := step_getReply h
    cases r with
    | decoded data =>
      obtain ⟨hpending, -, hsession⟩ :=
        pop_ghost { s with pending := s.pending.eraseIdx i, gameList := data } n
      intro c hc
      rw [answerGet] at hc ⊢
      dsimp only at hc
      rw [hpending] at hc
      simpa only [own, hsession] using herase i c hc
    | undecodable => exact herase i
    | failure => exact herase i
  | openForm now => exact absurd ha id
  | close => exact absurd ha id

theorem resetsNothing_of_allOwn (s : MakingApp) (a : MakingAction) (t : MakingApp)
    (hs : s.AllOwn) (h : step z myPk s a = some t) : s.ResetsNothing a := by
  cases a with
  | getReply i r =>
    obtain ⟨n, hi, -⟩ := step_getReply h
    cases r with
    | decoded data =>
      refine Or.inl ?_
      rw [hi, Option.any_some]
      exact hs _ (List.mem_of_getElem? hi)
    | undecodable | failure => trivial
  | _ => trivial

/-- **A form opened on the values of launch, with no request on its way**, is a form opened at
launch. -/
theorem asAfterLaunch_of_clean (hhome : s.form = none) (hmodel : s.model = .initial)
    (hpending : s.pending = []) : AsAfterLaunch z myPk s where
  posts now as has hsome := by
    obtain ⟨t, hr⟩ := Option.isSome_iff_exists.mp hsome
    have hopen := step_openForm_of_home z myPk hhome now
    have hrest := hr
    rw [sessionOf, run_cons_of_step hopen] at hrest
    have hown : AllOwn { s with form := some (.opened z now), session := s.session + 1 } := by
      rw [AllOwn, hpending]
      exact List.forall_mem_nil _
    refine posts_eq (fun c hc => ?_) hhome hmodel has hr ((along_cons_of_step hopen).mpr
      ⟨trivial, along_of_invariant allOwn_step
        (fun u a v hu _ h => resetsNothing_of_allOwn u a v hu h) hown
        (inSession_sessionOf has) hrest⟩)
    rw [hpending] at hc
    exact absurd hc List.not_mem_nil
  offered now as has := by
    have hopen := step_openForm_of_home z myPk hhome now
    have hlaunch := step_openForm_of_home z myPk (s := launched) rfl now
    have huser : ∀ a ∈ as ++ [.confirm], ByUser a := by
      intro a ha
      rcases List.mem_append.mp ha with ha | ha
      · exact has a ha
      · rw [List.mem_singleton.mp ha]
        trivial
    have hs : s.PendingOpened := by
      rw [PendingOpened, hpending]
      exact List.forall_mem_nil _
    have hrel := run_rel (C := ByUser) (sameSession_byUser z myPk)
      (sameSession_opened (z := z) hs hmodel now) huser
    rw [sessionOf, run_cons_of_step hopen, run_cons_of_step hlaunch]
    exact isSome_iff_of_rel hrel

/-! ### Every value that is left can be seen -/

/-- Edits in the app are edits of its form. -/
theorem run_edits {t : FormState} (es : List FormAction) {s : MakingApp} {f : MakeMatchingForm}
    (hf : s.form = some f)
    (ht : run (FormState.step z) ⟨f, s.model⟩ es = some t) :
    run (step z myPk) s (es.map .edit) =
      some { s with form := some t.form, model := t.model } := by
  induction es generalizing s f with
  | nil =>
    obtain rfl : (⟨f, s.model⟩ : FormState) = t := by simpa using ht
    rw [List.map_nil, run_nil, ← hf]
  | cons e es ih =>
    obtain ⟨r, hstep, hrest⟩ := run_cons_eq_some.mp ht
    have hedit : step z myPk s (.edit e) =
        some { s with form := some r.form, model := r.model } := by
      rw [step, hf]
      simp only [hstep, Option.map_some]
    rw [List.map_cons, run_cons_of_step hedit]
    exact ih (s := { s with form := some r.form, model := r.model }) rfl hrest

/-- A session of edits, from a state on. -/
theorem run_sessionOf_edits (myPk : ℤ) {s : MakingApp} (hhome : s.form = none) {now : Instant}
    {es : List FormAction} {t : FormState}
    (ht : run (FormState.step z) ⟨.opened z now, s.model⟩ es = some t)
    (htop : t.form.tierScreen = false) :
    run (step z myPk) s (sessionOf now (es.map .edit)) =
      some (didTapMakeMatchingRoomButton myPk
        { s with form := some t.form, session := s.session + 1, model := t.model }) := by
  have hedits : run (step z myPk)
      { s with form := some (.opened z now), session := s.session + 1 } (es.map .edit) =
      some { s with form := some t.form, session := s.session + 1, model := t.model } :=
    run_edits es rfl ht
  refine (run_cons_of_step (step_openForm_of_home z myPk hhome now)).trans (run_concat hedits ?_)
  refine if_pos ?_
  rw [formOnTop]
  exact congrArg not htop

/-- What a sequence of edits and a confirmation posts. -/
theorem postsOf_edits {s : MakingApp} (hhome : s.form = none) {now : Instant}
    {es : List FormAction} {t : FormState}
    (ht : run (FormState.step z) ⟨.opened z now, s.model⟩ es = some t)
    (htop : t.form.tierScreen = false) :
    postsOf z myPk s (sessionOf now (es.map .edit)) = some (t.model.confirm myPk).toList := by
  rw [postsOf, run_sessionOf_edits myPk hhome ht htop, Option.map_some,
    didTapMakeMatchingRoomButton]
  dsimp only
  cases t.model.confirm myPk with
  | none => simp
  | some p => simp

theorem byUser_edits (es : List FormAction) :
    ∀ a ∈ es.map MakingAction.edit, ByUser a ∧ InSession a := by
  intro a ha
  obtain ⟨e, -, rfl⟩ := List.mem_map.mp ha
  exact ⟨trivial, trivial⟩

/-- A session as after launch confirms, after any edits, what the first session
confirms after them. -/
theorem confirm_eq_of_asAfterLaunch (h : AsAfterLaunch z myPk s) (hhome : s.form = none)
    (es : List FormAction) {t t₀ : FormState}
    (ht : run (FormState.step z) ⟨.opened z 0, s.model⟩ es = some t)
    (ht₀ : run (FormState.step z) ⟨.opened z 0, launched.model⟩ es = some t₀)
    (htop : t.form.tierScreen = false) (htop₀ : t₀.form.tierScreen = false) :
    t.model.confirm myPk = t₀.model.confirm myPk := by
  have hr := run_sessionOf_edits myPk hhome ht htop
  have hposts := h.posts 0 (es.map .edit) (fun a ha => (byUser_edits es a ha).2) (by rw [hr]; rfl)
  -- there are no replies, and the first session does the same
  rw [observed_eq_self (fun a ha s => ?_) hr, postsOf_edits hhome ht htop,
    postsOf_edits rfl ht₀ htop₀, Option.some.injEq] at hposts
  · cases hm : t.model.confirm myPk with
    | none => cases hm₀ : t₀.model.confirm myPk with
      | none => rfl
      | some p₀ => simp [hm, hm₀] at hposts
    | some p => cases hm₀ : t₀.model.confirm myPk with
      | none => simp [hm, hm₀] at hposts
      | some p₀ => simpa [hm, hm₀] using hposts.symm
  · rcases List.mem_cons.mp ha with rfl | ha
    · rfl
    · rcases List.mem_append.mp ha with ha | ha
      · obtain ⟨e, -, rfl⟩ := List.mem_map.mp ha
        rfl
      · rw [List.mem_singleton.mp ha]
        rfl

theorem confirm_eq_none {myPk : ℤ} {m : MakeMatchingModel} :
    m.confirm myPk = none ↔ m.Incomplete := by
  rw [MakeMatchingModel.confirm]
  split_ifs with h
  · exact iff_of_true rfl h
  · exact iff_of_false not_false h

/-- Where the first session shows the alert, so does a session as after launch. -/
theorem incomplete_of_asAfterLaunch (h : AsAfterLaunch z myPk s) (hhome : s.form = none)
    (es : List FormAction) {t t₀ : FormState}
    (ht : run (FormState.step z) ⟨.opened z 0, s.model⟩ es = some t)
    (ht₀ : run (FormState.step z) ⟨.opened z 0, launched.model⟩ es = some t₀)
    (htop : t.form.tierScreen = false) (htop₀ : t₀.form.tierScreen = false)
    (hinc : t₀.model.Incomplete) : t.model.Incomplete := by
  have hc := confirm_eq_of_asAfterLaunch h hhome es ht ht₀ htop htop₀
  exact confirm_eq_none.mp (hc.trans (confirm_eq_none.mpr hinc))

/-- Counting up does not lead to one. -/
theorem countUp_ne_one {n : ℤ} (h : 1 ≤ n) : FormState.countUp n ≠ 1 := by
  rw [FormState.countUp]
  split_ifs <;> omega

/-- A title shows where nothing is typed. -/
theorem roomTitle_of_asAfterLaunch (h : AsAfterLaunch z myPk s) (hhome : s.form = none)
    (hcount : 1 ≤ s.model.countJoinPeople) : s.model.roomTitle = "" := by
  rcases incomplete_of_asAfterLaunch h hhome [.countUp, .chooseGame .lol] rfl rfl rfl rfl
    (Or.inl rfl) with htitle | hpeople | hgame
  · exact htitle
  · exact absurd hpeople (countUp_ne_one hcount)
  · exact absurd hgame (by decide : MyGame.lol.rawValue ≠ "")

/-- A count shows where nothing is counted. -/
theorem countJoinPeople_of_asAfterLaunch (h : AsAfterLaunch z myPk s)
    (hhome : s.form = none) : s.model.countJoinPeople = 1 := by
  rcases incomplete_of_asAfterLaunch h hhome [.editTitle "a", .chooseGame .lol] rfl rfl rfl rfl
    (Or.inr (Or.inl rfl)) with htitle | hpeople | hgame
  · exact absurd htitle (by decide : "a" ≠ "")
  · exact hpeople
  · exact absurd hgame (by decide : MyGame.lol.rawValue ≠ "")

/-- A game shows where none is chosen. -/
theorem selectedGame_of_asAfterLaunch (h : AsAfterLaunch z myPk s) (hhome : s.form = none)
    (hcount : 1 ≤ s.model.countJoinPeople) : s.model.selectedGame = "" := by
  rcases incomplete_of_asAfterLaunch h hhome [.editTitle "a", .countUp] rfl rfl rfl rfl
    (Or.inr (Or.inr rfl)) with htitle | hpeople | hgame
  · exact absurd htitle (by decide : "a" ≠ "")
  · exact absurd hpeople (countUp_ne_one hcount)
  · exact hgame

/-- A complete form is posted. -/
theorem confirm_of_complete {myPk : ℤ} {m : MakeMatchingModel} (htitle : m.roomTitle ≠ "")
    (hpeople : m.countJoinPeople ≠ 1) (hgame : m.selectedGame ≠ "") :
    m.confirm myPk = some (postRoom myPk m) := by
  refine if_neg ?_
  rintro (h | h | h)
  · exact htitle h
  · exact hpeople h
  · exact hgame h

/-- A complete form posts the values it does not ask for, too: date, voice chat and
tiers show where they are not touched. -/
theorem untouched_of_asAfterLaunch (h : AsAfterLaunch z myPk s) (hhome : s.form = none)
    (hcount : 1 ≤ s.model.countJoinPeople) :
    s.model.startGameDate = "" ∧ s.model.isVoiceChat = false ∧ s.model.lowestTier = 0 ∧
      s.model.highestTier = 7 := by
  have htitle : "a" ≠ "" := by decide
  have hgame : MyGame.lol.rawValue ≠ "" := by decide
  have hc := confirm_eq_of_asAfterLaunch h hhome [.editTitle "a", .countUp, .chooseGame .lol]
    rfl rfl rfl rfl
  rw [confirm_of_complete htitle (countUp_ne_one hcount) hgame,
    confirm_of_complete htitle (countUp_ne_one le_rfl) hgame, Option.some.injEq] at hc
  refine ⟨congrArg PostRoom.startDate hc, congrArg PostRoom.voiceChat hc, ?_, ?_⟩
  -- the tiers are posted under each other's names
  · exact congrArg PostRoom.highestTier hc
  · exact congrArg PostRoom.lowestTier hc

/-- **Every value that is left shows**: a session that cannot be told from the first
starts with the values of launch. -/
theorem model_of_asAfterLaunch (h : AsAfterLaunch z myPk s) (hhome : s.form = none)
    (hcount : 1 ≤ s.model.countJoinPeople) : s.model = .initial := by
  obtain ⟨hdate, hvoice, hlowest, hhighest⟩ := untouched_of_asAfterLaunch h hhome hcount
  exact MakeMatchingModel.ext (roomTitle_of_asAfterLaunch h hhome hcount)
    (countJoinPeople_of_asAfterLaunch h hhome) (selectedGame_of_asAfterLaunch h hhome hcount)
    hdate hvoice hlowest hhighest

/-! ### Every request that is left can be seen -/

/-- The list of rooms arrives for an earlier session. -/
theorem step_getReply_late (z : TimeZone) (myPk : ℤ) {i n : ℕ}
    (hi : s.pending[i]? = some (.getRoom n)) (hn : n ≠ s.session) :
    step z myPk s (.getReply i (.decoded [])) =
        some { s with pending := s.pending.eraseIdx i, gameList := [], model := .initial } ∧
      s.asFirst (.getReply i (.decoded [])) = [] := by
  constructor
  · simp only [step, hi, answerGet, pop, if_neg hn.symm, initialized_eq]
  · simp [asFirst, hi, own, MakingCall.session, hn]

/-- **A request of an earlier session can reset the model** at any time, and the first session
has nothing of it. -/
theorem exists_reset (z : TimeZone) (myPk : ℤ) {c : MakingCall} (hc : c ∈ s.pending)
    (hn : c.session ≠ s.session) :
    ∃ as t, (∀ a ∈ as, InSession a) ∧ run (step z myPk) s as = some t ∧
      observed (step z myPk) asFirst s as = [] ∧ t.form = s.form ∧ t.model = .initial ∧
      t.posted = s.posted := by
  obtain ⟨i, hi⟩ := List.getElem?_of_mem hc
  cases c with
  | getRoom n =>
    obtain ⟨hget, hfirst⟩ := step_getReply_late z myPk hi hn
    refine ⟨[.getReply i (.decoded [])], _, List.forall_mem_singleton.mpr trivial,
      run_cons_of_step hget, ?_, rfl, rfl, rfl⟩
    rw [observed_cons_of_step hget, hfirst]
    rfl
  | postRoom n =>
    -- it is answered, and `getRoom` is the last request
    have hpost : step z myPk s (.postReply i (.decoded 0)) =
        some (({ s with pending := s.pending.eraseIdx i } : MakingApp).answerPost n
          (.decoded 0)) := by
      rw [step, hi]
    have hnone : s.asFirst (.postReply i (.decoded 0)) = [] := by
      have hnot : ¬s.own (.postRoom n) = true := fun h => hn (own_iff.mp h)
      simp [asFirst, hi, hnot]
    obtain ⟨hget, hfirst⟩ := step_getReply_late z myPk
      (s := ({ s with pending := s.pending.eraseIdx i } : MakingApp).answerPost n (.decoded 0))
      (i := (s.pending.eraseIdx i).length) (n := n) (by simp [answerPost]) hn
    refine ⟨[.postReply i (.decoded 0), .getReply (s.pending.eraseIdx i).length (.decoded [])], _,
      ?_, (run_cons_of_step hpost).trans (run_cons_of_step hget), ?_, rfl, rfl, rfl⟩
    · rw [List.forall_mem_cons, List.forall_mem_singleton]
      exact ⟨trivial, trivial⟩
    · rw [observed_cons_of_step hpost, hnone, observed_cons_of_step hget, hfirst]
      rfl

/-- **Every request that is left shows**: its last reply may come after the form has been filled
in. -/
theorem pending_of_asAfterLaunch (h : AsAfterLaunch z myPk s) (hs : s.PendingOpened)
    (hhome : s.form = none) (hmodel : s.model = .initial) : s.pending = [] := by
  by_contra hne
  obtain ⟨c, hc⟩ := List.exists_mem_of_ne_nil _ hne
  obtain ⟨es, t, ht, htop, hcomplete⟩ : ∃ es t,
      run (FormState.step z) ⟨.opened z 0, .initial⟩ es = some t ∧
        t.form.tierScreen = false ∧ t.model.confirm myPk ≠ none :=
    ⟨[.editTitle "a", .countUp, .chooseGame .lol], _, rfl, rfl, ne_of_eq_of_ne
      (confirm_of_complete (by decide : "a" ≠ "") (countUp_ne_one le_rfl)
        (by decide : MyGame.lol.rawValue ≠ "")) (Option.some_ne_none _)⟩
  obtain ⟨u, hu⟩ : ∃ u : MakingApp,
      u = { s with form := some t.form, session := s.session + 1, model := t.model } := ⟨_, rfl⟩
  have hopen := step_openForm_of_home z myPk hhome 0
  have hedits : run (step z myPk) { s with form := some (.opened z 0), session := s.session + 1 }
      (es.map .edit) = some u := hu ▸ run_edits es rfl (hmodel ▸ ht)
  have hleft : c ∈ u.pending ∧ c.session ≠ u.session := by
    rw [hu]
    exact ⟨hc, (Nat.lt_succ_of_le (hs c hc)).ne⟩
  obtain ⟨as, v, has, hv, hobs, hform, hinitial, hposted⟩ :=
    exists_reset z myPk hleft.1 hleft.2
  -- the alert is shown where the first session posts
  have hconfirm : step z myPk v .confirm = some v := by
    have hshown : v.formOnTop = true := by
      rw [formOnTop, hform, hu]
      exact congrArg not htop
    rw [step, if_pos hshown, didTapMakeMatchingRoomButton, hinitial]
    rfl
  have hr : run (step z myPk) s (sessionOf 0 (es.map .edit ++ as)) = some v := by
    rw [sessionOf, run_cons_of_step hopen, List.append_assoc]
    exact run_append_eq_some.mpr ⟨u, hedits, run_concat hv hconfirm⟩
  have hseen : observed (step z myPk) asFirst s (sessionOf 0 (es.map .edit ++ as)) =
      sessionOf 0 (es.map .edit) := by
    have hself : observed (step z myPk) asFirst _ (es.map .edit) = es.map .edit :=
      observed_eq_self (fun a ha s => by obtain ⟨e, -, rfl⟩ := List.mem_map.mp ha; rfl) hedits
    rw [sessionOf, observed_cons_of_step hopen, List.append_assoc, observed_append hedits, hself,
      observed_append hv, hobs, observed_cons_of_step hconfirm]
    rfl
  have hposts := h.posts 0 (es.map .edit ++ as) (fun a ha => ?_) (by rw [hr]; rfl)
  · have hnothing : postsOf z myPk s (sessionOf 0 (es.map .edit ++ as)) = some [] := by
      rw [postsOf, hr, Option.map_some, hposted, hu]
      simp
    rw [hseen, postsOf_edits (s := launched) rfl ht htop, hnothing, Option.some.injEq,
      Option.toList_eq_nil_iff] at hposts
    exact hcomplete hposts
  · rcases List.mem_append.mp ha with ha | ha
    · exact (byUser_edits es a ha).2
    · exact has a ha

/-! ### Which histories leave nothing -/

/-- A tap on the close button where there is nothing to leave. -/
def ClosesClean (s : MakingApp) : MakingAction → Prop
  | .close => s.model = .initial
  | _ => True

/-- No form, no values. -/
def Clean (s : MakingApp) : Prop := s.form = none → s.model = .initial

theorem clean_step {z : TimeZone} {myPk : ℤ} (s : MakingApp) (a : MakingAction) (t : MakingApp)
    (hs : s.Clean) (hc : ClosesClean s a) (h : step z myPk s a = some t) : t.Clean := by
  cases a with
  | openForm now =>
    obtain ⟨-, rfl⟩ := step_openForm h
    exact nofun
  | edit a =>
    obtain ⟨f, u, -, -, rfl⟩ := step_edit h
    exact nofun
  | confirm =>
    obtain ⟨-, ⟨-, rfl⟩ | ⟨-, rfl⟩⟩ := step_confirm h
    · exact hs
    · exact hs
  | close =>
    obtain ⟨-, rfl⟩ := step_close h
    exact fun _ => (pop_model s s.session).trans hc
  | postReply i r =>
    obtain ⟨n, -, rfl⟩ := step_postReply h
    cases r with
    | decoded pk => exact hs
    | undecodable => exact hs
    | failure => exact hs
  | getReply i r =>
    obtain ⟨n, -, rfl⟩ := step_getReply h
    cases r with
    | decoded data => exact fun _ => rfl
    | undecodable => exact hs
    | failure => exact hs

/-- **Histories that leave nothing** are those in which the close button is only
tapped while the model has its initial values. -/
theorem nothing_left {z : TimeZone} {myPk : ℤ} {s : MakingApp} {history : List MakingAction}
    (hr : run (step z myPk) launched history = some s)
    (hclose : Along (step z myPk) ClosesClean launched history) (hhome : s.form = none) :
    s.model = .initial :=
  run_invariant_along (P := Clean) clean_step (fun _ => rfl) hclose hr hhome

/-- **When a session is as the first one**: after any history – sessions closed, sessions
posted, replies still to come – exactly when the model has its initial values and no request is
on its way. It has these values in every history in which the close button is only tapped where
it leaves nothing; and if it has them, a session posts what the first one would post as long as
no reply to an earlier one resets other values. -/
theorem as_after_launch_iff {history : List MakingAction}
    (hr : run (step z myPk) launched history = some s) (hhome : s.form = none) :
    (AsAfterLaunch z myPk s ↔ s.model = .initial ∧ s.pending = []) ∧
      (Along (step z myPk) ClosesClean launched history → s.model = .initial) ∧
      (s.model = .initial → ∀ now as, (∀ a ∈ as, InSession a) →
        (run (step z myPk) s (sessionOf now as)).isSome →
        Along (step z myPk) ResetsNothing s (sessionOf now as) →
          postsOf z myPk launched (observed (step z myPk) asFirst s (sessionOf now as)) =
            postsOf z myPk s (sessionOf now as)) := by
  have hs : s.PendingOpened :=
    run_invariant pendingOpened_step (fun _ hc => absurd hc List.not_mem_nil) hr
  refine ⟨⟨fun h => ?_, fun h => asAfterLaunch_of_clean hhome h.1 h.2⟩,
    fun hclose => nothing_left hr hclose hhome, fun hmodel now as has hsome hquiet => ?_⟩
  · have hmodel := model_of_asAfterLaunch h hhome (count_bounds hr).1
    exact ⟨hmodel, pending_of_asAfterLaunch h hs hhome hmodel⟩
  · obtain ⟨t, ht⟩ := Option.isSome_iff_exists.mp hsome
    exact posts_eq hs hhome hmodel has ht hquiet

/-- A session in which a title is typed, and closed. -/
def closedWithTitle : List MakingAction := [.openForm 0, .edit (.editTitle "tonight"), .close]

/-- A session without a title: a count and a game. -/
def countAndGame : List MakingAction := [.edit .countUp, .edit (.chooseGame .lol)]

/-- **The title of a closed session is posted by the next**, on whose form no title
has been typed; in the first session the same actions post nothing. -/
theorem closedWithTitle_leaks :
    ∃ s, run (step (TimeZone.fixed 32400) 1) launched closedWithTitle = some s ∧
      s.form = none ∧
      (postsOf (TimeZone.fixed 32400) 1 s (sessionOf 60 countAndGame)).map
        (·.map PostRoom.roomName) = some ["tonight"] ∧
      postsOf (TimeZone.fixed 32400) 1 launched (sessionOf 60 countAndGame) = some [] ∧
      ¬AsAfterLaunch (TimeZone.fixed 32400) 1 s := by
  refine ⟨_, rfl, rfl, by decide, by decide, fun h => ?_⟩
  have hsession : ∀ a ∈ countAndGame, InSession a := by
    rw [countAndGame, List.forall_mem_cons, List.forall_mem_singleton]
    exact ⟨trivial, trivial⟩
  exact absurd (h.posts 60 countAndGame hsession (by decide)) (by decide)

/-- A session that is filled in, posted and answered in full. -/
def postedAndReset : List MakingAction :=
  [.openForm 0, .edit (.editTitle "tonight"), .edit .countUp, .edit (.chooseGame .lol), .confirm,
    .postReply 0 (.decoded 5), .getReply 0 (.decoded [])]

/-- A room has been posted, and nothing is left of the session. -/
theorem postedAndReset_leaves_nothing :
    ∃ s, run (step (TimeZone.fixed 32400) 1) launched postedAndReset = some s ∧
      s.posted.map (fun p => p.2.roomName) = ["tonight"] ∧
      AsAfterLaunch (TimeZone.fixed 32400) 1 s := by
  have hr : run (step (TimeZone.fixed 32400) 1) launched postedAndReset = some _ := rfl
  exact ⟨_, hr, by decide, (as_after_launch_iff hr rfl).1.mpr ⟨rfl, rfl⟩⟩

end MakingApp

end Joinus
