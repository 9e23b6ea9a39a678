import Joinus.Making.Sessions

/-!
# What a request for a room looks like

The confirm button checks three of the values it posts: the title, the count and the game.
That the count does not exceed four, and that the tiers are tiers, is an invariant of the
model, whatever sessions have gone before (`Joinus.MakingApp.count_bounds`,
`Joinus.MakingApp.tiers_bounds`). So it is only the order of the tiers that can be wrong in
a request, and there `postRoom`, which exchanges them, decides which order is the right one:
a request has its tiers in order if the model has them the other way round
(`Joinus.MakingApp.requests_wellFormed_iff`). The model at launch, where all tiers are
welcome, is not one of these.
-/

namespace Joinus

open Base

/-- A request for a room that can be made. -/
structure PostRoom.WellFormed (p : PostRoom) : Prop where
  roomName : p.roomName ≠ ""
  peopleNumber : 2 ≤ p.peopleNumber ∧ p.peopleNumber ≤ 4
  lowestTier : 0 ≤ p.lowestTier
  inOrder : p.lowestTier ≤ p.highestTier
  highestTier : p.highestTier ≤ 7

/-- The confirm button of a form. -/
def MakingAction.isConfirm : MakingAction → Bool
  | .confirm => true
  | _ => false

namespace MakingApp

/-- **All requests posted so far are well-formed.** -/
def RequestsWellFormed (s : MakingApp) : Prop := ∀ p ∈ s.posted, p.2.WellFormed

/-- **The tiers are the other way round** when a complete form is confirmed: that in the
model's highest tier is not above that in its lowest. -/
def TiersReversed (s : MakingApp) (a : MakingAction) : Prop :=
  a.isConfirm = true → ¬s.model.Incomplete → s.model.highestTier ≤ s.model.lowestTier

instance (s : MakingApp) (a : MakingAction) : Decidable (s.TiersReversed a) :=
  inferInstanceAs (Decidable (_ → _ → _))

/-- The state of the app after some run from launch. -/
def Reachable (z : TimeZone) (myPk : ℤ) (s : MakingApp) : Prop :=
  ∃ as, run (step z myPk) launched as = some s

theorem reachable_step {z : TimeZone} {myPk : ℤ} (s : MakingApp) (a : MakingAction) (t : MakingApp)
    (hs : s.Reachable z myPk) (h : s.step z myPk a = some t) : t.Reachable z myPk := by
  obtain ⟨as, hr⟩ := hs
  exact ⟨as ++ [a], run_concat hr h⟩

/-! ### What is posted -/

theorem posted_answerPost (s : MakingApp) (n : ℕ) (r : Reply ℤ) :
    (s.answerPost n r).posted = s.posted := by
  cases r <;> rfl

theorem posted_pop (s : MakingApp) (n : ℕ) : (s.pop n).posted = s.posted := by
  unfold pop
  split_ifs <;> rfl

theorem posted_answerGet (s : MakingApp) (n : ℕ) (r : Reply (List GetRoomInfo)) :
    (s.answerGet n r).posted = s.posted := by
  cases r with
  | decoded data => exact posted_pop _ n
  | undecodable => rfl
  | failure => rfl

/-- **Only the confirm button posts**, and only a complete form. -/
theorem posted_step {z : TimeZone} {myPk : ℤ} {s t : MakingApp} {a : MakingAction}
    (h : s.step z myPk a = some t) :
    (a.isConfirm = true ∧ ¬s.model.Incomplete ∧
      t.posted = s.posted ++ [(s.session, postRoom myPk s.model)]) ∨
    ((a.isConfirm = true → s.model.Incomplete) ∧ t.posted = s.posted) := by
  cases a with
  | openForm now =>
    obtain ⟨-, rfl⟩ := step_openForm h
    exact Or.inr ⟨nofun, rfl⟩
  | edit a =>
    obtain ⟨f, u, -, -, rfl⟩ := step_edit h
    exact Or.inr ⟨nofun, rfl⟩
  | confirm =>
    obtain ⟨-, ⟨hinc, rfl⟩ | ⟨hinc, rfl⟩⟩ := step_confirm h
    · exact Or.inr ⟨fun _ => hinc, rfl⟩
    · exact Or.inl ⟨rfl, hinc, rfl⟩
  | close =>
    obtain ⟨-, rfl⟩ := step_close h
    exact Or.inr ⟨nofun, posted_pop s _⟩
  | postReply i r =>
    obtain ⟨n, -, rfl⟩ := step_postReply h
    exact Or.inr ⟨nofun, posted_answerPost _ n r⟩
  | getReply i r =>
    obtain ⟨n, -, rfl⟩ := step_getReply h
    exact Or.inr ⟨nofun, posted_answerGet _ n r⟩

/-- **Every request is that of a complete form** in a state the app has been in. -/
theorem posted_postRoom {z : TimeZone} {myPk : ℤ} {s : MakingApp} (hs : s.Reachable z myPk) :
    ∀ p ∈ s.posted, ∃ u : MakingApp, u.Reachable z myPk ∧ ¬u.model.Incomplete ∧
      p.2 = postRoom myPk u.model := by
  obtain ⟨as, hr⟩ := hs
  have hinv := run_invariant (P := fun s : MakingApp => s.Reachable z myPk ∧
      ∀ p ∈ s.posted, ∃ u : MakingApp, u.Reachable z myPk ∧ ¬u.model.Incomplete ∧
        p.2 = postRoom myPk u.model) (fun s a t hs h => ?_)
    ⟨⟨[], rfl⟩, fun p hp => absurd hp List.not_mem_nil⟩ hr
  · exact hinv.2
  · refine ⟨reachable_step s a t hs.1 h, ?_⟩
    rcases posted_step h with ⟨-, hcomplete, hposted⟩ | ⟨-, hposted⟩
    · rw [hposted, List.forall_mem_append, List.forall_mem_singleton]
      exact ⟨hs.2, s, hs.1, hcomplete, rfl⟩
    · rw [hposted]
      exact hs.2

/-- Requests are never taken back. -/
theorem posted_subset {z : TimeZone} {myPk : ℤ} {s t : MakingApp} {a : MakingAction}
    (h : s.step z myPk a = some t) : s.posted ⊆ t.posted := by
  rcases posted_step h with ⟨-, -, hposted⟩ | ⟨-, hposted⟩
  · rw [hposted]
    exact List.subset_append_left _ _
  · rw [hposted]
    exact List.Subset.refl _

/-- **When a request is well-formed**: in a state the app can be in, the request of a
complete form is, exactly if its tiers are the other way round. -/
theorem wellFormed_postRoom_iff {z : TimeZone} {myPk : ℤ} {s : MakingApp}
    (hs : s.Reachable z myPk) (hcomplete : ¬s.model.Incomplete) :
    (postRoom myPk s.model).WellFormed ↔ s.model.highestTier ≤ s.model.lowestTier := by
  obtain ⟨as, hr⟩ := hs
  obtain ⟨hone, hfour⟩ := count_bounds hr
  obtain ⟨⟨hlow₀, hlow₇⟩, hhigh₀, hhigh₇⟩ := tiers_bounds hr
  obtain ⟨htitle, hcount, -⟩ : s.model.roomTitle ≠ "" ∧ s.model.countJoinPeople ≠ 1 ∧
      s.model.selectedGame ≠ "" := by simpa [MakeMatchingModel.Incomplete, not_or] using hcomplete
  constructor
  · exact fun hwell => hwell.inOrder
  · intro horder
    exact
      { roomName := htitle
        peopleNumber := ⟨by simp only [postRoom]; omega, hfour⟩
        lowestTier := hhigh₀
        inOrder := horder
        highestTier := hlow₇ }

/-- **When every request is well-formed**: in every run from launch, exactly if each form
that is confirmed and complete has its tiers the other way round. -/
theorem requests_wellFormed_iff {z : TimeZone} {myPk : ℤ} {s : MakingApp} {as : List MakingAction}
    (hr : run (step z myPk) launched as = some s) :
    Throughout (step z myPk) RequestsWellFormed launched as ↔
      Along (step z myPk) TiersReversed launched as := by
  refine throughout_iff_along (I := Reachable z myPk) reachable_step (fun s a t hs hwell h => ?_)
    ⟨[], rfl⟩ (fun p hp => absurd hp List.not_mem_nil) hr
  rcases posted_step h with ⟨hconfirm, hcomplete, hposted⟩ | ⟨hincomplete, hposted⟩
  · rw [RequestsWellFormed, hposted, List.forall_mem_append, TiersReversed]
    simp only [List.forall_mem_singleton, wellFormed_postRoom_iff hs hcomplete]
    exact ⟨fun h _ _ => h.2, fun h => ⟨hwell, h hconfirm hcomplete⟩⟩
  · rw [RequestsWellFormed, hposted]
    exact iff_of_true hwell fun hconfirm hcomplete => absurd (hincomplete hconfirm) hcomplete

/-- A form with a title, two people and a game, confirmed. -/
def allTiers : List MakingAction :=
  [.openForm 0, .edit (.editTitle "tonight"), .edit .countUp, .edit (.chooseGame .lol), .confirm]

/-- The same, with gold on both sides of the tier screen. -/
def onlyGold : List MakingAction :=
  [.openForm 0, .edit (.editTitle "tonight"), .edit .countUp, .edit (.chooseGame .lol),
    .edit .openTiers, .edit (.smallest .gold), .edit (.largest .gold), .edit .leaveTiers, .confirm]

/-- **All tiers are posted from the highest to the lowest.** -/
theorem allTiers_outOfOrder :
    ¬Throughout (step (.fixed 32400) 1) RequestsWellFormed launched allTiers := by
  intro h
  have hr : run (step (.fixed 32400) 1) launched allTiers = some _ := rfl
  have hwell := h.last hr _ List.mem_cons_self
  exact absurd hwell.inOrder (by decide)

/-- One tier is in order either way. -/
theorem onlyGold_wellFormed :
    Throughout (step (.fixed 32400) 1) RequestsWellFormed launched onlyGold := by
  obtain ⟨s, hr⟩ := Option.isSome_iff_exists.mp
    (by decide : (run (step (.fixed 32400) 1) launched onlyGold).isSome = true)
  exact (requests_wellFormed_iff hr).mpr (by decide)

end MakingApp

end Joinus
