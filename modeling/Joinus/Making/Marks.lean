import Joinus.Making.Late
import Joinus.Making.Trip

/-!
# The marks of the tier screen

The tier screen lies over the form and has nine buttons on either side. A tap marks its
button, takes the mark from the other eight, and writes the tier into the model, where *all
tiers* is the lowest tier on the one side and the highest on the other. Before any tap the
screen has to say what the model has already, and it does so only when it is shown for the
first time, and only if the model has all tiers: then both sides are marked so. Any other
tiers, left in the model by an earlier form, are not marked.

| side | marked | the tier in the model |
|---|---|---|
| tapped | the last button tapped | that of the button |
| not tapped, model with all tiers | all tiers | `0`, or `7` |
| not tapped, other tiers left over | nothing | the one left over |

So a mark never misleads, and one can be missing only on a side that has not been tapped
(`Joinus.marks_tell`). This is as far as the form goes; in the app a confirmation resets the
model when its last reply arrives, and leaves the marks as they are. So it is said of the
sessions in which no such reply arrives, be it to the open form or to one that was closed
(`Joinus.MakingApp.tier_marks_tell`).
-/

namespace Joinus

open Base

/-- The button that is marked on a side, by the last choice on that side and whether the screen
has been shown, over a model that the form has found. -/
def markOf (before : MakeMatchingModel) (tierScreenLoaded : Bool) :
    Option TierTap → Option TierTap
  | some tier => some tier
  | none =>
    if tierScreenLoaded ∧ before.lowestTier = 0 ∧ before.highestTier = 7 then some .allTier
    else none

/-- The tier that a button stands for. -/
def TierTap.tier (all : ℤ) (tier : TierTap) : ℤ := if tier = .allTier then all else tier.rawValue

/-- **The invariant of the marks**: they are those of the history, and there is no history before
the screen has been shown. -/
structure TierHistory.Marks (before : MakeMatchingModel) (h : TierHistory) (s : FormState) :
    Prop where
  explains : h.Explains before s
  smallest : ∀ tier, s.form.smallestButton tier = true ↔
    markOf before s.form.tierScreenLoaded h.smallest = some tier
  largest : ∀ tier, s.form.largestButton tier = true ↔
    markOf before s.form.tierScreenLoaded h.largest = some tier
  unloaded : s.form.tierScreenLoaded = false → h = ⟨none, none⟩ ∧ s.form.tierScreen = false

theorem marks_opened {z : TimeZone} {now : Instant} (before : MakeMatchingModel) :
    TierHistory.Marks before ⟨none, none⟩ ⟨.opened z now, before⟩ where
  explains := ⟨rfl, rfl, rfl, rfl, rfl⟩
  smallest tier := iff_of_false (by simp [MakeMatchingForm.opened])
    (by simp [markOf, MakeMatchingForm.opened])
  largest tier := iff_of_false (by simp [MakeMatchingForm.opened])
    (by simp [markOf, MakeMatchingForm.opened])
  unloaded _ := ⟨rfl, rfl⟩

/-- **To the tier screen.** The first time, nothing has been chosen yet, and the model has the
tiers that the form has found. -/
theorem marks_openTiers {z : TimeZone} {before : MakeMatchingModel} {h : TierHistory}
    {s t : FormState} (hs : h.Marks before s) (hstep : s.step z .openTiers = some t) :
    h.Marks before t := by
  have hexplains : h.Explains before t := tiers_explained_step h s .openTiers t hs.explains hstep
  obtain ⟨-, rfl⟩ := FormState.step_eq_some.mp hstep
  rcases hloaded : s.form.tierScreenLoaded with - | -
  · obtain ⟨rfl, -⟩ := hs.unloaded hloaded
    have hlowest : s.model.lowestTier = before.lowestTier := hs.explains.lowest
    have hhighest : s.model.highestTier = before.highestTier := hs.explains.highest
    by_cases hall : before.lowestTier = 0 ∧ before.highestTier = 7
    · have hact : s.act z .openTiers =
          { s with
            form :=
              { s.form with
                tierScreen := true
                tierScreenLoaded := true
                smallestButton := fun tier => tier = .allTier
                largestButton := fun tier => tier = .allTier } } := by
        rw [FormState.act, FormState.didTapChangeTierRangeButton, hlowest, hhighest]
        exact if_pos ⟨by simp [hloaded], hall⟩
      rw [hact] at hexplains ⊢
      exact ⟨hexplains, by simp [markOf, hall, eq_comm], by simp [markOf, hall, eq_comm],
        fun hnot => absurd hnot (by simp)⟩
    · have hact : s.act z .openTiers =
          { s with form := { s.form with tierScreen := true, tierScreenLoaded := true } } := by
        rw [FormState.act, FormState.didTapChangeTierRangeButton, hlowest, hhighest]
        exact if_neg fun hc => hall hc.2
      rw [hact] at hexplains ⊢
      have hnone : markOf before true none = none := if_neg fun hc => hall hc.2
      have hbefore : markOf before false none = none := rfl
      refine ⟨hexplains, fun tier => ?_, fun tier => ?_,
        fun hnot => absurd hnot (by simp)⟩
      · have hmark := hs.smallest tier
        rw [hloaded, hbefore] at hmark
        simpa [hnone] using hmark
      · have hmark := hs.largest tier
        rw [hloaded, hbefore] at hmark
        simpa [hnone] using hmark
  · -- the screen is as it was left
    have hact : s.act z .openTiers =
        { s with form := { s.form with tierScreen := true, tierScreenLoaded := true } } := by
      rw [FormState.act, FormState.didTapChangeTierRangeButton]
      exact if_neg fun hc => hc.1 hloaded
    rw [hact] at hexplains ⊢
    refine ⟨hexplains, fun tier => ?_, fun tier => ?_, fun hnot => absurd hnot (by simp)⟩
    · simpa [hloaded] using hs.smallest tier
    · simpa [hloaded] using hs.largest tier

theorem marks_step {z : TimeZone} {before : MakeMatchingModel} (h : TierHistory)
    (s : FormState) (a : FormAction) (t : FormState) (hs : h.Marks before s)
    (hstep : s.step z a = some t) : (h.note a).Marks before t := by
  have hexplains := tiers_explained_step h s a t hs.explains hstep
  obtain ⟨hoffered, hact⟩ := FormState.step_eq_some.mp hstep
  -- a tap on the tier screen finds the screen loaded
  have hloaded : s.form.tierScreen = true → s.form.tierScreenLoaded = true := by
    intro hscreen
    by_contra hnot
    exact absurd ((hs.unloaded (Bool.eq_false_iff.mpr hnot)).2.symm.trans hscreen) nofun
  cases a with
  | smallest tier =>
    obtain rfl := hact
    exact ⟨hexplains, fun _ => by simp [FormState.act, FormState.didTapSmallestTierRangeButton,
      TierHistory.note, markOf, eq_comm], hs.largest,
      fun hnot => absurd ((hloaded hoffered).symm.trans hnot) nofun⟩
  | largest tier =>
    obtain rfl := hact
    exact ⟨hexplains, hs.smallest, fun _ => by simp [FormState.act,
      FormState.didTapLargestTierRangeButton, TierHistory.note, markOf, eq_comm],
      fun hnot => absurd ((hloaded hoffered).symm.trans hnot) nofun⟩
  | openTiers => exact marks_openTiers hs hstep
  | leaveTiers =>
    obtain rfl := hact
    exact ⟨hexplains, hs.smallest, hs.largest, fun hnot => ⟨(hs.unloaded hnot).1, rfl⟩⟩
  | editTitle _ | clearTitle | countUp | countDown | setDate _ | cancelDate | chooseGame _
  | possible | impossible =>
    obtain rfl := hact
    exact ⟨hexplains, hs.smallest, hs.largest, hs.unloaded⟩

/-- **One side of the screen**, with the tier that the form has found there, and the tier that
*all tiers* stands for. -/
theorem side_tells {before : MakeMatchingModel} {tierScreenLoaded : Bool} {choice : Option TierTap}
    {button : TierTap → Bool} {found all tier : ℤ}
    (hbutton : ∀ tap, button tap = true ↔ markOf before tierScreenLoaded choice = some tap)
    (htier : tier = tierAfter found all choice)
    (hall : before.lowestTier = 0 ∧ before.highestTier = 7 → found = all) :
    (∀ tap, button tap = true →
        tier = tap.tier all ∧ ∀ other, button other = true → other = tap) ∧
      (tierScreenLoaded = true →
        ((∃ tap, button tap = true) ↔
          (before.lowestTier = 0 ∧ before.highestTier = 7) ∨ choice.isSome = true)) := by
  refine ⟨fun tap htap => ⟨?_, fun other hother => ?_⟩, fun hloaded => ?_⟩
  · have hmark := (hbutton tap).mp htap
    rw [htier]
    rcases choice with - | last
    · rw [markOf] at hmark
      split_ifs at hmark with hfull
      obtain rfl := Option.some.inj hmark
      exact hall hfull.2
    · obtain rfl := Option.some.inj hmark
      rfl
  · exact Option.some.inj (((hbutton other).mp hother).symm.trans ((hbutton tap).mp htap))
  · simp only [hbutton]
    rcases choice with - | last
    · rw [markOf]
      split_ifs with hfull
      · exact iff_of_true ⟨_, rfl⟩ (Or.inl hfull.2)
      · refine iff_of_false nofun ?_
        rintro (h | h)
        · exact hfull ⟨hloaded, h⟩
        · exact absurd h nofun
    · exact iff_of_true ⟨last, rfl⟩ (Or.inr rfl)

/-- **A mark tells the tier that the model has**, on a form and its tier screen, with the model
that the form has found and the last choices on both sides. -/
structure MarksTell (before : MakeMatchingModel) (h : TierHistory) (s : FormState) : Prop where
  smallest : ∀ tier, s.form.smallestButton tier = true →
    s.model.lowestTier = tier.tier 0 ∧ ∀ other, s.form.smallestButton other = true → other = tier
  largest : ∀ tier, s.form.largestButton tier = true →
    s.model.highestTier = tier.tier 7 ∧ ∀ other, s.form.largestButton other = true → other = tier
  smallestMarked : s.form.tierScreenLoaded = true →
    ((∃ tier, s.form.smallestButton tier = true) ↔
      (before.lowestTier = 0 ∧ before.highestTier = 7) ∨ h.smallest.isSome = true)
  largestMarked : s.form.tierScreenLoaded = true →
    ((∃ tier, s.form.largestButton tier = true) ↔
      (before.lowestTier = 0 ∧ before.highestTier = 7) ∨ h.largest.isSome = true)

/-- A form is opened over any model, and edited in any way. -/
theorem marks_tell {z : TimeZone} {now : Instant} {before : MakeMatchingModel}
    {t : FormState} {as : List FormAction}
    (ht : run (FormState.step z) ⟨.opened z now, before⟩ as = some t) :
    MarksTell before (tierHistory as) t := by
  have hx : (tierHistory as).Marks before t :=
    run_invariant_foldl (P := TierHistory.Marks before) marks_step (marks_opened before) ht
  obtain ⟨hlowest, hlowestMarked⟩ := side_tells hx.smallest hx.explains.lowest And.left
  obtain ⟨hhighest, hhighestMarked⟩ := side_tells hx.largest hx.explains.highest And.right
  exact ⟨hlowest, hhighest, hlowestMarked, hhighestMarked⟩

namespace MakingApp

/-- **The marks tell the tiers, throughout a session**: a form is opened in any state of the
app, over whatever is in the model, and is edited and confirmed in any way, while replies
arrive; and none of them resets the model. On either side of the tier screen at most one button
is marked, and the model has its tier; and once the screen has been shown, a side without a mark
is one that has not been tapped, of a form that has found other than all tiers in the model. -/
theorem tier_marks_tell {z : TimeZone} {myPk : ℤ} {s t : MakingApp} {now : Instant}
    {as : List MakingAction} (has : ∀ a ∈ as, InSession a)
    (hr : run (step z myPk) s (.openForm now :: as) = some t)
    (hkept : Along (step z myPk) (fun u a => u.resetBy a = none) s (.openForm now :: as)) :
    ∃ f, t.form = some f ∧
      MarksTell s.model (tierHistory (as.flatMap MakingAction.edits)) ⟨f, t.model⟩ := by
  obtain ⟨f, hf, ht⟩ := exists_form_of_session has hr hkept
  exact ⟨f, hf, marks_tell ht⟩

/-- A form is closed with gold as its lowest tier, and the tier screen of the next one shown. -/
def goldLeftOver : List MakingAction :=
  [.openForm 0, .edit .openTiers, .edit (.smallest .gold), .edit .leaveTiers, .close]

/-- **The next form marks nothing on its tier screen**, with gold as the lowest tier. -/
theorem goldLeftOver_unmarked :
    ∃ s t f, run (step (TimeZone.fixed 32400) 1) launched goldLeftOver = some s ∧
      run (step (TimeZone.fixed 32400) 1) s [.openForm 60, .edit .openTiers] = some t ∧
      t.form = some f ∧ t.model.lowestTier = 3 ∧ ¬∃ tier, f.smallestButton tier = true := by
  obtain ⟨s, t, hs, ht, hbefore, hafter, hloaded⟩ : ∃ s t,
      run (step (TimeZone.fixed 32400) 1) launched goldLeftOver = some s ∧
      run (step (TimeZone.fixed 32400) 1) s [.openForm 60, .edit .openTiers] = some t ∧
      s.model.lowestTier = 3 ∧ t.model.lowestTier = 3 ∧
      t.form.map MakeMatchingForm.tierScreenLoaded = some true :=
    ⟨_, _, rfl, rfl, rfl, rfl, rfl⟩
  have hkept : Along (step (TimeZone.fixed 32400) 1) (fun u a => u.resetBy a = none) s
      [.openForm 60, .edit .openTiers] := along_of_forall (by simp [resetBy])
  have has : ∀ a ∈ [MakingAction.edit .openTiers], InSession a :=
    List.forall_mem_singleton.mpr trivial
  obtain ⟨f, hf, hmarks⟩ := tier_marks_tell has ht hkept
  refine ⟨s, t, f, hs, ht, hf, hafter, fun hmark => ?_⟩
  rw [hf] at hloaded
  rcases (hmarks.smallestMarked (Option.some.inj hloaded)).mp hmark with ⟨hzero, -⟩ | htapped
  · exact absurd (hbefore.symm.trans hzero) (by decide)
  · exact absurd htapped (by decide)

end MakingApp

end Joinus
