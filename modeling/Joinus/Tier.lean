import Mathlib.Data.Int.Notation
import Mathlib.Data.String.Basic
import Mathlib.Tactic.IntervalCases

/-!
# Tiers and ranges of tiers

A tier is a number from `0`, iron, to `7`, challenger. A condition on tiers is two
of them, the lowest and the highest, and `-1` on either side is no condition on that
side. `TierToString.selectTierRange` makes the texts of a condition: two, if there
is a condition on both sides and the lowest is not above the highest; one otherwise.

The form of the maker shows the two choices of the tier screen, the Select screen of
the joiner shows the two tiers of the room, and both put the texts together in the
same way (`Joinus.rangeText`).
-/

namespace Joinus

/-- `TierToString.selectTierRange`, the text of the lowest tier. -/
def lowestTierText : ℤ → String
  | 0 => "아이언 이상"
  | 1 => "브론즈 이상"
  | 2 => "실버 이상"
  | 3 => "골드 이상"
  | 4 => "플래티넘 이상"
  | 5 => "다이아 이상"
  | 6 => "마스터 이상"
  | 7 => "챌린저 이상"
  | -1 => "모두 가능"
  | _ => ""

/-- `TierToString.selectTierRange`, the text of the highest tier. -/
def highestTierText : ℤ → String
  | 0 => "아이언 이하"
  | 1 => "브론즈 이하"
  | 2 => "실버 이하"
  | 3 => "골드 이하"
  | 4 => "플래티넘 이하"
  | 5 => "다이아 이하"
  | 6 => "마스터 이하"
  | 7 => "챌린저 이하"
  | -1 => "모두 가능"
  | _ => ""

/-- `TierToString.selectTierRange`. -/
def selectTierRange (lowest highest : ℤ) : List String :=
  if lowest = -1 ∧ highest ≠ -1 then [highestTierText highest]
  else if lowest ≠ -1 ∧ highest = -1 then [lowestTierText lowest]
  else if lowest > highest then ["모두 가능"]
  else if lowest = -1 ∧ highest = -1 then ["모두 가능"]
  else [lowestTierText lowest, highestTierText highest]

/-- The text both screens make of a range: the two texts with `>` between them, or
the first. -/
def rangeText : List String → String
  | [lowest, highest] => s!"{lowest} > {highest}"
  | range => range.headD ""

/-- `selectTierRange` has a first text, so that neither screen reads past its
end. -/
theorem selectTierRange_ne_nil (lowest highest : ℤ) : selectTierRange lowest highest ≠ [] := by
  unfold selectTierRange
  split_ifs <;> simp

/-- The choices on the tier screen, `SelectTierOfJoinPeopleViewController.tap`. -/
inductive TierTap where
  | allTier
  | iron
  | bronze
  | silver
  | gold
  | platinum
  | dia
  | master
  | challenger
  deriving DecidableEq

def TierTap.rawValue : TierTap → ℤ
  | .allTier => -1
  | .iron => 0
  | .bronze => 1
  | .silver => 2
  | .gold => 3
  | .platinum => 4
  | .dia => 5
  | .master => 6
  | .challenger => 7

/-! ### The texts tell ranges apart -/

/-- A tier. -/
def IsTier (t : ℤ) : Prop := 0 ≤ t ∧ t ≤ 7

theorem isTier_rawValue {t : TierTap} (h : t ≠ .allTier) : IsTier t.rawValue := by
  cases t <;> first | exact absurd rfl h | exact ⟨by decide, by decide⟩

theorem rangeText_of_lt {lowest highest : ℤ} (hl : IsTier lowest) (hh : IsTier highest)
    (h : highest < lowest) : rangeText (selectTierRange lowest highest) = "모두 가능" := by
  obtain ⟨hl, -⟩ := hl
  obtain ⟨hh, -⟩ := hh
  rw [selectTierRange, if_neg (by omega), if_neg (by omega), if_pos (by omega)]
  rfl

theorem rangeText_of_le {lowest highest : ℤ} (hl : IsTier lowest) (h : lowest ≤ highest) :
    rangeText (selectTierRange lowest highest) =
      s!"{lowestTierText lowest} > {highestTierText highest}" := by
  obtain ⟨hl, -⟩ := hl
  rw [selectTierRange, if_neg (by omega), if_neg (by omega), if_neg (by omega),
    if_neg (by omega)]
  rfl

theorem rangeText_all : rangeText (selectTierRange (-1) (-1)) = "모두 가능" := by
  decide

theorem rangeText_all_lowest {highest : ℤ} (hh : IsTier highest) :
    rangeText (selectTierRange (-1) highest) = highestTierText highest := by
  obtain ⟨hh, -⟩ := hh
  rw [selectTierRange, if_pos ⟨rfl, by omega⟩]
  rfl

theorem rangeText_all_highest {lowest : ℤ} (hl : IsTier lowest) :
    rangeText (selectTierRange lowest (-1)) = lowestTierText lowest := by
  obtain ⟨hl, -⟩ := hl
  rw [selectTierRange, if_neg (by omega), if_pos ⟨by omega, rfl⟩]
  rfl

/-- Only a text of two has a `>` in it. -/
theorem mem_pairText (lowest highest : String) : '>' ∈ s!"{lowest} > {highest}".toList := by
  simp [toString]

theorem pairText_ne_all (lowest highest : String) : s!"{lowest} > {highest}" ≠ "모두 가능" := by
  intro h
  have hmem := mem_pairText lowest highest
  rw [h] at hmem
  exact absurd hmem (by decide)

theorem pairText_ne_highest {tier : ℤ} (ht : IsTier tier) (lowest highest : String) :
    s!"{lowest} > {highest}" ≠ highestTierText tier := by
  intro h
  have hmem := mem_pairText lowest highest
  rw [h] at hmem
  obtain ⟨h₀, h₇⟩ := ht
  interval_cases tier <;> exact absurd hmem (by decide)

theorem pairText_ne_lowest {tier : ℤ} (ht : IsTier tier) (lowest highest : String) :
    s!"{lowest} > {highest}" ≠ lowestTierText tier := by
  intro h
  have hmem := mem_pairText lowest highest
  rw [h] at hmem
  obtain ⟨h₀, h₇⟩ := ht
  interval_cases tier <;> exact absurd hmem (by decide)

theorem highestTierText_ne_all {tier : ℤ} (ht : IsTier tier) :
    highestTierText tier ≠ "모두 가능" := by
  obtain ⟨h₀, h₇⟩ := ht
  interval_cases tier <;> decide

theorem lowestTierText_ne_all {tier : ℤ} (ht : IsTier tier) :
    lowestTierText tier ≠ "모두 가능" := by
  obtain ⟨h₀, h₇⟩ := ht
  interval_cases tier <;> decide

theorem rawValue_inj {s t : TierTap} : s.rawValue = t.rawValue ↔ s = t := by
  cases s <;> cases t <;> decide

/-- **The text of two choices, and the text of the same two tiers the other way
round.** The choices are those of a maker, `smallest` and `largest`; the tiers are
those they stand for, with any tier for a choice of all. The two texts agree when
the choices are one tier twice, or all tiers twice – and then only if the tier of
`largest` is above that of `smallest`. -/
theorem rangeText_swap_iff {smallest largest : TierTap} {lowest highest : ℤ}
    (hl : IsTier lowest) (hh : IsTier highest)
    (hsmall : smallest ≠ .allTier → lowest = smallest.rawValue)
    (hlarge : largest ≠ .allTier → highest = largest.rawValue) :
    rangeText (selectTierRange highest lowest) =
        rangeText (selectTierRange smallest.rawValue largest.rawValue) ↔
      smallest = largest ∧ (smallest = .allTier → lowest < highest) := by
  by_cases hs : smallest = .allTier <;> by_cases hg : largest = .allTier
  · subst hs hg
    rw [show TierTap.allTier.rawValue = -1 from rfl, rangeText_all]
    rcases lt_or_ge lowest highest with hlt | hge
    · exact iff_of_true (rangeText_of_lt hh hl hlt) ⟨rfl, fun _ => hlt⟩
    · rw [rangeText_of_le hh hge]
      exact iff_of_false (pairText_ne_all _ _) fun h => not_lt.mpr hge (h.2 rfl)
  · -- a largest tier alone: the joiner never sees a text without a lowest tier
    subst hs
    rw [show TierTap.allTier.rawValue = -1 from rfl, ← hlarge hg, rangeText_all_lowest hh]
    refine iff_of_false ?_ fun h => hg h.1.symm
    rcases lt_or_ge lowest highest with hlt | hge
    · rw [rangeText_of_lt hh hl hlt]
      exact (highestTierText_ne_all hh).symm
    · rw [rangeText_of_le hh hge]
      exact pairText_ne_highest hh _ _
  · subst hg
    rw [show TierTap.allTier.rawValue = -1 from rfl, ← hsmall hs, rangeText_all_highest hl]
    refine iff_of_false ?_ fun h => hs h.1
    rcases lt_or_ge lowest highest with hlt | hge
    · rw [rangeText_of_lt hh hl hlt]
      exact (lowestTierText_ne_all hl).symm
    · rw [rangeText_of_le hh hge]
      exact pairText_ne_lowest hl _ _
  · rw [← rawValue_inj, ← hsmall hs, ← hlarge hg]
    rcases lt_trichotomy lowest highest with hlt | heq | hgt
    · -- in order for the maker, out of order for the joiner
      rw [rangeText_of_lt hh hl hlt, rangeText_of_le hl hlt.le]
      exact iff_of_false (pairText_ne_all _ _).symm fun h => ne_of_lt hlt h.1
    · exact iff_of_true (by rw [heq]) ⟨heq, fun h => absurd h hs⟩
    · rw [rangeText_of_lt hl hh hgt, rangeText_of_le hh hgt.le]
      exact iff_of_false (pairText_ne_all _ _) fun h => ne_of_gt hgt h.1

end Joinus
