import Mathlib

/-!
# Decimals of integers

An integer written in decimal is a text that determines it, also where the same text goes
on with something else, and that begins with a digit or a minus sign. The second tells it
from any text that begins with a letter.
-/

namespace Base

theorem toString_int_inj {p q : ℤ} : toString p = toString q ↔ p = q := by
  rw [Int.toString_eq_repr, Int.toString_eq_repr, Int.repr_inj]

/-- A decimal begins with a digit or a minus sign. -/
theorem toString_int_head (p : ℤ) :
    ∃ c cs, (toString p).toList = c :: cs ∧ (c = '-' ∨ c.isDigit = true) := by
  cases p with
  | ofNat n =>
    have hdigits : (toString (Int.ofNat n)).toList = Nat.toDigits 10 n := Nat.toList_repr
    cases h : Nat.toDigits 10 n with
    | nil => exact absurd (congrArg List.length h) (ne_of_gt Nat.length_toDigits_pos)
    | cons c cs =>
      refine ⟨c, cs, hdigits.trans h, Or.inr ?_⟩
      exact Nat.isDigit_of_mem_toDigits (b := 10) (n := n) (by decide) (by decide)
        (by rw [h]; exact List.mem_cons_self)
  | negSucc n =>
    refine ⟨'-', (Nat.repr n.succ).toList, ?_, Or.inl rfl⟩
    simp [Int.toString_eq_repr, Int.repr]

/-- A text that begins with anything else is no decimal. -/
theorem toString_int_ne {p : ℤ} {s : String} {c : Char} {cs : List Char} (hs : s.toList = c :: cs)
    (hminus : c ≠ '-') (hdigit : c.isDigit = false) : toString p ≠ s := by
  rintro rfl
  obtain ⟨d, ds, hd, hfirst⟩ := toString_int_head p
  obtain ⟨rfl, -⟩ : d = c ∧ ds = cs := List.cons.inj (hd.symm.trans hs)
  rcases hfirst with h | h
  · exact hminus h
  · exact absurd (hdigit.symm.trans h) (by simp)

/-- A decimal has digits in it, and perhaps a minus sign. -/
theorem mem_toString_int {p : ℤ} {c : Char} (h : c ∈ (toString p).toList) :
    c = '-' ∨ c.isDigit = true := by
  have hdigits : ∀ n : ℕ, c ∈ n.repr.toList → c.isDigit = true := by
    intro n hc
    rw [Nat.toList_repr] at hc
    exact Nat.isDigit_of_mem_toDigits (by decide) (by decide) hc
  rw [Int.toString_eq_repr, Int.repr_eq_if] at h
  split_ifs at h
  · exact Or.inr (hdigits _ h)
  · rw [String.toList_append, List.mem_append] at h
    rcases h with hminus | hrest
    · exact Or.inl (by simpa using hminus)
    · exact Or.inr (hdigits _ hrest)

/-- A text made of a decimal and something fixed determines the integer. -/
theorem toString_int_append_inj {p q : ℤ} {s : String} :
    toString p ++ s = toString q ++ s ↔ p = q := by
  constructor
  · intro h
    have hchars := congrArg String.toList h
    rw [String.toList_append, String.toList_append] at hchars
    exact toString_int_inj.mp (String.toList_inj.mp (List.append_cancel_right hchars))
  · rintro rfl
    rfl

end Base
