import Joinus.Chat.Writes
import Mathlib.Tactic.IntervalCases

/-!
# The order in which the messages are shown

The listener delivers a room's documents in ascending order of ids, and `snapShots`
keeps that order, so the rows of the chat are in the order of the *texts* `keyTime`
made. Minutes and seconds are written with two digits and are ordered as numbers;
the hour is written with as many digits as it has, and here the two orders part.
`9:59:59` stands after `10:00:00`, because a `9` comes after a `1`; and `1:30:00`
stands after `10:00:00` although both begin with a `1`, because in every character
set a colon comes after the digits. And the day is not in the id at all, so that
what is sent after midnight stands before what was sent in the evening.

`Joinus.Reading.Precedes` says in numbers which of two times of day has the earlier
id (`Joinus.keyTime_lt_iff`), and `Joinus.shown_in_order_iff` that this is all there
is to the order of the rows.
-/

namespace Joinus

open Base

/-! ### Comparing ids -/

/-- **One time of day is shown before another**: if their hours have equally many
digits, it is the earlier one; an hour of one digit comes before an hour of two when
it is below the first digit of the other, and otherwise after it. -/
def Reading.Precedes (r r' : Reading) : Prop :=
  if r.hour < 10 ∧ 10 ≤ r'.hour then r.hour < r'.hour / 10
  else if 10 ≤ r.hour ∧ r'.hour < 10 then r.hour / 10 ≤ r'.hour
  else r.hour < r'.hour ∨ (r.hour = r'.hour ∧
    (r.minute < r'.minute ∨ (r.minute = r'.minute ∧ r.second < r'.second)))

instance (r r' : Reading) : Decidable (r.Precedes r') := by
  unfold Reading.Precedes
  infer_instance

theorem digitChar_lt_iff {a b : ℕ} (ha : a < 10) (hb : b < 10) :
    Nat.digitChar a < Nat.digitChar b ↔ a < b := by
  interval_cases a <;> interval_cases b <;> decide

theorem digitChar_lt_colon {a : ℕ} (ha : a < 10) : Nat.digitChar a < ':' := by
  interval_cases a <;> decide

theorem digitChar_eq_iff {a b : ℕ} (ha : a < 10) (hb : b < 10) :
    Nat.digitChar a = Nat.digitChar b ↔ a = b := by
  refine ⟨fun h => ?_, fun h => h ▸ rfl⟩
  have hab := (digitChar_lt_iff ha hb).not.mp (by rw [h]; exact lt_irrefl _)
  have hba := (digitChar_lt_iff hb ha).not.mp (by rw [h]; exact lt_irrefl _)
  omega

/-- Texts that begin with a digit each. -/
theorem digitChar_cons_lt {a b : ℕ} (ha : a < 10) (hb : b < 10) (s t : List Char) :
    Nat.digitChar a :: s < Nat.digitChar b :: t ↔ a < b ∨ (a = b ∧ s < t) := by
  rw [List.cons_lt_cons_iff, digitChar_lt_iff ha hb, digitChar_eq_iff ha hb]

/-- Texts that begin with a number in two places each. -/
theorem pad_two_append_lt {m n : ℕ} (hm : m < 60) (hn : n < 60) (s t : List Char) :
    pad 2 m ++ s < pad 2 n ++ t ↔ m < n ∨ (m = n ∧ s < t) := by
  rw [pad_two (by omega : m < 100), pad_two (by omega : n < 100)]
  simp only [List.cons_append, List.nil_append]
  rw [digitChar_cons_lt (by omega) (by omega), digitChar_cons_lt (by omega) (by omega)]
  constructor
  · rintro (h | ⟨h, h' | ⟨h', hst⟩⟩)
    · exact Or.inl (by omega)
    · exact Or.inl (by omega)
    · exact Or.inr ⟨by omega, hst⟩
  · rintro (h | ⟨rfl, hst⟩)
    · rcases Nat.lt_or_ge (m / 10) (n / 10) with hlt | hge
      · exact Or.inl hlt
      · exact Or.inr ⟨by omega, Or.inl (by omega)⟩
    · exact Or.inr ⟨rfl, Or.inr ⟨rfl, hst⟩⟩

/-- An hour in as many digits as it has. -/
theorem pad_one_of_lt {h : ℕ} (hlt : h < 10) : pad 1 h = [Nat.digitChar h] := by
  rw [pad, Nat.toDigits_of_lt_base hlt]
  rfl

theorem pad_one_of_ge {h : ℕ} (hge : 10 ≤ h) (hlt : h < 24) : pad 1 h = pad 2 h := by
  rw [pad_two (by omega), pad, Nat.toDigits_of_base_le (by decide) hge,
    Nat.toDigits_of_lt_base (show h / 10 < 10 by omega)]
  rfl

/-- **Which of two ids comes first.** -/
theorem keyTime_lt_iff {z z' : TimeZone} {r r' : Reading} (hr : r.Bounded) (hr' : r'.Bounded) :
    keyTime z r < keyTime z' r' ↔ r.Precedes r' := by
  obtain ⟨hh, hm, hs⟩ := hr
  obtain ⟨hh', hm', hs'⟩ := hr'
  have hrest : ∀ c : Char, c :: (pad 2 r.minute ++ ':' :: (pad 2 r.second ++ [])) <
      c :: (pad 2 r'.minute ++ ':' :: (pad 2 r'.second ++ [])) ↔
      r.minute < r'.minute ∨ (r.minute = r'.minute ∧ r.second < r'.second) := by
    intro c
    rw [List.cons_lt_cons_iff, pad_two_append_lt hm hm', List.cons_lt_cons_iff,
      pad_two_append_lt hs hs']
    simp
  rw [String.lt_iff_toList_lt, toList_keyTime, toList_keyTime, Reading.Precedes]
  rcases Nat.lt_or_ge r.hour 10 with h | h <;> rcases Nat.lt_or_ge r'.hour 10 with h' | h'
  · rw [pad_one_of_lt h, pad_one_of_lt h', if_neg (by omega), if_neg (by omega)]
    simp only [List.cons_append, List.nil_append]
    rw [digitChar_cons_lt h h', hrest]
  · -- one digit against two: a colon against the second digit
    rw [pad_one_of_lt h, pad_one_of_ge h' hh', pad_two (show r'.hour < 100 by omega),
      if_pos ⟨h, h'⟩]
    simp only [List.cons_append, List.nil_append]
    rw [digitChar_cons_lt h (by omega), List.cons_lt_cons_iff]
    have hcolon : Nat.digitChar (r'.hour % 10) < ':' := digitChar_lt_colon (by omega)
    refine ⟨?_, Or.inl⟩
    rintro (hlt | ⟨-, hlt | ⟨heq, -⟩⟩)
    · exact hlt
    · exact absurd hlt (lt_asymm hcolon)
    · exact absurd heq (ne_of_gt hcolon)
  · rw [pad_one_of_ge h hh, pad_one_of_lt h', pad_two (show r.hour < 100 by omega),
      if_neg (by omega), if_pos ⟨h, h'⟩]
    simp only [List.cons_append, List.nil_append]
    rw [digitChar_cons_lt (by omega) h', List.cons_lt_cons_iff]
    have hcolon : Nat.digitChar (r.hour % 10) < ':' := digitChar_lt_colon (by omega)
    constructor
    · rintro (hlt | ⟨heq, -⟩)
      · exact hlt.le
      · exact heq.le
    · intro hle
      exact (lt_or_eq_of_le hle).imp_right fun heq => ⟨heq, Or.inl hcolon⟩
  · rw [pad_one_of_ge h hh, pad_one_of_ge h' hh', if_neg (by omega), if_neg (by omega),
      pad_two_append_lt (by omega) (by omega), hrest]

/-! ### The rows of a chat -/

theorem readings_bounded (roomPk : ℤ) (as : List ChatAction) :
    ∀ r ∈ readings roomPk as, r.Bounded := by
  induction as with
  | nil => nofun
  | cons a as ih =>
    cases a with
    | commit i => exact ih
    | send u r tap =>
      rw [readings]
      split_ifs with hsent
      · intro r hr
        rcases List.mem_cons.mp hr with rfl | hr
        · exact reading_bounded u.timeZone tap
        · exact ih r hr
      · exact ih

/-- The messages of a room, in the order in which they were sent, have ascending ids
when each is sent at a time of day that precedes all later ones. -/
theorem ascending_handed_iff (roomPk : ℤ) (as : List ChatAction) :
    Ascending (writesTo roomPk (handed as)) ↔
      (readings roomPk as).Pairwise Reading.Precedes := by
  have hkeys : Ascending (writesTo roomPk (handed as)) ↔
      ((writesTo roomPk (handed as)).map Prod.fst).Pairwise (· < ·) :=
    (List.pairwise_map (f := Prod.fst) (R := (· < ·))).symm
  rw [hkeys, keys_handed (z := TimeZone.fixed 0), List.pairwise_map]
  have hb := readings_bounded roomPk as
  exact List.Pairwise.iff_of_mem fun hr hr' => keyTime_lt_iff (hb _ hr) (hb _ hr')

/-- **When a chat is shown in the order of sending**: once all writes of a run have
been applied, the rows of a room are its messages in the order in which they were
sent if and only if each of them was sent at a time of day that precedes, in the
sense of the ids, those of all later ones. -/
theorem shown_in_order_iff {t : ChatState} {as : List ChatAction}
    (hr : run ChatState.step ChatState.initial as = some t) (hdone : t.pending = [])
    (roomPk : ℤ) :
    getMessage t roomPk = writesTo roomPk (handed as) ↔
      (readings roomPk as).Pairwise Reading.Precedes := by
  obtain ⟨ws, hperm, hchat, -⟩ := exists_applied_of_done hr hdone
  rw [← ascending_handed_iff]
  constructor
  · intro h
    rw [← h]
    exact (t.chat roomPk).ascending
  · intro hasc
    have hroom := writesTo_perm hperm roomPk
    have hnodup : ((writesTo roomPk ws).map Prod.fst).Nodup :=
      (hroom.map Prod.fst).nodup_iff.mp (fst_nodup_of_ascending hasc)
    refine Collection.entries_eq_of_perm ?_ hasc
    rw [hchat]
    exact (Collection.entries_setAll_perm_iff.mpr hnodup).trans hroom.symm

/-- A message at `9:59:59` and one a second later. -/
def beforeAndAfterTen : List ChatAction :=
  [.send mina 7 (.at "one" 3599), .send joon 7 (.at "two" 3600), .commit 0, .commit 0]

/-- **The message sent after ten is shown first.** -/
theorem beforeAndAfterTen_out_of_order :
    ∃ t, run ChatState.step ChatState.initial beforeAndAfterTen = some t ∧ t.pending = [] ∧
      ((writesTo 7 (handed beforeAndAfterTen)).map Prod.fst).Nodup ∧
      getMessage t 7 ≠ writesTo 7 (handed beforeAndAfterTen) :=
  ⟨_, rfl, rfl, by decide, by decide⟩

/-- Before ten o'clock the order is kept, in whatever order the writes arrive. -/
theorem nextSecond_in_order :
    ∃ t, run ChatState.step ChatState.initial nextSecond = some t ∧ t.pending = [] ∧
      getMessage t 7 = writesTo 7 (handed nextSecond) :=
  ⟨_, rfl, rfl, (shown_in_order_iff rfl rfl 7).mpr (by decide)⟩

end Joinus
