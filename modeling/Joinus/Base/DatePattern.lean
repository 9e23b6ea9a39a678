import Mathlib.Data.List.Basic
import Mathlib.Data.List.TakeWhile

/-!
# Date patterns: writing and reading the fields of a date

A date formatter is configured by a *pattern* – runs of letters standing for the
fields of a date, and literal characters between them, as in `yyyy-MM-dd` – and works in both
directions: it writes the fields of a date along the pattern, and it reads a text
along the pattern back into fields. The letter count of a field is the least
number of digits it is written with.

Reading is a single pass. At a literal the text must have exactly that character;
at a field it must have a run of digits, all of which belong to the field, and at
least as many as the pattern asks for. A pattern in which two fields never stand
next to each other, and in which no digit is a literal, is therefore read without
ambiguity (`Base.Pattern.separated`), and on such a pattern **reading undoes
writing** (`Base.Pattern.read_write`): it recovers every field the pattern
mentions. That writing is injective in those fields (`Base.Pattern.write_inj`) is
the form in which a text made from a clock is used as a key. And a text that can be read is
read in parts (`Base.Pattern.read_append_lit`): its beginning up to a character that parts
the pattern is what the beginning of the pattern reads.

Whether the fields read are those of a day that exists is the calendar's
business, not the pattern's.
-/

namespace Base

/-! ### Fields -/

/-- The fields a pattern can mention. -/
inductive Field where
  | year
  | month
  | day
  /-- The hour of the day, 0 to 23. -/
  | hour
  /-- The hour on a twelve-hour dial, 1 to 12. -/
  | hour12
  | minute
  | second
  deriving DecidableEq

/-- The fields of a date and a time of day. -/
@[ext]
structure DateFields where
  year : ℕ
  month : ℕ
  day : ℕ
  hour : ℕ
  minute : ℕ
  second : ℕ
  deriving DecidableEq

namespace DateFields

/-- The value of a field. -/
def get (t : DateFields) : Field → ℕ
  | .year => t.year
  | .month => t.month
  | .day => t.day
  | .hour => t.hour
  | .hour12 => if t.hour % 12 = 0 then 12 else t.hour % 12
  | .minute => t.minute
  | .second => t.second

/-- The fields after one of them has been read. -/
def set (t : DateFields) (n : ℕ) : Field → DateFields
  | .year => { t with year := n }
  | .month => { t with month := n }
  | .day => { t with day := n }
  | .hour => { t with hour := n }
  | .hour12 => { t with hour := n % 12 }
  | .minute => { t with minute := n }
  | .second => { t with second := n }

end DateFields

/-! ### Numbers with leading zeros -/

/-- A number written with at least `w` digits. -/
def pad (w n : ℕ) : List Char :=
  List.replicate (w - (Nat.toDigits 10 n).length) '0' ++ Nat.toDigits 10 n

theorem isDigit_of_mem_pad {w n : ℕ} {c : Char} (h : c ∈ pad w n) : c.isDigit = true := by
  rcases List.mem_append.mp h with h | h
  · obtain rfl := (List.mem_replicate.mp h).2
    decide
  · exact Nat.isDigit_of_mem_toDigits (by decide) (by decide) h

theorem le_length_pad (w n : ℕ) : w ≤ (pad w n).length := by
  rw [pad, List.length_append, List.length_replicate]
  omega

theorem length_pad_pos (w n : ℕ) : 0 < (pad w n).length := by
  have h : 0 < (Nat.toDigits 10 n).length := Nat.length_toDigits_pos
  rw [pad, List.length_append]
  omega

/-- Leading zeros do not change the value. -/
@[simp] theorem ofDigitChars_pad (w n : ℕ) : Nat.ofDigitChars 10 (pad w n) 0 = n := by
  rw [pad, Nat.ofDigitChars_append, Nat.ofDigitChars_replicate_zero, Nat.mul_zero,
    Nat.ofDigitChars_ten_toDigits]

/-- A one-digit number in two places. -/
theorem pad_two_of_lt_ten {n : ℕ} (h : n < 10) : pad 2 n = ['0', Nat.digitChar n] := by
  rw [pad, Nat.toDigits_of_lt_base h]
  rfl

/-- A number below a hundred in two places: tens and units. -/
theorem pad_two {n : ℕ} (h : n < 100) :
    pad 2 n = [Nat.digitChar (n / 10), Nat.digitChar (n % 10)] := by
  rcases Nat.lt_or_ge n 10 with hlt | hge
  · rw [pad_two_of_lt_ten hlt, Nat.div_eq_of_lt hlt, Nat.mod_eq_of_lt hlt]
    rfl
  · rw [pad, Nat.toDigits_of_base_le (by decide) hge,
      Nat.toDigits_of_lt_base (show n / 10 < 10 by omega)]
    rfl

/-! ### Runs of digits -/

/-- A text that does not go on with a digit. -/
def EndsDigits : List Char → Prop
  | [] => True
  | c :: _ => c.isDigit = false

theorem takeWhile_digits_append {ds s : List Char} (hds : ∀ c ∈ ds, c.isDigit = true)
    (hs : EndsDigits s) : (ds ++ s).takeWhile Char.isDigit = ds := by
  rw [List.takeWhile_append_of_pos hds]
  cases s with
  | nil => simp
  | cons c s => simp [show c.isDigit = false from hs]

theorem dropWhile_digits_append {ds s : List Char} (hds : ∀ c ∈ ds, c.isDigit = true)
    (hs : EndsDigits s) : (ds ++ s).dropWhile Char.isDigit = s := by
  rw [List.dropWhile_append_of_pos hds]
  cases s with
  | nil => rfl
  | cons c s => simp [show c.isDigit = false from hs]

/-! ### Patterns -/

/-- A piece of a pattern: a field with its least number of digits, or a literal
character. -/
inductive Piece where
  | num (f : Field) (width : ℕ)
  | lit (c : Char)
  deriving DecidableEq

/-- A pattern: its pieces from left to right. -/
abbrev Pattern := List Piece

namespace Pattern

/-- The field a letter of a format stands for; every other character stands for
itself. -/
def fieldOf : Char → Option Field
  | 'y' => some .year
  | 'M' => some .month
  | 'd' => some .day
  | 'H' => some .hour
  | 'h' => some .hour12
  | 'm' => some .minute
  | 's' => some .second
  | _ => none

/-- The pattern of a format: a run of one letter is one field, as wide as the run is
long. -/
def ofFormat : List Char → Pattern
  | [] => []
  | c :: cs =>
    match fieldOf c, ofFormat cs with
    | none, p => .lit c :: p
    | some f, .num g w :: p => if f = g then .num f (w + 1) :: p else .num f 1 :: .num g w :: p
    | some f, p => .num f 1 :: p

/-- The text of a date along a pattern, as characters. -/
def write : Pattern → DateFields → List Char
  | [], _ => []
  | .num f w :: p, t => pad w (t.get f) ++ write p t
  | .lit c :: p, t => c :: write p t

/-- Reading a text along a pattern, onto fields already there. -/
def read : Pattern → List Char → DateFields → Option DateFields
  | [], [], t => some t
  | [], _ :: _, _ => none
  | .lit _ :: _, [], _ => none
  | .lit c :: p, d :: s, t => if c = d then read p s t else none
  | .num f w :: p, s, t =>
    if (s.takeWhile Char.isDigit).length < max w 1 then none
    else read p (s.dropWhile Char.isDigit)
      (t.set (Nat.ofDigitChars 10 (s.takeWhile Char.isDigit) 0) f)

/-- The fields a pattern mentions, taken from `t`, onto fields already there. -/
def copy : Pattern → DateFields → DateFields → DateFields
  | [], _, u => u
  | .num f _ :: p, t, u => copy p t (u.set (t.get f) f)
  | .lit _ :: p, t, u => copy p t u

/-- **No two fields next to each other, and no digit for a literal**: what makes a
pattern readable without ambiguity. -/
def separated : Pattern → Bool
  | [] => true
  | .lit c :: p => !c.isDigit && separated p
  | .num _ _ :: [] => true
  | .num _ _ :: .lit c :: p => !c.isDigit && separated p
  | .num _ _ :: .num _ _ :: _ => false

theorem separated_of_num {f : Field} {w : ℕ} {p : Pattern} (h : separated (.num f w :: p)) :
    separated p := by
  cases p with
  | nil => rfl
  | cons q p =>
    cases q with
    | num g v => simp [separated] at h
    | lit c => simpa [separated] using h

theorem separated_of_lit {c : Char} {p : Pattern} (h : separated (.lit c :: p)) :
    separated p := by
  rw [separated, Bool.and_eq_true] at h
  exact h.2

/-- After a field, a separated pattern goes on with something that is not a
digit. -/
theorem endsDigits_write {f : Field} {w : ℕ} {p : Pattern} (h : separated (.num f w :: p))
    (t : DateFields) : EndsDigits (write p t) := by
  cases p with
  | nil => trivial
  | cons q p =>
    cases q with
    | num g v => simp [separated] at h
    | lit c =>
      rw [separated, Bool.and_eq_true, Bool.not_eq_true'] at h
      exact h.1

theorem read_lit_cons (c : Char) (p : Pattern) (s : List Char) (t : DateFields) :
    read (.lit c :: p) (c :: s) t = read p s t := by
  simp [read]

theorem read_lit_of_ne {c d : Char} (h : c ≠ d) (p : Pattern) (s : List Char) (t : DateFields) :
    read (.lit c :: p) (d :: s) t = none := by
  simp [read, h]

/-- Reading a field off its own text, whatever the pattern goes on with. -/
theorem read_num_pad {f : Field} {w v n : ℕ} {p : Pattern} {s : List Char} (hs : EndsDigits s)
    (hv : v ≤ w) (t : DateFields) :
    read (.num f v :: p) (pad w n ++ s) t = read p s (t.set n f) := by
  have hd : ∀ c ∈ pad w n, c.isDigit = true := fun c hc => isDigit_of_mem_pad hc
  have hlen : ¬(pad w n).length < max v 1 := by
    have := le_length_pad w n
    have := length_pad_pos w n
    omega
  rw [read, takeWhile_digits_append hd hs, dropWhile_digits_append hd hs, if_neg hlen,
    ofDigitChars_pad]

/-- **Reading undoes writing**: along a separated pattern, every field the pattern
mentions is recovered from the text. -/
theorem read_write {p : Pattern} (h : separated p) (t u : DateFields) :
    read p (write p t) u = some (copy p t u) := by
  induction p generalizing u with
  | nil => rfl
  | cons q p ih =>
    cases q with
    | num f w =>
      rw [write, read_num_pad (endsDigits_write h t) le_rfl, ih (separated_of_num h), copy]
    | lit c => rw [write, read_lit_cons, ih (separated_of_lit h), copy]

/-- **Writing is injective** in the fields the pattern mentions. -/
theorem write_inj {p : Pattern} (h : separated p) {t t' : DateFields}
    (heq : write p t = write p t') (u : DateFields) : copy p t u = copy p t' u := by
  have hr := read_write h t u
  rw [heq, read_write h t' u] at hr
  exact (Option.some.inj hr).symm

/-! ### Texts that are read in parts -/

/-- What no field of a pattern changes, reading along the pattern does not change. -/
theorem read_preserves {β : Type*} {g : DateFields → β} {p : Pattern}
    (hg : ∀ f w, .num f w ∈ p → ∀ t n, g (t.set n f) = g t) {s : List Char} {t u : DateFields}
    (h : read p s t = some u) : g u = g t := by
  induction p generalizing s t with
  | nil =>
    cases s with
    | nil =>
      obtain rfl : t = u := Option.some.inj h
      rfl
    | cons d s => exact absurd h (by simp [read])
  | cons q p ih =>
    have hrest := fun f w (hmem : Piece.num f w ∈ p) => hg f w (List.mem_cons_of_mem q hmem)
    cases q with
    | num f w =>
      rw [read] at h
      split_ifs at h
      exact (ih hrest h).trans (hg f w List.mem_cons_self _ _)
    | lit c =>
      cases s with
      | nil => exact absurd h (by simp [read])
      | cons d s =>
        rw [read] at h
        split_ifs at h
        exact ih hrest h

/-- The digits a text begins with are those of its beginning up to a character that is no
digit. -/
theorem takeWhile_digits_takeWhile {c : Char} (hc : c.isDigit = false) (s : List Char) :
    (s.takeWhile (· ≠ c)).takeWhile Char.isDigit = s.takeWhile Char.isDigit ∧
      (s.takeWhile (· ≠ c)).dropWhile Char.isDigit =
        (s.dropWhile Char.isDigit).takeWhile (· ≠ c) ∧
      s.dropWhile (· ≠ c) = (s.dropWhile Char.isDigit).dropWhile (· ≠ c) := by
  induction s with
  | nil => simp
  | cons d s ih =>
    by_cases hd : d.isDigit = true
    · have hne : d ≠ c := by
        rintro rfl
        rw [hd] at hc
        exact absurd hc (by simp)
      simpa [hd, hne] using ih
    · have hd' : d.isDigit = false := by simpa using hd
      by_cases hne : d = c
      · simp [hne, hc]
      · simp [hd', hne]

/-- **A text that is read along a pattern in two parts**, with a character between them
that the first part does not have: what comes before that character is read along
the first part, and the rest along the second. -/
theorem read_append_lit {p q : Pattern} {c : Char} (hc : c.isDigit = false) (hp : .lit c ∉ p)
    {s : List Char} {t u : DateFields} (h : read (p ++ .lit c :: q) s t = some u) :
    ∃ v, read p (s.takeWhile (· ≠ c)) t = some v ∧
      read (.lit c :: q) (s.dropWhile (· ≠ c)) v = some u := by
  induction p generalizing s t with
  | nil =>
    cases s with
    | nil => exact absurd h (by simp [read])
    | cons d s =>
      obtain rfl : c = d := by
        by_contra hne
        rw [List.nil_append, read_lit_of_ne hne] at h
        exact absurd h (by simp)
      exact ⟨t, by simp [read], by simpa using h⟩
  | cons x p ih =>
    have hp' : .lit c ∉ p := fun hmem => hp (List.mem_cons_of_mem x hmem)
    cases x with
    | num f w =>
      obtain ⟨htake, hdrop, hrest⟩ := takeWhile_digits_takeWhile hc s
      rw [List.cons_append, read] at h
      rw [read, htake, hdrop, hrest]
      split_ifs at h ⊢
      exact ih hp' h
    | lit d =>
      have hne : d ≠ c := by
        rintro rfl
        exact hp List.mem_cons_self
      cases s with
      | nil => exact absurd h (by simp [read])
      | cons e s =>
        rw [List.cons_append, read] at h
        split_ifs at h with hde
        subst hde
        simpa [hne, read] using ih hp' h

/-- The characters of a written text are digits and the pattern's own. -/
theorem mem_write {p : Pattern} {t : DateFields} {c : Char} (h : c ∈ write p t) :
    c.isDigit = true ∨ .lit c ∈ p := by
  induction p with
  | nil => exact absurd h List.not_mem_nil
  | cons q p ih =>
    cases q with
    | num f w =>
      rcases List.mem_append.mp h with hpad | hrest
      · exact Or.inl (isDigit_of_mem_pad hpad)
      · exact (ih hrest).imp_right (List.mem_cons_of_mem _)
    | lit d =>
      rcases List.mem_cons.mp h with rfl | hrest
      · exact Or.inr List.mem_cons_self
      · exact (ih hrest).imp_right (List.mem_cons_of_mem _)

/-! ### Texts that are written in parts -/

theorem write_append (p q : Pattern) (t : DateFields) :
    write (p ++ q) t = write p t ++ write q t := by
  induction p with
  | nil => rfl
  | cons x p ih =>
    cases x with
    | num f w => rw [List.cons_append, write, write, ih, List.append_assoc]
    | lit c => rw [List.cons_append, write, write, ih, List.cons_append]

/-- **A text that is written along a pattern in two parts**, with a character between them
that the first part does not have: what comes before that character is written along the
first part. -/
theorem takeWhile_write {p q : Pattern} {c : Char} (hc : c.isDigit = false) (hp : .lit c ∉ p)
    (t : DateFields) : (write (p ++ .lit c :: q) t).takeWhile (· ≠ c) = write p t := by
  have hfirst : ∀ d ∈ write p t, decide (d ≠ c) = true := by
    intro d hd
    rw [decide_eq_true_eq]
    rintro rfl
    rcases mem_write hd with hdigit | hlit
    · rw [hc] at hdigit
      exact absurd hdigit (by simp)
    · exact hp hlit
  rw [write_append, List.takeWhile_append_of_pos hfirst, write]
  simp

/-- What a pattern does not mention is not written. -/
theorem write_congr {p : Pattern} {t u : DateFields}
    (h : ∀ f w, .num f w ∈ p → t.get f = u.get f) : write p t = write p u := by
  induction p with
  | nil => rfl
  | cons x p ih =>
    have hrest := ih fun f w hmem => h f w (List.mem_cons_of_mem x hmem)
    cases x with
    | num f w => rw [write, write, h f w List.mem_cons_self, hrest]
    | lit c => rw [write, write, hrest]

end Pattern

end Base
