import Joinus.Chat.Writes
import Joinus.Days

/-!
# The time stamped on a message

`sendMessage` looks at the clock three times, and the time it stamps on a message is put
together: the hour of the first look, the minute of the second, the second of the third. If
the clock goes over from one minute or hour to the next meanwhile, this may be a time that no
clock has shown. And the marker in front of the text is that of the morning, at any time of
day.

What is stamped is the time of an instant between the looks exactly if the clock goes through
what is put together, and it is morning (`Joinus.stamped_iff`). What a clock goes through is a
matter of *stretches*, between which the clocks of the zone are moved: in a stretch they just
run, so that a time is gone through if it comes soon enough after the beginning.

| clocks between the looks | the time put together is gone through |
|---|---|
| not moved | if its minute and second are not before those of the first look |
| moved, perhaps several times | if it is in one of the stretches |

The first line is the second one for a single stretch, with one direction of it a matter of
carries: the hour of the first look with the minute of the second is never later than the third
look.
-/

namespace Joinus

open Base

variable {z : TimeZone} {t : Instant}

/-! ### The time of day -/

/-- What the clock shows at an instant. -/
def TimeZone.reading (z : TimeZone) (t : Instant) : Reading where
  hour := (z.fields t).hour
  minute := (z.fields t).minute
  second := (z.fields t).second

/-- Seconds since midnight. -/
def Reading.seconds (r : Reading) : ℤ := r.hour * 3600 + r.minute * 60 + r.second

theorem reading_bounded_at (z : TimeZone) (t : Instant) : (z.reading t).Bounded :=
  ⟨hour_fields_lt z t, minute_fields_lt z t, second_fields_lt z t⟩

/-- **A time of day is its seconds since midnight.** -/
theorem seconds_inj {r r' : Reading} (h : r.Bounded) (h' : r'.Bounded) :
    r.seconds = r'.seconds ↔ r = r' := by
  constructor
  · intro heq
    obtain ⟨hour, minute, second⟩ := r
    obtain ⟨hour', minute', second'⟩ := r'
    obtain ⟨hhour, hminute, hsecond⟩ := h
    obtain ⟨hhour', hminute', hsecond'⟩ := h'
    simp only [Reading.seconds] at *
    rw [Reading.mk.injEq]
    omega
  · rintro rfl
    rfl

theorem seconds_reading (z : TimeZone) (t : ℤ) :
    (z.reading t).seconds = (t + z.secondsFromGMT t) % 86400 := by
  have hnonneg : 0 ≤ (t + z.secondsFromGMT t : ℤ) % 86400 := Int.emod_nonneg _ (by decide)
  simp only [Reading.seconds, TimeZone.reading, TimeZone.fields]
  omega

/-! ### Stretches of a clock

In what follows, the clocks of a zone are moved at an instant if they are not as far ahead of
Greenwich as a second before. -/

/-- **A value that may change goes back to where it was taken**: to the first of two instants,
or to a change between them. -/
theorem exists_begin {β : Type*} [DecidableEq β] (f : ℤ → β) {t₁ t : ℤ} (h : t₁ ≤ t) :
    ∃ a, t₁ ≤ a ∧ a ≤ t ∧ (a = t₁ ∨ t₁ < a ∧ f (a - 1) ≠ f a) ∧
      ∀ u, a ≤ u → u ≤ t → f u = f t := by
  induction t, h using Int.leInduction with
  | base =>
    refine ⟨t₁, le_rfl, le_rfl, Or.inl rfl, fun u h₁ h₂ => ?_⟩
    rw [le_antisymm h₂ h₁]
  | succ t h ih =>
    by_cases hsame : f t = f (t + 1)
    · obtain ⟨a, h₁, ha, hbegin, hsteady⟩ := ih
      refine ⟨a, h₁, by omega, hbegin, fun u hu hle => ?_⟩
      rcases (by omega : u ≤ t ∨ u = t + 1) with hlt | rfl
      · exact (hsteady u hu hlt).trans hsame
      · rfl
    · refine ⟨t + 1, by omega, le_rfl, Or.inr ⟨by omega, ?_⟩, fun u hu hle => ?_⟩
      · rwa [Int.add_sub_cancel]
      · rw [le_antisymm hle hu]

/-- **A stretch of the time between two instants**: it begins with the first, or when the clocks
have been moved, and ends with the last, or when they are about to be; and they are not moved in
it. -/
structure Stretch (z : TimeZone) (t₁ t₃ a b : ℤ) : Prop where
  begins : a = t₁ ∨ t₁ < a ∧ z.secondsFromGMT (a - 1) ≠ z.secondsFromGMT a
  ends : b = t₃ ∨ b < t₃ ∧ z.secondsFromGMT b ≠ z.secondsFromGMT (b + 1)
  le : a ≤ b
  steady : ∀ t, a ≤ t → t ≤ b → z.secondsFromGMT t = z.secondsFromGMT a

theorem Stretch.first_le {t₁ t₃ a b : ℤ} (h : Stretch z t₁ t₃ a b) : t₁ ≤ a := by
  rcases h.begins with rfl | ⟨hlt, -⟩
  · exact le_rfl
  · exact hlt.le

theorem Stretch.le_last {t₁ t₃ a b : ℤ} (h : Stretch z t₁ t₃ a b) : b ≤ t₃ := by
  rcases h.ends with rfl | ⟨hlt, -⟩
  · exact le_rfl
  · exact hlt.le

/-- **Every instant is in a stretch.** -/
theorem exists_stretch {t₁ t t₃ : ℤ} (h₁ : t₁ ≤ t) (h₃ : t ≤ t₃) :
    ∃ a b, Stretch z t₁ t₃ a b ∧ a ≤ t ∧ t ≤ b := by
  obtain ⟨a, -, hat, hbegin, hbefore⟩ := exists_begin z.secondsFromGMT h₁
  -- the end is the beginning for who looks back
  obtain ⟨b, -, htb, hend, hafter⟩ :=
    exists_begin (fun u => z.secondsFromGMT (-u)) (neg_le_neg h₃)
  refine ⟨a, -b, ⟨hbegin, ?_, by omega, fun u hau hub => ?_⟩, hat, by omega⟩
  · rcases hend with rfl | ⟨hlt, hmoved⟩
    · exact Or.inl (neg_neg t₃)
    · refine Or.inr ⟨by omega, fun h => hmoved ?_⟩
      rw [neg_sub, sub_eq_neg_add]
      exact h.symm
  · have hfirst := hbefore a le_rfl hat
    rcases le_total u t with hle | hle
    · exact (hbefore u hau hle).trans hfirst.symm
    · have hlate := hafter (-u) (by omega) (by omega)
      simp only [neg_neg] at hlate
      exact hlate.trans hfirst.symm

/-- In a stretch, the seconds go by as they should. -/
theorem Stretch.seconds {t₁ t₃ a b t : ℤ} (h : Stretch z t₁ t₃ a b) (hat : a ≤ t) (htb : t ≤ b) :
    (z.reading t).seconds = ((z.reading a).seconds + (t - a)) % 86400 := by
  rw [seconds_reading, seconds_reading, h.steady t hat htb]
  generalize z.secondsFromGMT a = o
  omega

theorem seconds_bounds {r : Reading} (h : r.Bounded) : 0 ≤ r.seconds ∧ r.seconds < 86400 := by
  obtain ⟨hhour, hminute, hsecond⟩ := h
  simp only [Reading.seconds]
  omega

/-- **A clock goes through a time**, between two instants: in one of the stretches, the time
comes after what is shown at the beginning by no more than the stretch is long. -/
def GoesThrough (z : TimeZone) (t₁ t₃ : ℤ) (r : Reading) : Prop :=
  ∃ a b, Stretch z t₁ t₃ a b ∧ (r.seconds - (z.reading a).seconds) % 86400 ≤ b - a

/-- What a clock goes through, it shows at some instant. -/
theorem exists_reading_iff_goesThrough (z : TimeZone) (t₁ t₃ : ℤ) {r : Reading} (hr : r.Bounded) :
    (∃ t, t₁ ≤ t ∧ t ≤ t₃ ∧ z.reading t = r) ↔ GoesThrough z t₁ t₃ r := by
  obtain ⟨hnonneg, hlt⟩ := seconds_bounds hr
  constructor
  · rintro ⟨t, h₁, h₃, rfl⟩
    obtain ⟨a, b, hstretch, hat, htb⟩ := exists_stretch (z := z) h₁ h₃
    refine ⟨a, b, hstretch, ?_⟩
    rw [hstretch.seconds hat htb]
    omega
  · rintro ⟨a, b, hstretch, hsoon⟩
    have hfirst := hstretch.first_le
    have hlast := hstretch.le_last
    obtain ⟨d, hd⟩ : ∃ d, d = (r.seconds - (z.reading a).seconds) % 86400 := ⟨_, rfl⟩
    have hd₀ : 0 ≤ d := hd ▸ Int.emod_nonneg _ (by decide)
    refine ⟨a + d, by omega, by omega, (seconds_inj (reading_bounded_at z _) hr).mp ?_⟩
    rw [hstretch.seconds (by omega) (by omega)]
    omega

/-! ### Three looks at a clock that is not moved -/

/-- The clocks of a zone are not moved between two instants, and go through no midnight. -/
structure Runs (z : TimeZone) (t₁ t₃ : ℤ) : Prop where
  steady : ∀ t, t₁ ≤ t → t ≤ t₃ → z.secondsFromGMT t = z.secondsFromGMT t₁
  oneDay : z.day t₁ = z.day t₃

/-- On a clock that runs, the seconds go by as they should. -/
theorem Runs.seconds {t₁ t₃ t : ℤ} (h : Runs z t₁ t₃) (h₁ : t₁ ≤ t) (h₃ : t ≤ t₃) :
    (z.reading t).seconds = (z.reading t₁).seconds + (t - t₁) := by
  have hday := h.oneDay
  have hlast := h.steady t₃ (h₁.trans h₃) le_rfl
  simp only [TimeZone.day] at hday
  rw [hlast] at hday
  rw [seconds_reading, seconds_reading, h.steady t h₁ h₃]
  generalize z.secondsFromGMT t₁ = o at *
  omega

/-- **The time put together from three looks** is shown in between exactly if it is not
before the first. -/
theorem exists_reading_iff {t₁ t₂ t₃ : ℤ} (hruns : Runs z t₁ t₃) (h₁₂ : t₁ ≤ t₂)
    (h₂₃ : t₂ ≤ t₃) :
    (∃ t, t₁ ≤ t ∧ t ≤ t₃ ∧
        z.reading t = ⟨(z.reading t₁).hour, (z.reading t₂).minute, (z.reading t₃).second⟩) ↔
      (z.reading t₁).minute * 60 + (z.reading t₁).second ≤
        (z.reading t₂).minute * 60 + (z.reading t₃).second := by
  have hsecond := hruns.seconds h₁₂ h₂₃
  have hthird := hruns.seconds (h₁₂.trans h₂₃) le_rfl
  obtain ⟨-, hminute₁, hsecond₁⟩ := reading_bounded_at z t₁
  obtain ⟨-, hminute₂, hsecond₂⟩ := reading_bounded_at z t₂
  obtain ⟨-, hminute₃, hsecond₃⟩ := reading_bounded_at z t₃
  have hr : Reading.Bounded
      ⟨(z.reading t₁).hour, (z.reading t₂).minute, (z.reading t₃).second⟩ :=
    ⟨(reading_bounded_at z t₁).hour_lt, hminute₂, hsecond₃⟩
  constructor
  · rintro ⟨t, h₁, h₃, ht⟩
    have hseconds := hruns.seconds h₁ h₃
    rw [ht] at hseconds
    simp only [Reading.seconds] at hseconds
    omega
  · intro hle
    obtain ⟨t, ht⟩ : ∃ t, t = t₁ + ((z.reading t₂).minute * 60 + (z.reading t₃).second -
        ((z.reading t₁).minute * 60 + (z.reading t₁).second) : ℤ) := ⟨_, rfl⟩
    simp only [Reading.seconds] at hsecond hthird
    have h₁ : t₁ ≤ t := by omega
    -- the hour does not go back from the first look to the second, nor the minute of the
    -- hour from the second to the third
    have h₃ : t ≤ t₃ := by omega
    refine ⟨t, h₁, h₃, (seconds_inj (reading_bounded_at z t) hr).mp ?_⟩
    rw [hruns.seconds h₁ h₃]
    simp only [Reading.seconds]
    omega

/-! ### The texts of a time -/

/-- The id of a message is the text of an instant if that shows what was put together. -/
theorem string_key (z : TimeZone) (t : Instant) :
    DateFormatter.string ⟨"H:mm:ss", z⟩ t = keyTime z (z.reading t) := by
  rw [keyTime, DateFormatter.string, DateFormatter.stringOfFields, DateFormatter.stringOfFields,
    DateFormatter.pattern, keyPattern_eq]
  rfl

theorem sendPattern_eq : Pattern.ofFormat "h:mm".toList =
    [.num .hour12 1, .lit ':', .num .minute 2] := by
  decide

theorem string_send (z : TimeZone) (t : Instant) :
    DateFormatter.string ⟨"h:mm", z⟩ t =
      DateFormatter.stringOfFields ⟨"h:mm", z⟩ (z.reading t).date := by
  rw [DateFormatter.string, DateFormatter.stringOfFields, DateFormatter.stringOfFields,
    DateFormatter.pattern, sendPattern_eq]
  rfl

/-- The marker of the half of the day of an instant, if `pmSymbol` is that of the
afternoon. -/
def Sender.marker (u : Sender) (pmSymbol : String) (t : Instant) : String :=
  if (u.timeZone.reading t).hour < 12 then u.amSymbol else pmSymbol

/-- **A message has the time of an instant**: its id is the 24-hour time, and the time shown
with it is the 12-hour time with the marker of the half of the day. -/
structure StampedWith (u : Sender) (pmSymbol : String) (w : SetData) (t : Instant) : Prop where
  keyTime : w.keyTime = DateFormatter.string ⟨"H:mm:ss", u.timeZone⟩ t
  sendTime : w.data.lookup "time" =
    some (u.marker pmSymbol t ++ " " ++ DateFormatter.string ⟨"h:mm", u.timeZone⟩ t)

theorem stampedWith_iff {u : Sender} {pmSymbol : String} {roomPk : ℤ} {r : Reading}
    {text : String} :
    StampedWith u pmSymbol
        (setDBdata u roomPk (keyTime u.timeZone r) u.myPk (sendTime u r) text) t ↔
      u.timeZone.reading t = r ∧ (r.hour < 12 ∨ u.amSymbol = pmSymbol) := by
  have hmarker : u.amSymbol = u.marker pmSymbol t ↔
      (u.timeZone.reading t).hour < 12 ∨ u.amSymbol = pmSymbol := by
    rw [Sender.marker]
    split_ifs with h
    · exact iff_of_true rfl (Or.inl h)
    · exact (or_iff_right h).symm
  constructor
  · intro h
    have hreading : u.timeZone.reading t = r := by
      have hkey : keyTime u.timeZone r = DateFormatter.string ⟨"H:mm:ss", u.timeZone⟩ t :=
        h.keyTime
      rw [string_key, keyTime_inj] at hkey
      exact hkey.symm
    refine ⟨hreading, ?_⟩
    have htime : sendTime u r =
        u.marker pmSymbol t ++ " " ++ DateFormatter.string ⟨"h:mm", u.timeZone⟩ t :=
      Option.some.inj h.sendTime
    rw [sendTime, string_send, hreading, ← String.toList_inj] at htime
    simp only [String.toList_append, List.append_cancel_right_eq, String.toList_inj] at htime
    rw [← hreading]
    exact hmarker.mp htime
  · rintro ⟨rfl, hmorning⟩
    refine ⟨(string_key u.timeZone t).symm, ?_⟩
    rw [string_send, ← hmarker.mpr hmorning]
    rfl

/-- **When a message is stamped with the time at which it is sent**: exactly if the clock goes
through the time put together between the first look and the third, and it is morning – or the
calendar has one marker for both halves of the day. If the clocks are not moved between the
looks, the first is so exactly if the minute of the second look with the second of the third is
not before minute and second of the first. -/
theorem stamped_iff {u : Sender} {roomPk : ℤ} {tap : SendTap} {w : SetData} (pmSymbol : String)
    (hsend : sendMessage u roomPk tap = some w) (h₁₂ : tap.hourAt ≤ tap.minuteAt)
    (h₂₃ : tap.minuteAt ≤ tap.secondAt)
    (hday : u.timeZone.day tap.hourAt = u.timeZone.day tap.secondAt) :
    ((∃ t, tap.hourAt ≤ t ∧ t ≤ tap.secondAt ∧ StampedWith u pmSymbol w t) ↔
      GoesThrough u.timeZone tap.hourAt tap.secondAt (tap.reading u.timeZone) ∧
        ((u.timeZone.reading tap.hourAt).hour < 12 ∨ u.amSymbol = pmSymbol)) ∧
    ((∀ t, tap.hourAt ≤ t → t ≤ tap.secondAt →
        u.timeZone.secondsFromGMT t = u.timeZone.secondsFromGMT tap.hourAt) →
      (GoesThrough u.timeZone tap.hourAt tap.secondAt (tap.reading u.timeZone) ↔
        (u.timeZone.reading tap.hourAt).minute * 60 + (u.timeZone.reading tap.hourAt).second ≤
          (u.timeZone.reading tap.minuteAt).minute * 60 +
            (u.timeZone.reading tap.secondAt).second)) := by
  have hthrough := exists_reading_iff_goesThrough u.timeZone tap.hourAt tap.secondAt
    (reading_bounded u.timeZone tap)
  constructor
  · rw [sendMessage_eq] at hsend
    obtain ⟨-, hw⟩ := Option.ite_none_left_eq_some.mp hsend
    obtain rfl := Option.some.inj hw
    rw [← hthrough]
    simp only [stampedWith_iff]
    constructor
    · rintro ⟨t, h₁, h₃, hreading, hmarker⟩
      exact ⟨⟨t, h₁, h₃, hreading⟩, hmarker⟩
    · rintro ⟨⟨t, h₁, h₃, hreading⟩, hmarker⟩
      exact ⟨t, h₁, h₃, hreading, hmarker⟩
  · intro hsteady
    rw [← hthrough]
    exact exists_reading_iff ⟨hsteady, hday⟩ h₁₂ h₂₃

/-- **On the stroke of ten**, the hour is read a second before the others, and nine o'clock is
an hour ago. -/
example : sendMessage mina 7 ⟨"hello", 3599, 3600, 3600⟩ =
    some (setDBdata mina 7 "9:00:00" 1 "AM 9:00" "hello") := by
  decide

/-- **One in the afternoon**: all three looks are at one instant, and the marker is that of
the morning. -/
theorem afternoon_amSymbol :
    sendMessage mina 7 (.at "hello" 14400) =
        some (setDBdata mina 7 "13:00:00" 1 "AM 1:00" "hello") ∧
      ¬∃ t, 14400 ≤ t ∧ t ≤ 14400 ∧
        StampedWith mina "PM" (setDBdata mina 7 "13:00:00" 1 "AM 1:00" "hello") t := by
  refine ⟨by decide, ?_⟩
  rintro ⟨t, h₁, h₃, hstamped⟩
  obtain rfl : t = 14400 := le_antisymm h₃ h₁
  exact absurd hstamped.sendTime (by decide)

/-- Five past nine, with the looks a second and two seconds apart: the time put together is that
of the third. -/
theorem fivePastNine_stamped :
    ∃ w, sendMessage mina 7 ⟨"hello", 300, 301, 303⟩ = some w ∧
      ∃ t, 300 ≤ t ∧ t ≤ 303 ∧ StampedWith mina "PM" w t := by
  have hsend : sendMessage mina 7 ⟨"hello", 300, 301, 303⟩ = some _ := rfl
  obtain ⟨hstamped, hthrough⟩ := stamped_iff "PM" hsend (by decide) (by decide) rfl
  exact ⟨_, hsend, hstamped.mpr ⟨(hthrough fun _ _ _ => rfl).mpr (by decide), by decide⟩⟩

end Joinus
