import Joinus.Clock

/-!
# Sending a chat message

A tap on the send button reads the clock three times – once for the hour, once for
the minute, once for the second – and puts the three together to one time of day.
Of this time it makes two texts: `keyTime`, along `H:mm:ss`, under which the
message is stored, and `sendTime`, along `h:mm`, which is shown next to it. A text
of blanks only is not sent.

Neither text mentions the day, and neither mentions the user: the id of a message is
its three readings and nothing else (`Joinus.keyTime_inj`).
-/

namespace Joinus

open Base

/-! ### What is sent -/

/-- The white space of `CharacterSet.whitespaces`: the space separators of Unicode,
and the tabulator. -/
def isWhitespace (c : Char) : Bool :=
  c.toNat ∈ [0x09, 0x20, 0xA0, 0x1680, 0x202F, 0x205F, 0x3000] ||
    (0x2000 ≤ c.toNat && c.toNat ≤ 0x200A)

/-- `trimmingCharacters(in: CharacterSet.whitespaces)`. -/
def trimmingWhitespaces (s : String) : String :=
  String.ofList
    ((s.toList.dropWhile isWhitespace).reverse.dropWhile isWhitespace).reverse

/-- A text that `sendMessage` does not send. -/
def Blank (text : String) : Prop :=
  trimmingWhitespaces text = "" ∨ text.length = 0

instance (text : String) : Decidable (Blank text) :=
  inferInstanceAs (Decidable (_ ∨ _))

/-- A signed-in user at a device: what `sendMessage` takes from `MyInfoModel`, and
the time zone and the morning symbol of the device's calendar. -/
structure Sender where
  myPk : ℤ
  myGameID : String
  timeZone : TimeZone
  amSymbol : String

/-- A tap on the send button: the text in the text view, and the instants at which
the hour, the minute and the second are read. -/
structure SendTap where
  text : String
  hourAt : Instant
  minuteAt : Instant
  secondAt : Instant

/-- A time of day as the three readings give it. -/
@[ext]
structure Reading where
  hour : ℕ
  minute : ℕ
  second : ℕ
  deriving DecidableEq

/-- The readings of a tap. -/
def SendTap.reading (tap : SendTap) (z : TimeZone) : Reading where
  hour := (z.fields tap.hourAt).hour
  minute := (z.fields tap.minuteAt).minute
  second := (z.fields tap.secondAt).second

/-- `calendar.date(from:)` of components that are only a time of day: the day is the
first of the calendar. -/
def Reading.date (r : Reading) : DateFields := ⟨1, 1, 1, r.hour, r.minute, r.second⟩

/-- A document: its keys with their values. -/
abbrev Document := List (String × String)

/-- A call of `setData`: the document it stores, and under which id of which room's
`chat` collection. -/
structure SetData where
  roomPk : ℤ
  keyTime : String
  data : Document
  deriving DecidableEq

/-- The id of a message. -/
def keyTime (z : TimeZone) (r : Reading) : String :=
  DateFormatter.stringOfFields ⟨"H:mm:ss", z⟩ r.date

/-- The time shown with a message. -/
def sendTime (u : Sender) (r : Reading) : String :=
  u.amSymbol ++ " " ++ DateFormatter.stringOfFields ⟨"h:mm", u.timeZone⟩ r.date

/-- `setDBdata`. It names the sender by its own look at `myInfoModel`, not by the
`userPk` it is given. -/
def setDBdata (u : Sender) (roomPk : ℤ) (keyTime : String) (_userPk : ℤ)
    (sendTime message : String) : SetData where
  roomPk := roomPk
  keyTime := keyTime
  data := [("message", message), ("time", sendTime), (toString u.myPk, u.myGameID)]

/-- `sendMessage`, on a tap of the send button. -/
def sendMessage (u : Sender) (roomPk : ℤ) (tap : SendTap) : Option SetData :=
  let date := tap.reading u.timeZone
  if trimmingWhitespaces tap.text ≠ "" then
    if tap.text.length ≠ 0 then
      some (setDBdata u roomPk (keyTime u.timeZone date) u.myPk (sendTime u date) tap.text)
    else none
  else none

/-- The readings of a tap are a time of day. -/
structure Reading.Bounded (r : Reading) : Prop where
  hour_lt : r.hour < 24
  minute_lt : r.minute < 60
  second_lt : r.second < 60

theorem reading_bounded (z : TimeZone) (tap : SendTap) : (tap.reading z).Bounded :=
  ⟨hour_fields_lt z _, minute_fields_lt z _, second_fields_lt z _⟩

/-- **What `sendMessage` writes**: nothing for a blank text, and otherwise one
document under the id of the tap's readings. -/
theorem sendMessage_eq (u : Sender) (roomPk : ℤ) (tap : SendTap) :
    sendMessage u roomPk tap =
      if Blank tap.text then none
      else some (setDBdata u roomPk (keyTime u.timeZone (tap.reading u.timeZone)) u.myPk
        (sendTime u (tap.reading u.timeZone)) tap.text) := by
  rw [sendMessage]
  by_cases htrim : trimmingWhitespaces tap.text = ""
  · rw [if_neg (not_not.mpr htrim), if_pos (show Blank tap.text from Or.inl htrim)]
  · by_cases hlen : tap.text.length = 0
    · rw [if_pos htrim, if_neg (not_not.mpr hlen), if_pos (show Blank tap.text from Or.inr hlen)]
    · rw [if_pos htrim, if_pos hlen, if_neg (show ¬Blank tap.text from not_or.mpr ⟨htrim, hlen⟩)]

/-! ### The id of a message -/

/-- The pattern of the ids. -/
theorem keyPattern_eq : Pattern.ofFormat "H:mm:ss".toList =
    [.num .hour 1, .lit ':', .num .minute 2, .lit ':', .num .second 2] := by
  decide

/-- The characters of an id. -/
theorem toList_keyTime (z : TimeZone) (r : Reading) :
    (keyTime z r).toList =
      pad 1 r.hour ++ ':' :: (pad 2 r.minute ++ ':' :: (pad 2 r.second ++ [])) := by
  rw [keyTime, DateFormatter.stringOfFields, DateFormatter.pattern, keyPattern_eq,
    String.toList_ofList]
  rfl

/-- **The id is the three readings**, in whatever time zones they were taken. -/
theorem keyTime_inj {z z' : TimeZone} {r r' : Reading} :
    keyTime z r = keyTime z' r' ↔ r = r' := by
  constructor
  · intro h
    have hp : Pattern.separated
        [.num .hour 1, .lit ':', .num .minute 2, .lit ':', .num .second 2] := by decide
    have hchars := congrArg String.toList h
    rw [toList_keyTime, toList_keyTime] at hchars
    have hfields : (⟨0, 0, 0, r.hour, r.minute, r.second⟩ : DateFields) =
        ⟨0, 0, 0, r'.hour, r'.minute, r'.second⟩ :=
      @Pattern.write_inj _ hp r.date r'.date hchars ⟨0, 0, 0, 0, 0, 0⟩
    simp only [DateFields.mk.injEq, true_and] at hfields
    exact Reading.ext hfields.1 hfields.2.1 hfields.2.2
  · rintro rfl
    rfl

end Joinus
