import Joinus.Base.Decimal
import Joinus.Chat.Message
import Joinus.Room

/-!
# A row of the chat

`cellForRowAt` knows the sender of a document by the one key that is neither
`message` nor `time`: the decimal of the sender's `pk`. If it is the viewer's own,
the row is the viewer's; otherwise the row goes through the roster of the screen's
room, and every user whose decimal is a key of the document sets the image address,
the name, the time and the text of the row. If there is no such user, all four keep
their initial value, the empty string – and `DownLoad.imageURL`, which has no URL to
make of an empty string, ends in `fatalError`.

What is downloaded is not the app's: `load` stands for what lies behind an address,
an image or nothing.
-/

namespace Joinus

open Base

variable {Image : Type}

/-! ### A row, as `cellForRowAt` makes it -/

/-- `DownLoad.imageURL`: `none` is `fatalError`. There is no URL of an empty
string. -/
def imageURL (load : String → Option Image) (url : String) : Option Image :=
  if url = "" then none else load url

/-- The local variables in which `cellForRowAt` collects a row. -/
structure RowText where
  imageAddress : String
  name : String
  sendTime : String
  message : String
  deriving DecidableEq

/-- A row: whether the profile picture is hidden – it is on the viewer's own rows –
and what is shown. The viewer's own rows have the empty `UIImage()`. -/
structure ChattingCell (Image : Type) where
  profileHidden : Bool
  profileImage : Option Image
  userName : String
  sendTime : String
  message : String

/-- What `cellForRowAt` notes down when a user of the roster is a key of the
document. -/
def RowText.note (data : Document) (row : RowText) (info : JoinUserInfo) : RowText :=
  match data.lookup (toString info.joinUserPk) with
  | none => row
  | some name =>
    { imageAddress := info.imageAddress
      name := name
      sendTime := (data.lookup "time").getD "notime"
      message := (data.lookup "message").getD "nomessage" }

/-- The text of a row that is not the viewer's own. -/
def otherRow (userList : List JoinUserInfo) (data : Document) : RowText :=
  userList.foldl (RowText.note data) ⟨"", "", "", ""⟩

/-- `cellForRowAt`, on a row with the document `data`: `none` is `fatalError`. -/
def cellForRowAt (load : String → Option Image) (myPk : ℤ) (roomInfo : GetRoomInfo)
    (data : Document) : Option (ChattingCell Image) :=
  match data.lookup (toString myPk) with
  | some name =>
    some
      { profileHidden := true
        profileImage := none
        userName := name
        sendTime := (data.lookup "time").getD "notime"
        message := (data.lookup "message").getD "nomessage" }
  | none =>
    let row := otherRow roomInfo.userList data
    match imageURL load row.imageAddress with
    | none => none
    | some image =>
      some
        { profileHidden := false
          profileImage := some image
          userName := row.name
          sendTime := row.sendTime
          message := row.message }

/-! ### The keys of a document -/

theorem toString_int_ne_message (p : ℤ) : toString p ≠ "message" :=
  toString_int_ne rfl (by decide) (by decide)

theorem toString_int_ne_time (p : ℤ) : toString p ≠ "time" :=
  toString_int_ne rfl (by decide) (by decide)

/-! ### The row of a message -/

section Message

variable (u : Sender) (roomPk : ℤ) (key : String) (pk : ℤ) (time message : String)

/-- **The one decimal among the keys of a message is its sender's.** -/
theorem lookup_setDBdata_toString (p : ℤ) :
    (setDBdata u roomPk key pk time message).data.lookup (toString p) =
      if p = u.myPk then some u.myGameID else none := by
  have hm : (toString p == "message") = false := by
    simpa using toString_int_ne_message p
  have ht : (toString p == "time") = false := by
    simpa using toString_int_ne_time p
  rw [setDBdata, List.lookup_cons, hm, List.lookup_cons, ht, List.lookup_cons]
  by_cases hp : p = u.myPk
  · subst hp
    simp
  · have hne : (toString p == toString u.myPk) = false := by
      simpa [toString_int_inj] using hp
    rw [hne, if_neg hp]
    rfl

theorem lookup_setDBdata_message :
    (setDBdata u roomPk key pk time message).data.lookup "message" = some message :=
  rfl

theorem lookup_setDBdata_time :
    (setDBdata u roomPk key pk time message).data.lookup "time" = some time :=
  rfl

theorem note_setDBdata (row : RowText) (info : JoinUserInfo) :
    RowText.note (setDBdata u roomPk key pk time message).data row info =
      if info.joinUserPk = u.myPk then ⟨info.imageAddress, u.myGameID, time, message⟩ else row := by
  rw [RowText.note, lookup_setDBdata_toString, lookup_setDBdata_message, lookup_setDBdata_time]
  split_ifs <;> rfl

/-- The entry of the roster that decides what a row shows of its sender: the last
one under the sender's `pk`. -/
def senderInfo (userList : List JoinUserInfo) (p : ℤ) : Option JoinUserInfo :=
  (userList.filter (·.joinUserPk = p)).getLast?

theorem senderInfo_eq_none {userList : List JoinUserInfo} {p : ℤ} :
    senderInfo userList p = none ↔ p ∉ userList.map JoinUserInfo.joinUserPk := by
  rw [senderInfo, List.getLast?_eq_none_iff, List.filter_eq_nil_iff]
  simp

theorem mem_of_senderInfo {userList : List JoinUserInfo} {p : ℤ} {info : JoinUserInfo}
    (h : senderInfo userList p = some info) : info ∈ userList ∧ info.joinUserPk = p := by
  have hmem := List.mem_of_getLast? h
  exact ⟨List.mem_of_mem_filter hmem, by simpa using List.of_mem_filter hmem⟩

/-- What the row of a message collects, from the values it starts with. -/
theorem foldl_note_setDBdata (userList : List JoinUserInfo) (row : RowText) :
    userList.foldl (RowText.note (setDBdata u roomPk key pk time message).data) row =
      match senderInfo userList u.myPk with
      | none => row
      | some info => ⟨info.imageAddress, u.myGameID, time, message⟩ := by
  induction userList generalizing row with
  | nil => rfl
  | cons i is ih =>
    rw [List.foldl_cons, ih, note_setDBdata, senderInfo, senderInfo]
    by_cases hi : i.joinUserPk = u.myPk
    · rw [List.filter_cons_of_pos (by simpa using hi), List.getLast?_cons, if_pos hi]
      cases (is.filter (·.joinUserPk = u.myPk)).getLast? <;> rfl
    · rw [List.filter_cons_of_neg (by simpa using hi), if_neg hi]

theorem otherRow_setDBdata (userList : List JoinUserInfo) :
    otherRow userList (setDBdata u roomPk key pk time message).data =
      match senderInfo userList u.myPk with
      | none => ⟨"", "", "", ""⟩
      | some info => ⟨info.imageAddress, u.myGameID, time, message⟩ :=
  foldl_note_setDBdata u roomPk key pk time message userList _

/-- **When the row of another user's message crashes**: when the sender is not on
the roster of the screen, or the sender's image cannot be downloaded. -/
theorem cellForRowAt_eq_none_iff (load : String → Option Image) {myPk : ℤ} (hne : u.myPk ≠ myPk)
    (roomInfo : GetRoomInfo) :
    cellForRowAt load myPk roomInfo (setDBdata u roomPk key pk time message).data = none ↔
      ∀ info, senderInfo roomInfo.userList u.myPk = some info →
        imageURL load info.imageAddress = none := by
  rw [cellForRowAt, lookup_setDBdata_toString, if_neg (Ne.symm hne), otherRow_setDBdata]
  cases h : senderInfo roomInfo.userList u.myPk with
  | none => simp [imageURL]
  | some info =>
    simp only [Option.some.injEq, forall_eq']
    cases imageURL load info.imageAddress with
    | none => simp
    | some image => simp

end Message

/-! ### Reading a row back -/

/-- On a roster without repetitions every user decides for himself. -/
theorem senderInfo_of_nodup {userList : List JoinUserInfo}
    (hnodup : (userList.map JoinUserInfo.joinUserPk).Nodup) {info : JoinUserInfo}
    (hinfo : info ∈ userList) : senderInfo userList info.joinUserPk = some info := by
  cases h : senderInfo userList info.joinUserPk with
  | none => exact absurd (List.mem_map_of_mem hinfo) (senderInfo_eq_none.mp h)
  | some found =>
    obtain ⟨hfound, hpk⟩ := mem_of_senderInfo h
    rw [List.inj_on_of_nodup_map hnodup hfound hinfo hpk]

/-- **Reading a row undoes writing it.** The row that a viewer gets of a message is one of the
viewer's own rows if the viewer is its sender. Otherwise it has the name, the time and the
text that were written, next to the image at the address that the roster has for the sender –
wherever on the roster that is – if the image can be downloaded; and if it cannot, there is no
row, but `fatalError`. -/
theorem row_reads_back (load : String → Option Image) (u : Sender) (roomPk : ℤ) (key : String)
    (pk : ℤ) (time message : String) (myPk : ℤ) {roomInfo : GetRoomInfo}
    (hnodup : (roomInfo.userList.map JoinUserInfo.joinUserPk).Nodup) :
    (u.myPk = myPk →
        cellForRowAt load myPk roomInfo (setDBdata u roomPk key pk time message).data =
          some ⟨true, none, u.myGameID, time, message⟩) ∧
      ∀ info ∈ roomInfo.userList, info.joinUserPk = u.myPk → u.myPk ≠ myPk →
        cellForRowAt load myPk roomInfo (setDBdata u roomPk key pk time message).data =
          (imageURL load info.imageAddress).map fun image =>
            ⟨false, some image, u.myGameID, time, message⟩ := by
  constructor
  · rintro rfl
    rw [cellForRowAt, lookup_setDBdata_toString, if_pos rfl]
    rfl
  · intro info hinfo hpk hne
    have hsender : senderInfo roomInfo.userList u.myPk = some info := by
      rw [← hpk]
      exact senderInfo_of_nodup hnodup hinfo
    rw [cellForRowAt, lookup_setDBdata_toString, if_neg (Ne.symm hne), otherRow_setDBdata, hsender]
    dsimp only
    cases imageURL load info.imageAddress with
    | none => rfl
    | some image => rfl

/-- Two users, of whom the second has no picture. -/
def jinAndBora : GetRoomInfo where
  roomPk := 7
  roomName := "tonight"
  gameName := "league of legends"
  peopleNumber := 3
  startDate := "2021-10-01 20-00-00"
  createdAt := "2021-09-30 10-00-00"
  voiceChat := true
  lowestTier := 0
  highestTier := 7
  isStart := 0
  nowPeopleCnt := 2
  leaderPk := 1
  roomManner := 5
  userList := [⟨1, 20, 0, "token", none, "image", "jin", true⟩,
    ⟨2, 25, 1, "token", none, "", "bora", true⟩]

/-- Jin's message is read by Bora. -/
theorem jin_read :
    cellForRowAt some 2 jinAndBora
        (setDBdata ⟨1, "jin", TimeZone.fixed 32400, "AM"⟩ 7 "9:00:00" 1 "AM 9:00" "hello").data =
      some ⟨false, some "image", "jin", "AM 9:00", "hello"⟩ := by
  have hnodup : (jinAndBora.userList.map JoinUserInfo.joinUserPk).Nodup := by decide
  exact (row_reads_back some ⟨1, "jin", TimeZone.fixed 32400, "AM"⟩ 7 "9:00:00" 1 "AM 9:00"
    "hello" 2 hnodup).2 _ List.mem_cons_self rfl (by decide)

/-- **Bora's message is not shown to Jin**: there is nothing at the empty address, whatever
lies behind the others. -/
theorem bora_crashes :
    cellForRowAt some 1 jinAndBora
        (setDBdata ⟨2, "bora", TimeZone.fixed 32400, "AM"⟩ 7 "9:00:00" 2 "AM 9:00" "hello").data =
      none := by
  decide

end Joinus
