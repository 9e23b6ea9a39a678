import Joinus.Navigation.Joining

/-!
# The face in the header of the chat

The button in the middle of the chat's header shows a face for the manner of the room, and
the manner view of the own page highlights one of the same four faces for a score. The
manner of a room is averaged by `viewDidLoad` of its Select screen, and the chat takes it
from a field of the shared `JoinChattingModel`. Two things are wrong with the face:

* the first bound of the chat's classification is the wrong way round, so that it knows only
  two faces, and agrees with the manner view on an average of `-5` and on no other
  (`Joinus.Navigation.setRoomMannerImage_eq_iff`);
* the way from My Matching to a chat leads past every Select screen, so that the field is
  that of the last room whose Select screen has been seen.

A room without users has no average, and the Select screen divides by zero.
`Joinus.Navigation.manner_faces_iff` says in which runs none of this shows.
-/

namespace Joinus

open Base

/-! ### Faces -/

/-- `MyMannerView.setMannerStatus`: the images of the four faces, which have been `images`,
for a score. -/
def setMannerStatus (images : List String) (score : ℤ) : List String :=
  if score < -4 then
    ["manner1_24x24", "manner2_24x24@30", "manner3_24x24@30", "manner4_24x24@30"]
  else if score < 1 then
    ["manner1_24x24@30", "manner2_24x24", "manner3_24x24@30", "manner4_24x24@30"]
  else if score < 6 then
    ["manner1_24x24@30", "manner2_24x24@30", "manner3_24x24", "manner4_24x24@30"]
  else if score ≥ 6 then
    ["manner1_24x24@30", "manner2_24x24@30", "manner3_24x24@30", "manner4_24x24"]
  else images

/-- The face that is highlighted among four: the others are shown at 30 percent. -/
def highlightedFace (images : List String) : Option String :=
  images.find? fun image => '@' ∉ image.toList

/-- The average that `SelectJoinGameViewController.viewDidLoad` takes, if there are
users. -/
def averageManner (room : GetRoomInfo) : Option ℤ :=
  if room.userList.length = 0 then none
  else some (room.roomManner.tdiv room.userList.length)

/-- The chat shows the face that the manner view highlights for the average manner of its
room. -/
def JoinChatting.ShowsManner (vc : JoinChatting) : Prop :=
  ∃ room ∈ vc.roomInfo, ∃ average ∈ averageManner room, ∀ images,
    vc.centerButtonItem = highlightedFace (setMannerStatus images average)

theorem highlightedFace_setMannerStatus (images : List String) (score : ℤ) :
    highlightedFace (setMannerStatus images score) =
      if score < -4 then some "manner1_24x24"
      else if score < 1 then some "manner2_24x24"
      else if score < 6 then some "manner3_24x24"
      else some "manner4_24x24" := by
  unfold setMannerStatus
  split_ifs
  · decide
  · decide
  · decide
  · decide
  · omega

namespace Navigation

variable {z : TimeZone} {myPk : ℤ} {s t : Navigation} {tab : Tab} {screen : Controller}
  {chat : Chatting}

/-- **Where the two classifications agree.** The chat knows the first face, from `-5` on,
and the second. -/
theorem setRoomMannerImage_eq_iff (images : List String) (score average : ℤ) :
    some (setRoomMannerImage score) = highlightedFace (setMannerStatus images average) ↔
      (-5 ≤ score ∧ average < -4) ∨ (score < -5 ∧ -4 ≤ average ∧ average < 1) := by
  rw [highlightedFace_setMannerStatus, setRoomMannerImage]
  split_ifs <;> simp <;> omega

/-- On the same score they agree in one place. -/
theorem setRoomMannerImage_self_iff (images : List String) (score : ℤ) :
    some (setRoomMannerImage score) = highlightedFace (setMannerStatus images score) ↔
      score = -5 := by
  rw [setRoomMannerImage_eq_iff]
  omega

/-! ### What is asked of a run -/

/-- **The face in the header is that of the room**, and no average has been a division by
zero. -/
structure FacesRight (s : Navigation) : Prop where
  divides : s.trap ≠ some .divisionByZero
  shown : ∀ {chat}, s.ui.topScreen = some (.joinChatting chat) → (s.chats chat).ShowsManner

/-- The room whose row an action taps on the home list, and when. -/
def homeRoom (s : Navigation) : NavigationAction → Option (GetRoomInfo × Instant)
  | .tap (.homeRow row now) => s.gameList[row]?.map fun room => (room, now)
  | _ => none

/-- The room whose row an action taps on My Matching. -/
def matchingRoom (s : Navigation) : NavigationAction → Option GetRoomInfo
  | .tap (.matchingRow row) => s.matchingList[row]?
  | _ => none

/-- **The manner reaches the chat.** A room that is opened on the home list has users, unless
its start cannot be read; a room that is opened on My Matching has users and an average
for which the manner last noted down happens to have the right face; and a room that is
joined has an average of `-5`. -/
def MannerReaches (z : TimeZone) (s : Navigation) (a : NavigationAction) : Prop :=
  (∀ r ∈ s.homeRoom a, calculateStartTime z r.2 r.1.startDate ≠ none →
      r.1.userList.length ≠ 0) ∧
    (∀ room ∈ s.matchingRoom a, ∃ average ∈ averageManner room,
      (-5 ≤ s.selectedRoomManner ∧ average < -4) ∨
        (s.selectedRoomManner < -5 ∧ -4 ≤ average ∧ average < 1)) ∧
    ∀ vc ∈ a.joins, .selectJoinGame vc ∈ s.ui.stack .game →
      averageManner vc.roomInfo = some (-5)

instance (z : TimeZone) (s : Navigation) (a : NavigationAction) :
    Decidable (s.MannerReaches z a) :=
  inferInstanceAs (Decidable ((∀ r ∈ s.homeRoom a, _ → _) ∧
    (∀ room ∈ s.matchingRoom a, ∃ average ∈ averageManner room, _) ∧ ∀ vc ∈ a.joins, _ → _))

/-- **The manner that is noted down** is that of the Select screen on the stack; and the
chats of Select screens that have been loaded have the face of their rooms. -/
structure MannerNoted (s : Navigation) : Prop where
  select : ∀ {vc}, .selectJoinGame vc ∈ s.ui.stack .game →
    averageManner vc.roomInfo = some s.selectedRoomManner
  stacked : ∀ {vc}, .joinChatting (.select vc) ∈ s.ui.stack .game →
    (s.chats (.select vc)).viewLoaded = true
  loaded : ∀ {vc}, (s.chats (.select vc)).viewLoaded = true →
    averageManner vc.roomInfo = some (-5) ∧ (s.chats (.select vc)).ShowsManner

theorem mannerNoted_signedIn : MannerNoted signedIn where
  select h := absurd h Stack.notMem_empty
  stacked h := absurd h Stack.notMem_empty
  loaded h := absurd h (by simp [signedIn, JoinChatting.made])

theorem facesRight_signedIn : FacesRight signedIn where
  divides := by simp [signedIn]
  shown h := absurd h (by simp [signedIn, TabBarController.topScreen, TabBarController.initial])

/-! ### Steps that open no room -/

/-- **What is left alone by the steps that open no room**: no chat and no Select screen is
new, and the chats have the same faces. -/
structure OpensNone (s t : Navigation) : Prop where
  chat : ∀ {tab chat}, .joinChatting chat ∈ t.ui.stack tab → .joinChatting chat ∈ s.ui.stack tab
  select : ∀ {vc}, .selectJoinGame vc ∈ t.ui.stack .game → .selectJoinGame vc ∈ s.ui.stack .game
  viewLoaded : ∀ chat, (t.chats chat).viewLoaded = (s.chats chat).viewLoaded
  centerButtonItem : ∀ chat, (t.chats chat).centerButtonItem = (s.chats chat).centerButtonItem
  rooms : ∀ vc, (t.chats (.select vc)).roomInfo = (s.chats (.select vc)).roomInfo ∨
    (t.chats (.select vc)).roomInfo = some vc.roomInfo
  rows : ∀ n, (t.chats (.row n)).roomInfo = (s.chats (.row n)).roomInfo
  selectedRoomManner : t.selectedRoomManner = s.selectedRoomManner
  divides : t.trap = some .divisionByZero → s.trap = some .divisionByZero

theorem SameScreens.opensNone (h : SameScreens s t) : OpensNone s t where
  chat hmem := by rwa [h.ui] at hmem
  select hmem := by rwa [h.ui] at hmem
  viewLoaded := h.viewLoaded
  centerButtonItem := h.centerButtonItem
  rooms := h.rooms
  rows := h.rows
  selectedRoomManner := h.selectedRoomManner
  divides htrap := h.trap ▸ htrap

theorem LeaveFrame.opensNone (h : LeaveFrame s t) : OpensNone s t where
  chat := h.mem
  select := h.mem
  viewLoaded := h.viewLoaded
  centerButtonItem := h.centerButtonItem
  rooms _ := Or.inl (h.roomInfo _)
  rows _ := h.roomInfo _
  selectedRoomManner := h.selectedRoomManner
  divides htrap := h.trap ▸ htrap

theorem OpensNone.trans {u : Navigation} (h : OpensNone s t) (h' : OpensNone t u) :
    OpensNone s u where
  chat hmem := h.chat (h'.chat hmem)
  select hmem := h.select (h'.select hmem)
  viewLoaded chat := (h'.viewLoaded chat).trans (h.viewLoaded chat)
  centerButtonItem chat := (h'.centerButtonItem chat).trans (h.centerButtonItem chat)
  rooms vc := by
    rcases h'.rooms vc with hsame | hset
    · rw [hsame]
      exact h.rooms vc
    · exact Or.inr hset
  rows n := (h'.rows n).trans (h.rows n)
  selectedRoomManner := h'.selectedRoomManner.trans h.selectedRoomManner
  divides htrap := h.divides (h'.divides htrap)

/-- A push of a screen that is neither a chat nor a Select screen, and that may have been
made for the push. -/
theorem opensNone_push (n : ℕ) (hchat : ∀ chat, screen ≠ .joinChatting chat)
    (hselect : ∀ vc, screen ≠ .selectJoinGame vc) :
    OpensNone s (pushViewController z { s with created := n } tab screen) := by
  have hframe := pushFrame z { s with created := n } tab screen
  have hmem : ∀ {tab' screen'}, screen' ≠ screen →
      screen' ∈ (pushViewController z { s with created := n } tab screen).ui.stack tab' →
        screen' ∈ s.ui.stack tab' :=
    fun hne hmem => (hframe.mem hmem).resolve_left fun h => hne h.2
  exact
    { chat := fun {tab' chat} h => hmem (hchat chat).symm h
      select := fun {vc} h => hmem (hselect vc).symm h
      viewLoaded := fun chat => by rw [hframe.chats chat (hchat chat)]
      centerButtonItem := fun chat => by rw [hframe.chats chat (hchat chat)]
      rooms := fun _ => Or.inl (hframe.roomInfo _)
      rows := fun _ => hframe.roomInfo _
      selectedRoomManner := hframe.selectedRoomManner hselect
      divides := hframe.divides hselect }

/-- A chat with the face of its room keeps it: the room that the reply to a request gives
the chat is the one it has. -/
theorem OpensNone.showsManner (h : OpensNone s t) (hnoted : NotedDown myPk s)
    (hshows : (s.chats chat).ShowsManner) : (t.chats chat).ShowsManner := by
  obtain ⟨room, hroom, average, haverage, hface⟩ := hshows
  refine ⟨room, ?_, average, haverage, fun images => ?_⟩
  · cases chat with
    | select vc =>
      rcases h.rooms vc with hsame | hset
      · rwa [hsame]
      · obtain rfl : room = vc.roomInfo := hnoted.rooms hroom
        exact hset
    | row n => rwa [h.rows n]
  · rw [h.centerButtonItem]
    exact hface images

/-- A chat on a stack is what is seen. -/
theorem topScreen_of_chat (hlaid : s.ui.Laid) (h : .joinChatting chat ∈ s.ui.stack tab) :
    s.ui.topScreen = some (.joinChatting chat) := by
  have hsel := hlaid.selected_of_chat h
  cases htop : (s.ui.stack tab).top with
  | none =>
    rw [Stack.mem_iff_of_elems (Stack.top_eq_none.mp htop)] at h
    exact absurd h List.not_mem_nil
  | some screen =>
    rcases (Stack.mem_iff_of_top htop).mp h with rfl | hbelow
    · rw [TabBarController.topScreen, hsel, htop]
    · exact absurd hbelow (hlaid.shape tab).chat_notMem_tail

theorem OpensNone.facesRight (h : OpensNone s t) (hlaid : s.ui.Laid) (hnoted : NotedDown myPk s)
    (hs : s.FacesRight) : t.FacesRight where
  divides htrap := hs.divides (h.divides htrap)
  shown {chat} htop := by
    have hmem : .joinChatting chat ∈ s.ui.stack t.ui.selected := h.chat (Stack.mem_of_top htop)
    exact h.showsManner hnoted (hs.shown (topScreen_of_chat hlaid hmem))

theorem OpensNone.mannerNoted (h : OpensNone s t) (hnoted : NotedDown myPk s)
    (hs : s.MannerNoted) : t.MannerNoted where
  select hmem := by
    rw [h.selectedRoomManner]
    exact hs.select (h.select hmem)
  stacked hmem := by
    rw [h.viewLoaded]
    exact hs.stacked (h.chat hmem)
  loaded {vc} hloaded := by
    rw [h.viewLoaded] at hloaded
    obtain ⟨haverage, hshows⟩ := hs.loaded hloaded
    exact ⟨haverage, h.showsManner hnoted hshows⟩

theorem homeRoom_of_not_tapsRow {a : NavigationAction} (h : a.tapsRow = false) :
    s.homeRoom a = none ∧ s.matchingRoom a = none := by
  cases a with
  | tap a =>
    cases a with
    | homeRow row now => exact absurd h (by simp [NavigationAction.tapsRow])
    | matchingRow row => exact absurd h (by simp [NavigationAction.tapsRow])
    | _ => exact ⟨rfl, rfl⟩
  | _ => exact ⟨rfl, rfl⟩

/-- Nothing is asked of an action that opens no room. -/
theorem mannerReaches_of_not_tapsRow {a : NavigationAction} (hrow : a.tapsRow = false)
    (hjoins : a.joins = none) : s.MannerReaches z a := by
  obtain ⟨hhome, hmatching⟩ := homeRoom_of_not_tapsRow (s := s) hrow
  exact ⟨forall_mem_of_eq_none hhome, forall_mem_of_eq_none hmatching,
    forall_mem_of_eq_none hjoins⟩

/-- **What is to be shown of a step**: the faces are right after it exactly if it meets
the condition, and then the manner is noted down. -/
def Accounted (z : TimeZone) (s : Navigation) (a : NavigationAction) (t : Navigation) : Prop :=
  (t.FacesRight ↔ s.MannerReaches z a) ∧ (s.MannerReaches z a → t.MannerNoted)

theorem OpensNone.accounted {a : NavigationAction} (h : OpensNone s t) (hlaid : s.ui.Laid)
    (hnoted : NotedDown myPk s) (hs : s.MannerNoted) (hright : s.FacesRight)
    (ha : s.MannerReaches z a) : s.Accounted z a t :=
  ⟨iff_of_true (h.facesRight hlaid hnoted hright) ha, fun _ => h.mannerNoted hnoted hs⟩

/-! ### The home list -/

/-- The Select screen of a room with users averages their manner. -/
theorem loadSelect_of_users (z : TimeZone) (s : Navigation) {vc : SelectJoinGame}
    (h : vc.roomInfo.userList.length ≠ 0) :
    averageManner vc.roomInfo = some (s.loadSelect z vc).selectedRoomManner ∧
      ((s.loadSelect z vc).trap = some .divisionByZero → s.trap = some .divisionByZero) := by
  rw [loadSelect, averageManner]
  dsimp only
  rw [if_neg h, if_neg h]
  split
  · exact ⟨rfl, fun htrap => absurd htrap (by simp)⟩
  · exact ⟨rfl, id⟩

/-- That of a room without users divides by zero. -/
theorem loadSelect_of_no_users (z : TimeZone) (s : Navigation) {vc : SelectJoinGame}
    (h : vc.roomInfo.userList.length = 0) :
    (s.loadSelect z vc).trap = some .divisionByZero := by
  rw [loadSelect]
  dsimp only
  rw [if_pos h]

/-- **A Select screen over the bare home list**: its room has users, or this is a division by
zero. -/
theorem push_select (vc : SelectJoinGame) (hroot : s.ui.AtRoot .game) (hs : s.MannerNoted)
    (hright : s.FacesRight) :
    ((s.pushViewController z .game (.selectJoinGame vc)).FacesRight ↔
        vc.roomInfo.userList.length ≠ 0) ∧
      (vc.roomInfo.userList.length ≠ 0 →
        (s.pushViewController z .game (.selectJoinGame vc)).MannerNoted) := by
  have hnot : .selectJoinGame vc ∉ s.ui.stack .game := notMem_of_atRoot hroot
  have htop := topScreen_pushViewController (z := z) hroot.1 hnot
  have hframe := pushFrame z s .game (.selectJoinGame vc)
  obtain ⟨screens, -, hpush⟩ := pushViewController_of_notMem (z := z) hnot
  have hload : s.pushViewController z .game (.selectJoinGame vc) =
      loadSelect z { s with ui := s.ui.setStack .game screens } vc := hpush
  have hshown : ∀ {chat}, (s.pushViewController z .game (.selectJoinGame vc)).ui.topScreen ≠
      some (.joinChatting chat) := by
    intro chat
    rw [htop]
    simp
  constructor
  · constructor
    · intro h hempty
      refine h.divides ?_
      rw [hload]
      exact loadSelect_of_no_users z _ hempty
    · intro husers
      refine ⟨fun htrap => ?_, fun h => absurd h hshown⟩
      rw [hload] at htrap
      have hbefore := (loadSelect_of_users z _ husers).2 htrap
      exact hright.divides hbefore
  · intro husers
    refine ⟨fun {vc'} hmem => ?_, fun {vc'} hmem => ?_, fun {vc'} hloaded => ?_⟩
    · obtain rfl : vc' = vc := by
        rcases hframe.mem hmem with ⟨-, heq⟩ | hold
        · simpa using heq
        · exact absurd hold (notMem_of_atRoot hroot)
      rw [hload]
      exact (loadSelect_of_users z _ husers).1
    · rw [hframe.chats _ (by simp)]
      exact hs.stacked ((hframe.mem hmem).resolve_left fun h => absurd h.2 (by simp))
    · rw [hframe.chats _ (by simp)] at hloaded ⊢
      exact hs.loaded hloaded

theorem accounted_homeRow {row : ℕ} {room : GetRoomInfo} {now : Instant} (hlaid : s.ui.Laid)
    (hnoted : NotedDown myPk s) (hs : s.MannerNoted) (hright : s.FacesRight)
    (hroot : s.ui.AtRoot .game) (hroom : s.gameList[row]? = some room) :
    s.Accounted z (.tap (.homeRow row now)) (s.didSelectHomeRow z now room) := by
  have hreaches : s.MannerReaches z (.tap (.homeRow row now)) ↔
      (calculateStartTime z now room.startDate ≠ none → room.userList.length ≠ 0) := by
    rw [MannerReaches, homeRoom, hroom]
    simp [matchingRoom, NavigationAction.joins]
  rw [Accounted, hreaches, didSelectHomeRow]
  split
  · next hnone =>
    -- the start of the room cannot be read, and the app ends before the push
    have hopens : OpensNone s { s with trap := some .unwrappedNil } :=
      { chat := id
        select := id
        viewLoaded := fun _ => rfl
        centerButtonItem := fun _ => rfl
        rooms := fun _ => Or.inl rfl
        rows := fun _ => rfl
        selectedRoomManner := rfl
        divides := fun htrap => absurd htrap (by simp) }
    exact ⟨iff_of_true (hopens.facesRight hlaid hnoted hright) fun h => absurd hnone h,
      fun _ => hopens.mannerNoted hnoted hs⟩
  · next startInterval hsome =>
    have hreads : calculateStartTime z now room.startDate ≠ none := by
      rw [hsome]
      simp
    have hpush := push_select (z := z) (s := { s with created := s.created + 1 })
      ⟨s.created, room, room.leaderPk, startInterval ≠ "매칭 완료"⟩ hroot
      ⟨hs.select, hs.stacked, hs.loaded⟩ ⟨hright.divides, hright.shown⟩
    rw [forall_prop_of_true hreads]
    exact hpush

/-! ### Chats -/

/-- **A chat that is pushed for the first time** has the right face exactly if the score that
is noted down has the face of its room's average. -/
theorem facesRight_push_chat {room : GetRoomInfo} (htab : s.ui.selected = tab)
    (hnot : .joinChatting chat ∉ s.ui.stack tab) (hroom : (s.chats chat).roomInfo = some room)
    (hfirst : (s.chats chat).viewLoaded = false) (hright : s.trap ≠ some .divisionByZero) :
    (s.pushViewController z tab (.joinChatting chat)).FacesRight ↔
      ∃ average ∈ averageManner room,
        (-5 ≤ s.selectedRoomManner ∧ average < -4) ∨
          (s.selectedRoomManner < -5 ∧ -4 ≤ average ∧ average < 1) := by
  have htop := topScreen_pushViewController (z := z) htab hnot
  have hshows : ((s.pushViewController z tab (.joinChatting chat)).chats chat).ShowsManner ↔
      ∃ average ∈ averageManner room, ∀ images, some (setRoomMannerImage s.selectedRoomManner) =
        highlightedFace (setMannerStatus images average) := by
    rw [chats_push_of_first hnot hroom hfirst, Function.update_self, JoinChatting.ShowsManner]
    simp [hroom]
  have hagree : (∃ average ∈ averageManner room, ∀ images,
        some (setRoomMannerImage s.selectedRoomManner) =
          highlightedFace (setMannerStatus images average)) ↔
      ∃ average ∈ averageManner room,
        (-5 ≤ s.selectedRoomManner ∧ average < -4) ∨
          (s.selectedRoomManner < -5 ∧ -4 ≤ average ∧ average < 1) := by
    simp only [setRoomMannerImage_eq_iff, forall_const]
  rw [← hagree, ← hshows]
  constructor
  · intro h
    exact h.shown htop
  · intro h
    refine ⟨fun htrap => hright ((pushFrame z s tab _).divides (by simp) htrap), ?_⟩
    intro chat' htop'
    obtain rfl : chat = chat' := by simpa [htop] using htop'
    exact h

/-- A push of a chat leaves the manner noted down, if that chat has the face of its room. -/
theorem mannerNoted_push_chat (hs : s.MannerNoted)
    (hchat : ∀ {vc}, chat = .select vc →
      ((s.pushViewController z tab (.joinChatting chat)).chats chat).viewLoaded = true ∧
        averageManner vc.roomInfo = some (-5) ∧
        ((s.pushViewController z tab (.joinChatting chat)).chats chat).ShowsManner) :
    (s.pushViewController z tab (.joinChatting chat)).MannerNoted := by
  have hframe := pushFrame z s tab (.joinChatting chat)
  have hother : ∀ {vc}, chat ≠ .select vc →
      (s.pushViewController z tab (.joinChatting chat)).chats (.select vc) =
        s.chats (.select vc) :=
    fun hne => hframe.chats _ (by simpa using hne)
  refine ⟨fun {vc} hmem => ?_, fun {vc} hmem => ?_, fun {vc} hloaded => ?_⟩
  · rw [hframe.selectedRoomManner (by simp)]
    exact hs.select ((hframe.mem hmem).resolve_left fun h => absurd h.2 (by simp))
  · by_cases heq : chat = .select vc
    · rw [← heq]
      exact (hchat heq).1
    · rw [hother heq]
      refine hs.stacked ((hframe.mem hmem).resolve_left fun h => heq ?_)
      simpa using h.2.symm
  · by_cases heq : chat = .select vc
    · obtain ⟨-, haverage, hshows⟩ := hchat heq
      exact ⟨haverage, heq ▸ hshows⟩
    · rw [hother heq] at hloaded ⊢
      exact hs.loaded hloaded

/-- **A row of My Matching**: the score is that of another room. -/
theorem accounted_matchingRow {row : ℕ} {room : GetRoomInfo} (hs : s.MannerNoted)
    (hright : s.FacesRight) (hroot : s.ui.AtRoot .myMatching)
    (hroom : s.matchingList[row]? = some room) :
    s.Accounted z (.tap (.matchingRow row)) (s.didSelectMatchingRow z room) := by
  have hreaches : s.MannerReaches z (.tap (.matchingRow row)) ↔
      ∃ average ∈ averageManner room, (-5 ≤ s.selectedRoomManner ∧ average < -4) ∨
        (s.selectedRoomManner < -5 ∧ -4 ≤ average ∧ average < 1) := by
    rw [MannerReaches, matchingRoom, hroom]
    simp [homeRoom, NavigationAction.joins]
  rw [Accounted, hreaches, didSelectMatchingRow]
  constructor
  · refine facesRight_push_chat hroot.1 (notMem_of_atRoot hroot) ?_ ?_ hright.divides
    · simp
    · simp [JoinChatting.made]
  · intro _
    refine mannerNoted_push_chat ⟨hs.select, fun {vc} hmem => ?_, fun {vc} hloaded => ?_⟩ (by simp)
    · dsimp only
      rw [Function.update_of_ne (by simp)]
      exact hs.stacked hmem
    · dsimp only at hloaded ⊢
      rw [Function.update_of_ne (by simp)] at hloaded ⊢
      exact hs.loaded hloaded

theorem not_tapsRow_of_joins {a : NavigationAction} {vc : SelectJoinGame}
    (h : a.joins = some vc) : a.tapsRow = false := by
  cases a with
  | postRoomUserReply vc' roomPk userPk r => rfl
  | _ => exact absurd h (by simp [NavigationAction.joins])

theorem not_tapsRow_of_completes {a : NavigationAction} {form : ℕ}
    (h : a.completes = some form) : a.tapsRow = false := by
  cases a with
  | getRoomReply form' r => rfl
  | _ => exact absurd h (by simp [NavigationAction.completes])

/-- After the push of the chat of a Select screen the faces are right exactly if the average of its
room is `-5`, and then the manner is noted as before. -/
def AccountedChat (z : TimeZone) (s : Navigation) (vc : SelectJoinGame) : Prop :=
  ((s.pushViewController z .game (.joinChatting (.select vc))).FacesRight ↔
      averageManner vc.roomInfo = some (-5)) ∧
    (averageManner vc.roomInfo = some (-5) →
      (s.pushViewController z .game (.joinChatting (.select vc))).MannerNoted)

/-- A chat that is on the stack already is not shown anew, and the app ends. -/
theorem push_joined_of_mem {vc : SelectJoinGame} (hs : s.MannerNoted) (hright : s.FacesRight)
    (hmem : .joinChatting (.select vc) ∈ s.ui.stack .game) :
    s.AccountedChat z vc := by
  have hfive := (hs.loaded (hs.stacked hmem)).1
  rw [AccountedChat, pushViewController_of_mem hmem]
  exact ⟨iff_of_true ⟨by simp, hright.shown⟩ hfive, fun _ => ⟨hs.select, hs.stacked, hs.loaded⟩⟩

/-- A chat that is shown for the first time takes its face from the score noted down, which is
that of its room. -/
theorem push_joined_of_first {vc : SelectJoinGame} (hs : s.MannerNoted) (hright : s.FacesRight)
    (hsel : s.ui.selected = .game) (hnot : .joinChatting (.select vc) ∉ s.ui.stack .game)
    (hroom : (s.chats (.select vc)).roomInfo = some vc.roomInfo)
    (haverage : averageManner vc.roomInfo = some s.selectedRoomManner)
    (hfirst : (s.chats (.select vc)).viewLoaded = false) :
    s.AccountedChat z vc := by
  have hiff : (s.pushViewController z .game (.joinChatting (.select vc))).FacesRight ↔
      averageManner vc.roomInfo = some (-5) := by
    rw [facesRight_push_chat hsel hnot hroom hfirst hright.divides, haverage]
    simp
    omega
  refine ⟨hiff, fun hfive => mannerNoted_push_chat hs fun {vc'} heq => ?_⟩
  obtain rfl : vc = vc' := by simpa using heq
  refine ⟨?_, hfive, (hiff.mpr hfive).shown (topScreen_pushViewController hsel hnot)⟩
  rw [chats_push_of_first hnot hroom hfirst, Function.update_self]

/-- A chat that has been shown before keeps its face. -/
theorem push_joined_of_loaded {vc : SelectJoinGame} (hs : s.MannerNoted) (hright : s.FacesRight)
    (hsel : s.ui.selected = .game) (hnot : .joinChatting (.select vc) ∉ s.ui.stack .game)
    (hloaded : (s.chats (.select vc)).viewLoaded = true) :
    s.AccountedChat z vc := by
  have htop := topScreen_pushViewController (z := z) hsel hnot
  have hchats := chats_push_of_loaded (z := z) hnot hloaded
  obtain ⟨hfive, hshows⟩ := hs.loaded hloaded
  refine ⟨iff_of_true ⟨fun htrap => ?_, fun {chat} htop' => ?_⟩ hfive, fun _ => ?_⟩
  · exact hright.divides ((pushFrame z _ _ _).divides (by simp) htrap)
  · obtain rfl : Chatting.select vc = chat := by simpa [htop] using htop'
    rw [hchats]
    exact hshows
  · refine mannerNoted_push_chat hs fun {vc'} heq => ?_
    obtain rfl : vc = vc' := by simpa using heq
    rw [hchats]
    exact ⟨hloaded, hfive, hshows⟩

/-- **The reply `1`**: the score is that of the room, and so its average has to be `-5`. -/
theorem accounted_joined {a : NavigationAction} {vc : SelectJoinGame} (r : Request)
    (hlaid : s.ui.Laid) (hnoted : NotedDown myPk s) (hs : s.MannerNoted) (hright : s.FacesRight)
    (hjoins : a.joins = some vc) :
    s.Accounted z a ((s.answered r).answerPostRoomUser z vc (.decoded 1)) := by
  have hsame : SameScreens s ((s.answered r).setRoomInfo vc) :=
    (sameScreens_answered s r).trans (sameScreens_setRoomInfo _ vc)
  have hset : ((s.answered r).setRoomInfo vc).MannerNoted := hsame.opensNone.mannerNoted hnoted hs
  have hrightset : ((s.answered r).setRoomInfo vc).FacesRight :=
    hsame.opensNone.facesRight hlaid hnoted hright
  have hreaches : s.MannerReaches z a ↔
      (.selectJoinGame vc ∈ s.ui.stack .game → averageManner vc.roomInfo = some (-5)) := by
    obtain ⟨hhome, hmatching⟩ := homeRoom_of_not_tapsRow (s := s) (not_tapsRow_of_joins hjoins)
    rw [MannerReaches, hhome, hmatching, hjoins]
    simp
  rw [Accounted, hreaches, answerPostRoomUser, if_pos rfl]
  split_ifs with hthere
  · have hmem : .selectJoinGame vc ∈ s.ui.stack .game := hthere
    rw [forall_prop_of_true hmem]
    have hsel : ((s.answered r).setRoomInfo vc).ui.selected = .game :=
      hlaid.selected_of_mem (by simp) hmem
    have haverage := @MannerNoted.select _ hset vc hmem
    by_cases hchat : .joinChatting (.select vc) ∈ s.ui.stack .game
    · exact push_joined_of_mem hset hrightset hchat
    · cases hloaded : (((s.answered r).setRoomInfo vc).chats (.select vc)).viewLoaded with
      | false =>
        exact push_joined_of_first hset hrightset hsel hchat (roomInfo_setRoomInfo _ vc) haverage
          hloaded
      | true => exact push_joined_of_loaded hset hrightset hsel hchat hloaded
  · exact ⟨iff_of_true hrightset fun h => absurd h hthere, fun _ => hset⟩

/-! ### Runs -/

theorem accounted_step {a : NavigationAction} (hlaid : s.ui.Laid) (hnoted : NotedDown myPk s)
    (hs : s.MannerNoted) (hright : s.FacesRight) (h : s.step z myPk a = some t) :
    s.Accounted z a t := by
  have hnone : a.tapsRow = false → a.joins = none → OpensNone s t → s.Accounted z a t :=
    fun hrow hjoins hopens => hopens.accounted hlaid hnoted hs hright
      (mannerReaches_of_not_tapsRow hrow hjoins)
  rcases step_cases h with ⟨vc, r, hjoins, rfl⟩ | ⟨form, data, r, hcompletes, rfl⟩ |
    ⟨hjoins, -, hmove⟩
  · exact accounted_joined r hlaid hnoted hs hright hjoins
  · refine hnone (not_tapsRow_of_completes hcompletes)
      (NavigationAction.joins_of_completes hcompletes) ?_
    exact (leaveFrame_popForm s form).opensNone.trans
      (sameScreens_completed s r form data).opensNone
  · cases hmove with
    | still hrow hsame => exact hnone hrow hjoins hsame.opensNone
    | tabItem tab hbar => exact hnone rfl hjoins (leaveFrame_didSelectTab s tab).opensNone
    | left htop hleft => exact hnone rfl hjoins (leaveFrame_leftButton htop hleft).opensNone
    | createMatchingRoom hroot =>
      exact hnone rfl hjoins (opensNone_push _ (by simp) (by simp))
    | homeRow now hroot hroom => exact accounted_homeRow hlaid hnoted hs hright hroot hroom
    | changeTierRange htop =>
      exact hnone rfl hjoins (opensNone_push s.created (by simp) (by simp))
    | matchingRow hroot hroom => exact accounted_matchingRow hs hright hroot hroom
    | editProfile hroot => exact hnone rfl hjoins (opensNone_push s.created (by simp) (by simp))
    | administrateRow row hroot =>
      refine hnone rfl hjoins (opensNone_push _ (fun chat => ?_) fun vc => ?_)
      · rw [administrateScreen]
        split_ifs <;> simp
      · rw [administrateScreen]
        split_ifs <;> simp

/-- The tab bar controller is in order, the room noted down, and its manner too. -/
structure Averaged (myPk : ℤ) (s : Navigation) : Prop where
  sound : Sound myPk s
  manner : s.MannerNoted

theorem averaged_step (s : Navigation) (a : NavigationAction) (t : Navigation)
    (hs : Averaged myPk s) (hright : s.FacesRight) (ha : s.MannerReaches z a)
    (h : s.step z myPk a = some t) : Averaged myPk t :=
  ⟨sound_step s a t hs.sound h,
    (accounted_step (hs.sound.1 (act_of_step h).1) hs.sound.2 hs.manner hright h).2 ha⟩

theorem facesRight_step_iff (s : Navigation) (a : NavigationAction) (t : Navigation)
    (hs : Averaged myPk s) (hright : s.FacesRight) (h : s.step z myPk a = some t) :
    t.FacesRight ↔ s.MannerReaches z a :=
  (accounted_step (hs.sound.1 (act_of_step h).1) hs.sound.2 hs.manner hright h).1

/-- **The face in the header is that of the room, and no average is a division by zero,
throughout a run exactly when every room that is opened on the home list has users, every
room that is joined there has an average of `-5`, and every room opened on My Matching has
the face of the manner that was noted down last.** -/
theorem manner_faces_iff {as : List NavigationAction}
    (hr : run (step z myPk) signedIn as = some s) :
    Throughout (step z myPk) FacesRight signedIn as ↔
      Along (step z myPk) (MannerReaches z) signedIn as :=
  throughout_iff_along_of_kept averaged_step facesRight_step_iff
    ⟨sound_signedIn myPk, mannerNoted_signedIn⟩ facesRight_signedIn hr

/-- The room is opened, its join button tapped, and the reply is `1`. -/
def joinedOnce : List NavigationAction :=
  tapToJoin ++ [.postRoomUserReply openSelect 7 1 (.decoded 1)]

/-- **The average is 5, and the first face is shown.** -/
theorem joinedOnce_wrongFace :
    ∃ s, run (step (TimeZone.fixed 32400) 1) signedIn joinedOnce = some s ∧
      (s.chats (.select openSelect)).centerButtonItem = some "manner1_24x24" ∧
      averageManner openRoom = some 5 ∧
      highlightedFace (setMannerStatus [] 5) = some "manner3_24x24" ∧
      ¬Throughout (step (TimeZone.fixed 32400) 1) FacesRight signedIn joinedOnce := by
  have hr : run (step (TimeZone.fixed 32400) 1) signedIn joinedOnce = some _ := rfl
  refine ⟨_, hr, by decide, by decide, by decide, fun h => ?_⟩
  obtain ⟨room, hroom, average, haverage, hface⟩ :=
    @FacesRight.shown _ (h.last hr) (.select openSelect) (by decide)
  obtain rfl : openRoom = room := Option.some.inj hroom
  obtain rfl : 5 = average := Option.some.inj haverage
  exact absurd (hface []) (by decide)

/-- A room with the manner -10 for its two users. -/
def rudeRoom : GetRoomInfo :=
  { openRoom with roomManner := -10, userList := openRoom.userList ++ openRoom.userList }

/-- The room is joined from the home list, and its chat opened from My Matching later. -/
def rudeJoined : List NavigationAction :=
  [.gameList [rudeRoom], .tap (.homeRow 0 0), .tap .join,
    .postRoomUserReply { openSelect with roomInfo := rudeRoom } 7 1 (.decoded 1), .tap .left,
    .tap .left, .matchingList [rudeRoom], .tap (.tabItem .myMatching), .tap (.matchingRow 0)]

/-- Both ways the first face is the right one. -/
theorem rudeJoined_rightFace :
    Throughout (step (TimeZone.fixed 32400) 1) FacesRight signedIn rudeJoined := by
  have hr : run (step (TimeZone.fixed 32400) 1) signedIn rudeJoined = some _ := rfl
  exact (manner_faces_iff hr).mpr (by decide)

end Navigation

end Joinus
