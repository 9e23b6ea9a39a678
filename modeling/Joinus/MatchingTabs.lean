import Mathlib.Data.List.Induction
import Joinus.MyMatching

/-!
# The tabs of My Matching

A tap on a tab selects it at once and sends a request; the list is replaced, and the
picture for an empty list chosen, when a reply decodes. The two kinds of request
write the same list and the same three flags, and nothing compares a reply with the
tab that is selected by then. So what the screen shows when every request has been
answered is decided by the reply that decoded *last*, and a request that fails
decides nothing.

Tab and list can therefore come apart in two ways: the replies to two taps change
places, or the reply to the last tap does not decode. Over a whole run they never do
exactly if the reply that leaves no request outstanding fits the selected tab each
time (`Joinus.MatchingScreen.selected_tab_shown_iff`): it decodes and answers a
request of that tab, or it does not decode and the list was that tab's before.

What is shown always fits the *list*, though: one of the table and the two pictures, never
an empty table (`Joinus.MatchingScreen.views_shown`).

Here a request may be answered with any list: `Joinus.MatchingScreen.next` is the
step of the screen without the assumption on the server
(`Joinus.MatchingScreen.next_of_step`).
-/

namespace Joinus

open Base

namespace MatchingScreen

/-- A step of the screen, whatever the server answers. -/
def next (s : MatchingScreen) : MatchingAction → Option MatchingScreen
  | .tapJoined => s.tapTab .joinedButton
  | .tapMade => s.tapTab .madeButton
  | .reply i r =>
    match s.pending[i]? with
    | none => none
    | some c => some (({ s with pending := s.pending.eraseIdx i } : MatchingScreen).answer c r)
  | .selectRow row =>
    match s.didSelectRowAt row with
    | none => none
    | some chat => some { s with chat := some chat }
  | .leaveChat =>
    match s.chat with
    | none => none
    | some _ => some { s with chat := none }

/-- The step under the assumption on the server is a step without it. -/
theorem next_of_step {myPk : ℤ} {s t : MatchingScreen} {a : MatchingAction}
    (h : s.step myPk a = some t) : s.next a = some t := by
  cases a with
  | reply i r =>
    rw [step] at h
    rw [next]
    cases hi : s.pending[i]? with
    | none => simp [hi] at h
    | some c =>
      simp only [hi] at h
      split_ifs at h
      exact h
  | _ => exact h

/-- The loader of the tab that is selected. -/
def selectedTab (s : MatchingScreen) : MatchingLoader :=
  if s.madeMatchingButton then .getMakeRoom else .getJoinRoom

/-- **The selected tab is shown** once no request is outstanding: the list is the
content of a reply to a request of that tab, and a picture that is shown is the tab's
own. -/
def SelectedTabShown (s : MatchingScreen) : Prop :=
  s.pending = [] →
    s.loadedBy = some s.selectedTab ∧
      (s.noCountJoinedHidden = false → s.selectedTab = .getJoinRoom) ∧
      (s.noCountMadeHidden = false → s.selectedTab = .getMakeRoom)

/-- **The last reply fits the selected tab**: if it decodes, it answers a request of
that tab, and if it does not, the list is that tab's already. -/
def LastReplyFits (s : MatchingScreen) : MatchingAction → Prop
  | .reply i (.decoded _) =>
    s.pending.length = 1 → s.pending[i]?.map MatchingCall.loader = some s.selectedTab
  | .reply _ _ => s.pending.length = 1 → s.loadedBy = some s.selectedTab
  | _ => True

instance (s : MatchingScreen) : Decidable s.SelectedTabShown :=
  inferInstanceAs (Decidable (_ → _ ∧ _ ∧ _))

instance (s : MatchingScreen) : ∀ a, Decidable (LastReplyFits s a)
  | .reply _ (.decoded _) => inferInstanceAs (Decidable (_ → _))
  | .reply _ .undecodable => inferInstanceAs (Decidable (_ → _))
  | .reply _ .failure => inferInstanceAs (Decidable (_ → _))
  | .tapJoined | .tapMade | .selectRow _ | .leaveChat => isTrue trivial

/-! ### What a step can do -/

theorem tapTab_eq_some {s t : MatchingScreen} {c : MatchingCall} (h : s.tapTab c = some t) :
    s.isSetUp = true ∧ t = { s.buttonsStatus c.loader with pending := s.pending ++ [c] } := by
  rw [tapTab] at h
  split_ifs at h with hshown
  exact ⟨hshown.1, (Option.some.inj h).symm⟩

theorem next_reply {s t : MatchingScreen} {i : ℕ} {r : Reply (List GetRoomInfo)}
    (h : s.next (.reply i r) = some t) :
    ∃ c, s.pending[i]? = some c ∧
      t = ({ s with pending := s.pending.eraseIdx i } : MatchingScreen).answer c r := by
  rw [next] at h
  split at h
  · exact absurd h nofun
  · next c hi => exact ⟨c, hi, (Option.some.inj h).symm⟩

/-- Rows and the back button of the chat move between list and chat only. -/
theorem next_chat {s t : MatchingScreen} {a : MatchingAction}
    (ha : (∃ row, a = .selectRow row) ∨ a = .leaveChat) (h : s.next a = some t) :
    ∃ chat, t = { s with chat := chat } := by
  rcases ha with ⟨row, rfl⟩ | rfl
  · rw [next] at h
    split at h
    · exact absurd h nofun
    · exact ⟨_, (Option.some.inj h).symm⟩
  · rw [next] at h
    split at h
    · exact absurd h nofun
    · exact ⟨_, (Option.some.inj h).symm⟩

/-- A completion sets up the screen and moves pictures, and nothing else. -/
theorem complete_frame (s : MatchingScreen) (c : MatchingCall) :
    (s.complete c).pending = s.pending ∧
      (s.complete c).madeMatchingButton = s.madeMatchingButton := by
  cases c <;> simp only [complete, setupView, showList] <;> split_ifs <;> exact ⟨rfl, rfl⟩

theorem selectedTab_complete (s : MatchingScreen) (c : MatchingCall) :
    (s.complete c).selectedTab = s.selectedTab := by
  rw [selectedTab, selectedTab, (complete_frame s c).2]

/-- The one request outstanding is the one that is answered last. -/
theorem eraseIdx_eq_nil_iff {s : MatchingScreen} {i : ℕ} {c : MatchingCall}
    (hi : s.pending[i]? = some c) : s.pending.eraseIdx i = [] ↔ s.pending.length = 1 := by
  have hlt : i < s.pending.length := (List.getElem?_eq_some_iff.mp hi).1
  rw [← List.length_eq_zero_iff, List.length_eraseIdx_of_lt hlt]
  omega

/-! ### Pictures belong to the list -/

/-- **The invariant**: before the screen is set up at most its first request is
outstanding and no picture is shown; afterwards a picture that is shown belongs to
the loader of the list. -/
structure PicturesOfList (s : MatchingScreen) : Prop where
  first : s.isSetUp = false → s.pending = [.viewDidLoad] ∨ s.pending = []
  hidden : s.isSetUp = false → s.noCountJoinedHidden = true ∧ s.noCountMadeHidden = true
  later : s.isSetUp = true → .viewDidLoad ∉ s.pending
  joined : s.noCountJoinedHidden = false → s.loadedBy = some .getJoinRoom
  made : s.noCountMadeHidden = false → s.loadedBy = some .getMakeRoom

theorem picturesOfList_loaded : PicturesOfList loaded :=
  ⟨fun _ => Or.inl rfl, fun _ => ⟨rfl, rfl⟩, nofun, nofun, nofun⟩

theorem picturesOfList_of_isSetUp {s : MatchingScreen} (hsetUp : s.isSetUp = true)
    (hlater : .viewDidLoad ∉ s.pending)
    (hjoined : s.noCountJoinedHidden = false → s.loadedBy = some .getJoinRoom)
    (hmade : s.noCountMadeHidden = false → s.loadedBy = some .getMakeRoom) :
    s.PicturesOfList :=
  ⟨fun h => absurd (hsetUp.symm.trans h) nofun, fun h => absurd (hsetUp.symm.trans h) nofun,
    fun _ => hlater, hjoined, hmade⟩

theorem picturesOfList_tapTab {s t : MatchingScreen} {c : MatchingCall} (hs : s.PicturesOfList)
    (hc : c ≠ .viewDidLoad) (h : s.tapTab c = some t) : t.PicturesOfList := by
  obtain ⟨hsetUp, rfl⟩ := tapTab_eq_some h
  have hlater : MatchingCall.viewDidLoad ∉ s.pending ++ [c] := by
    rw [List.mem_append, List.mem_singleton]
    rintro (hmem | hmem)
    · exact hs.later hsetUp hmem
    · exact hc hmem.symm
  cases hl : c.loader with
  | getJoinRoom => exact picturesOfList_of_isSetUp hsetUp hlater hs.joined hs.made
  | getMakeRoom => exact picturesOfList_of_isSetUp hsetUp hlater hs.joined hs.made

/-- The two buttons have the same completion, up to the picture. -/
theorem complete_of_ne {c : MatchingCall} (hc : c ≠ .viewDidLoad) (s : MatchingScreen) :
    s.complete c = s.showList c.loader := by
  cases c with
  | viewDidLoad => exact absurd rfl hc
  | joinedButton => rfl
  | madeButton => rfl

/-- No picture is shown with a list but the one that belongs to it. -/
theorem showList_pictures (s : MatchingScreen) (l : MatchingLoader) :
    ((s.showList l).noCountJoinedHidden = false → l = .getJoinRoom) ∧
      ((s.showList l).noCountMadeHidden = false → l = .getMakeRoom) ∧
      (s.showList l).isSetUp = s.isSetUp := by
  rw [showList]
  split_ifs with hempty
  · exact ⟨by simp, by simp, rfl⟩
  · exact ⟨by simp, by simp, rfl⟩

/-- A reply that decodes leaves no picture but that of its own loader. -/
theorem picturesOfList_answer {s : MatchingScreen} {i : ℕ} {c : MatchingCall}
    (hs : s.PicturesOfList) (hi : s.pending[i]? = some c) (data : List GetRoomInfo) :
    (({ s with pending := s.pending.eraseIdx i } : MatchingScreen).answer c
      (.decoded data)).PicturesOfList := by
  have hmem : c ∈ s.pending := List.mem_of_getElem? hi
  by_cases hc : c = .viewDidLoad
  · subst hc
    -- the first reply: it finds both pictures hidden, and no other request
    have hsetUp : s.isSetUp = false := by
      by_contra hnot
      exact hs.later (by simpa using hnot) hmem
    obtain ⟨hjoined, hmade⟩ := hs.hidden hsetUp
    have hnone : MatchingCall.viewDidLoad ∉ s.pending.eraseIdx i := by
      rcases hs.first hsetUp with hp | hp
      · rw [(eraseIdx_eq_nil_iff hi).mpr (by rw [hp]; rfl)]
        exact List.not_mem_nil
      · rw [hp] at hmem
        exact absurd hmem List.not_mem_nil
    simp only [answer, complete, setupView, MatchingCall.loader]
    split_ifs
    · exact picturesOfList_of_isSetUp rfl hnone (fun _ => rfl) (by simp)
    · exact picturesOfList_of_isSetUp rfl hnone (fun _ => rfl)
        fun h => absurd (hmade.symm.trans h) (by simp)
  · have hsetUp : s.isSetUp = true := by
      by_contra hnot
      rcases hs.first (by simpa using hnot) with hp | hp
      · rw [hp, List.mem_singleton] at hmem
        exact hc hmem
      · rw [hp] at hmem
        exact absurd hmem List.not_mem_nil
    obtain ⟨u, hu⟩ : ∃ u : MatchingScreen, u =
        { s with
          pending := s.pending.eraseIdx i
          matchingList := data
          loadedBy := some c.loader } := ⟨_, rfl⟩
    rw [answer, complete_of_ne hc, ← hu]
    obtain ⟨hjoined, hmade, hset⟩ := showList_pictures u c.loader
    have hframe := complete_frame u c
    rw [complete_of_ne hc] at hframe
    have hloaded : (u.showList c.loader).loadedBy = some c.loader := by
      rw [← complete_of_ne hc, (matchingList_complete u c).2, hu]
    refine picturesOfList_of_isSetUp (hset.trans (hu ▸ hsetUp)) ?_ ?_ ?_
    · rw [hframe.1, hu]
      exact fun h => hs.later hsetUp (List.mem_of_mem_eraseIdx h)
    · exact fun h => hloaded.trans (congrArg some (hjoined h))
    · exact fun h => hloaded.trans (congrArg some (hmade h))

/-- A reply that does not decode takes out its request. -/
theorem picturesOfList_eraseIdx {s : MatchingScreen} (hs : s.PicturesOfList) (i : ℕ) :
    ({ s with pending := s.pending.eraseIdx i } : MatchingScreen).PicturesOfList := by
  refine { hs with
    first := fun h => ?_
    later := fun h hmem => hs.later h (List.mem_of_mem_eraseIdx hmem) }
  dsimp only
  rcases hs.first h with hp | hp
  · rw [hp]
    cases i with
    | zero => exact Or.inr rfl
    | succ i => exact Or.inl rfl
  · rw [hp]
    exact Or.inr rfl

theorem picturesOfList_next (s : MatchingScreen) (a : MatchingAction) (t : MatchingScreen)
    (hs : s.PicturesOfList) (h : s.next a = some t) : t.PicturesOfList := by
  cases a with
  | tapJoined => exact picturesOfList_tapTab (c := .joinedButton) hs nofun h
  | tapMade => exact picturesOfList_tapTab (c := .madeButton) hs nofun h
  | reply i r =>
    obtain ⟨c, hi, rfl⟩ := next_reply h
    cases r with
    | decoded data => exact picturesOfList_answer hs hi data
    | undecodable => exact picturesOfList_eraseIdx hs i
    | failure => exact picturesOfList_eraseIdx hs i
  | selectRow row =>
    obtain ⟨chat, rfl⟩ := next_chat (Or.inl ⟨row, rfl⟩) h
    exact { hs with }
  | leaveChat =>
    obtain ⟨chat, rfl⟩ := next_chat (Or.inr rfl) h
    exact { hs with }

/-! ### Tab and list -/

/-- Where list and tab belong together, so do the pictures. -/
theorem selectedTabShown_iff {s : MatchingScreen} (hs : s.PicturesOfList) :
    s.SelectedTabShown ↔ (s.pending = [] → s.loadedBy = some s.selectedTab) := by
  constructor
  · exact fun h hp => (h hp).1
  · intro h hp
    have htab := h hp
    refine ⟨htab, fun hj => ?_, fun hm => ?_⟩
    · exact Option.some.inj (htab.symm.trans (hs.joined hj))
    · exact Option.some.inj (htab.symm.trans (hs.made hm))

/-- Which steps keep tab and list together. -/
theorem selectedTabShown_next_iff (s : MatchingScreen) (a : MatchingAction) (t : MatchingScreen)
    (hs : s.PicturesOfList) (hshown : s.SelectedTabShown) (h : s.next a = some t) :
    t.SelectedTabShown ↔ LastReplyFits s a := by
  have htap : ∀ c, s.tapTab c = some t → t.SelectedTabShown := by
    intro c hc hp
    obtain ⟨-, rfl⟩ := tapTab_eq_some hc
    exact absurd hp (by simp)
  rw [selectedTabShown_iff (picturesOfList_next s a t hs h)]
  cases a with
  | tapJoined => exact iff_of_true (fun hp => (htap _ h hp).1) trivial
  | tapMade => exact iff_of_true (fun hp => (htap _ h hp).1) trivial
  | reply i r =>
    obtain ⟨c, hi, rfl⟩ := next_reply h
    cases r with
    | decoded data =>
      rw [LastReplyFits, hi, answer, (complete_frame _ c).1, selectedTab_complete,
        (matchingList_complete _ c).2]
      dsimp only
      rw [eraseIdx_eq_nil_iff hi]
      exact Iff.rfl
    | undecodable =>
      rw [LastReplyFits, answer, eraseIdx_eq_nil_iff hi]
      · exact Iff.rfl
      · intro data hdata
        cases hdata
    | failure =>
      rw [LastReplyFits, answer, eraseIdx_eq_nil_iff hi]
      · exact Iff.rfl
      · intro data hdata
        cases hdata
  | selectRow row =>
    obtain ⟨chat, rfl⟩ := next_chat (Or.inl ⟨row, rfl⟩) h
    exact iff_of_true (fun hp => (hshown hp).1) trivial
  | leaveChat =>
    obtain ⟨chat, rfl⟩ := next_chat (Or.inr rfl) h
    exact iff_of_true (fun hp => (hshown hp).1) trivial

/-- **What `loadedBy` remembers**: the list, once there is one, is the content of a
reply to a request of that loader. -/
theorem exists_reply_of_loadedBy {t : MatchingScreen} {l : MatchingLoader}
    {as : List MatchingAction} (hr : run next loaded as = some t) (hl : t.loadedBy = some l) :
    ∃ pre i u c, pre ++ [.reply i (.decoded t.matchingList)] <+: as ∧
      run next loaded pre = some u ∧ u.pending[i]? = some c ∧ c.loader = l := by
  induction as using List.reverseRecOn generalizing t with
  | nil =>
    obtain rfl : loaded = t := by simpa using hr
    exact absurd hl nofun
  | append_singleton as a ih =>
    obtain ⟨u, hu, hlast⟩ := run_append_eq_some.mp hr
    obtain ⟨t', hstep, hnil⟩ := run_cons_eq_some.mp hlast
    obtain rfl : t' = t := by simpa using hnil
    -- a step that leaves the list alone leaves the reply it came from
    have hsame : u.matchingList = t'.matchingList → u.loadedBy = t'.loadedBy →
        ∃ pre i v c, pre ++ [.reply i (.decoded t'.matchingList)] <+: as ++ [a] ∧
          run next loaded pre = some v ∧ v.pending[i]? = some c ∧ c.loader = l := by
      intro hlist hby
      obtain ⟨pre, i, v, c, hpre, hv, hi, hc⟩ := ih hu (hby.trans hl)
      rw [hlist] at hpre
      exact ⟨pre, i, v, c, hpre.trans (List.prefix_append as [a]), hv, hi, hc⟩
    have htap : ∀ c, u.tapTab c = some t' → u.matchingList = t'.matchingList ∧
        u.loadedBy = t'.loadedBy := by
      intro c hc
      obtain ⟨-, rfl⟩ := tapTab_eq_some hc
      exact ⟨(matchingList_buttonsStatus u _).symm, (loadedBy_buttonsStatus u _).symm⟩
    cases a with
    | tapJoined => exact hsame (htap _ hstep).1 (htap _ hstep).2
    | tapMade => exact hsame (htap _ hstep).1 (htap _ hstep).2
    | reply i r =>
      obtain ⟨c, hi, rfl⟩ := next_reply hstep
      cases r with
      | decoded data =>
        rw [answer, (matchingList_complete _ c).2] at hl
        rw [answer, (matchingList_complete _ c).1]
        exact ⟨as, i, u, c, List.prefix_rfl, hu, hi, Option.some.inj hl⟩
      | undecodable => exact hsame rfl rfl
      | failure => exact hsame rfl rfl
    | selectRow row =>
      obtain ⟨chat, rfl⟩ := next_chat (Or.inl ⟨row, rfl⟩) hstep
      exact hsame rfl rfl
    | leaveChat =>
      obtain ⟨chat, rfl⟩ := next_chat (Or.inr rfl) hstep
      exact hsame rfl rfl

/-- The rooms that have been made arrive after those that have been joined. -/
theorem made_remembered :
    ∃ s, run next loaded [.reply 0 (.decoded []), .tapMade,
        .reply 0 (.decoded [someoneElsesRoom])] = some s ∧
      ∃ pre i u c, pre ++ [.reply i (.decoded [someoneElsesRoom])] <+:
          [.reply 0 (.decoded []), .tapMade, .reply 0 (.decoded [someoneElsesRoom])] ∧
        run next loaded pre = some u ∧ u.pending[i]? = some c ∧ c.loader = .getMakeRoom := by
  have hr : run next loaded [.reply 0 (.decoded []), .tapMade,
      .reply 0 (.decoded [someoneElsesRoom])] = some _ := rfl
  exact ⟨_, hr, exists_reply_of_loadedBy hr rfl⟩

/-- **When My Matching shows the list of the selected tab**: over a whole run – taps on
the tabs in any order, replies in any order, each decoded or not – exactly when every
reply that leaves no request outstanding fits the tab selected by then. -/
theorem selected_tab_shown_iff {t : MatchingScreen} {as : List MatchingAction}
    (hr : run next loaded as = some t) :
    Throughout next SelectedTabShown loaded as ↔ Along next LastReplyFits loaded as :=
  throughout_iff_along picturesOfList_next selectedTabShown_next_iff picturesOfList_loaded
    (fun h => absurd h nofun) hr

/-- A room made by user `1`. -/
def ownRoom : GetRoomInfo := { someoneElsesRoom with roomPk := 8, leaderPk := 1 }

/-- A look at the made tab and back to the joined one; the replies to the two taps change
places. -/
def repliesOvertake : List MatchingAction :=
  [.reply 0 (.decoded [someoneElsesRoom]), .tapMade, .tapJoined,
    .reply 1 (.decoded [someoneElsesRoom]), .reply 0 (.decoded [ownRoom])]

/-- **The joined tab with the rooms the user has made**, and nothing outstanding that
would change it. -/
theorem repliesOvertake_mixes :
    ∃ s, run next loaded repliesOvertake = some s ∧ s.pending = [] ∧
      s.selectedTab = .getJoinRoom ∧ s.matchingList = [ownRoom] ∧
      ¬Throughout next SelectedTabShown loaded repliesOvertake := by
  have hr : run next loaded repliesOvertake = some _ := rfl
  exact ⟨_, hr, by decide, by decide, by decide, fun h => absurd (h.last hr) (by decide)⟩

/-- The same taps, with the replies in their order. -/
def repliesInOrder : List MatchingAction :=
  [.reply 0 (.decoded [someoneElsesRoom]), .tapMade, .tapJoined,
    .reply 0 (.decoded [ownRoom]), .reply 0 (.decoded [someoneElsesRoom])]

/-- With the replies in their order, the joined tab has its own rooms. -/
theorem repliesInOrder_matches :
    ∃ s, run next loaded repliesInOrder = some s ∧ s.matchingList = [someoneElsesRoom] ∧
      Throughout next SelectedTabShown loaded repliesInOrder := by
  have hr : run next loaded repliesInOrder = some _ := rfl
  exact ⟨_, hr, by decide, (selected_tab_shown_iff hr).mpr (by decide)⟩

/-! ### One view out of three -/

/-- **The views are those of the list**: the table, unless the list is empty, and otherwise the
picture of the loader that has emptied it. -/
structure ViewsOfList (s : MatchingScreen) : Prop where
  loaded : s.loadedBy ≠ none
  table : s.tableHidden = true ↔ s.matchingList = []
  joined : s.noCountJoinedHidden = false ↔ s.matchingList = [] ∧ s.loadedBy = some .getJoinRoom
  made : s.noCountMadeHidden = false ↔ s.matchingList = [] ∧ s.loadedBy = some .getMakeRoom

/-- Before the views are on screen, none of them has been touched. -/
structure Untouched (s : MatchingScreen) : Prop where
  table : s.tableHidden = false
  joined : s.noCountJoinedHidden = true
  made : s.noCountMadeHidden = true

/-- The completions of the two buttons. -/
theorem viewsOfList_showList {s : MatchingScreen} {l : MatchingLoader}
    (hl : s.loadedBy = some l) : (s.showList l).ViewsOfList := by
  rw [showList]
  by_cases hempty : s.matchingList = []
  · rw [if_pos (List.isEmpty_iff.mpr hempty)]
    exact ⟨by simp [hl], by simp [hempty], by cases l <;> simp [hempty, hl],
      by cases l <;> simp [hempty, hl]⟩
  · rw [if_neg fun h => hempty (List.isEmpty_iff.mp h)]
    exact ⟨by simp [hl], by simp [hempty], by simp [hempty], by simp [hempty]⟩

/-- The completion of the first request finds the views as they were made. -/
theorem viewsOfList_setupView {s : MatchingScreen} (hs : s.Untouched)
    (hl : s.loadedBy = some .getJoinRoom) : s.setupView.ViewsOfList := by
  rw [setupView]
  by_cases hempty : s.matchingList = []
  · rw [if_pos (List.isEmpty_iff.mpr hempty)]
    exact ⟨by simp [hl], by simp [hempty], by simp [hempty, hl], by simp [hl]⟩
  · rw [if_neg fun h => hempty (List.isEmpty_iff.mp h)]
    exact ⟨by simp [hl], by simp [hempty, hs.table], by simp [hempty, hs.joined],
      by simp [hempty, hs.made]⟩

/-- **The invariant**, before the screen is set up and after. -/
structure ViewsInOrder (s : MatchingScreen) : Prop where
  pictures : s.PicturesOfList
  before : s.isSetUp = false → s.Untouched
  after : s.isSetUp = true → s.ViewsOfList

theorem viewsInOrder_loaded : ViewsInOrder loaded :=
  ⟨picturesOfList_loaded, fun _ => ⟨rfl, rfl, rfl⟩, nofun⟩

/-- The first request is outstanding until the screen is set up. -/
theorem viewDidLoad_of_not_isSetUp {s : MatchingScreen} (hs : s.PicturesOfList) {i : ℕ}
    {c : MatchingCall} (hi : s.pending[i]? = some c) :
    c = .viewDidLoad ↔ s.isSetUp = false := by
  have hmem : c ∈ s.pending := List.mem_of_getElem? hi
  constructor
  · rintro rfl
    by_contra hnot
    exact hs.later (by simpa using hnot) hmem
  · intro hsetUp
    rcases hs.first hsetUp with hp | hp
    · rw [hp] at hmem
      exact List.mem_singleton.mp hmem
    · rw [hp] at hmem
      exact absurd hmem List.not_mem_nil

theorem viewsInOrder_answer {s : MatchingScreen} {i : ℕ} {c : MatchingCall}
    (hs : s.ViewsInOrder) (hi : s.pending[i]? = some c) (data : List GetRoomInfo) :
    (({ s with pending := s.pending.eraseIdx i } : MatchingScreen).answer c
      (.decoded data)).ViewsInOrder := by
  have hpictures := picturesOfList_answer hs.pictures hi data
  refine ⟨hpictures, fun hnot => ?_, fun _ => ?_⟩
  · -- whatever is answered, the screen is set up afterwards
    exfalso
    rcases eq_or_ne c .viewDidLoad with rfl | hc
    · simp only [answer, complete, setupView] at hnot
      split_ifs at hnot
    · rw [answer, complete_of_ne hc, (showList_pictures _ _).2.2] at hnot
      exact hc ((viewDidLoad_of_not_isSetUp hs.pictures hi).mpr hnot)
  · rcases eq_or_ne c .viewDidLoad with rfl | hc
    · have hbefore := hs.before ((viewDidLoad_of_not_isSetUp hs.pictures hi).mp rfl)
      exact viewsOfList_setupView ⟨hbefore.table, hbefore.joined, hbefore.made⟩ rfl
    · rw [answer, complete_of_ne hc]
      exact viewsOfList_showList rfl

theorem viewsInOrder_next (s : MatchingScreen) (a : MatchingAction) (t : MatchingScreen)
    (hs : s.ViewsInOrder) (h : s.next a = some t) : t.ViewsInOrder := by
  have hpictures := picturesOfList_next s a t hs.pictures h
  have htap : ∀ c, s.tapTab c = some t → t.ViewsInOrder := by
    intro c hc
    obtain ⟨hsetUp, rfl⟩ := tapTab_eq_some hc
    refine ⟨hpictures, fun hnot => ?_, fun _ => ?_⟩
    · cases hl : c.loader <;> rw [hl] at hnot <;> exact absurd (hsetUp.symm.trans hnot) nofun
    · have hafter := hs.after hsetUp
      cases c.loader <;> exact ⟨hafter.loaded, hafter.table, hafter.joined, hafter.made⟩
  have hsame : ∀ {u : MatchingScreen}, u.PicturesOfList → u.isSetUp = s.isSetUp →
      (s.Untouched → u.Untouched) → (s.ViewsOfList → u.ViewsOfList) → u.ViewsInOrder :=
    fun hu hset hbefore hafter => ⟨hu, fun hnot => hbefore (hs.before (hset ▸ hnot)),
      fun hsetUp => hafter (hs.after (hset ▸ hsetUp))⟩
  cases a with
  | tapJoined => exact htap _ h
  | tapMade => exact htap _ h
  | reply i r =>
    obtain ⟨c, hi, rfl⟩ := next_reply h
    cases r with
    | decoded data => exact viewsInOrder_answer hs hi data
    | undecodable =>
      exact hsame hpictures rfl (fun hu => ⟨hu.table, hu.joined, hu.made⟩)
        fun hu => ⟨hu.loaded, hu.table, hu.joined, hu.made⟩
    | failure =>
      exact hsame hpictures rfl (fun hu => ⟨hu.table, hu.joined, hu.made⟩)
        fun hu => ⟨hu.loaded, hu.table, hu.joined, hu.made⟩
  | selectRow row =>
    obtain ⟨chat, rfl⟩ := next_chat (Or.inl ⟨row, rfl⟩) h
    exact hsame hpictures rfl (fun hu => ⟨hu.table, hu.joined, hu.made⟩)
      fun hu => ⟨hu.loaded, hu.table, hu.joined, hu.made⟩
  | leaveChat =>
    obtain ⟨chat, rfl⟩ := next_chat (Or.inr rfl) h
    exact hsame hpictures rfl (fun hu => ⟨hu.table, hu.joined, hu.made⟩)
      fun hu => ⟨hu.loaded, hu.table, hu.joined, hu.made⟩

/-- **My Matching never shows an empty table, nor a picture over rooms**: in every run, with any
replies in any order, from the moment the views are on screen exactly one of the three is
shown – the table if the list has rooms, and otherwise the picture of the loader whose reply
the list is. -/
theorem views_shown {t : MatchingScreen} {as : List MatchingAction}
    (hr : run next loaded as = some t) (hsetUp : t.isSetUp = true) :
    (t.tableHidden = true ↔ t.matchingList = []) ∧
      (t.noCountJoinedHidden = false ↔
        t.matchingList = [] ∧ t.loadedBy = some .getJoinRoom) ∧
      (t.noCountMadeHidden = false ↔
        t.matchingList = [] ∧ t.loadedBy = some .getMakeRoom) ∧
      (t.loadedBy = some .getJoinRoom ∨ t.loadedBy = some .getMakeRoom) := by
  have hviews := (run_invariant viewsInOrder_next viewsInOrder_loaded hr).after hsetUp
  refine ⟨hviews.table, hviews.joined, hviews.made, ?_⟩
  cases hl : t.loadedBy with
  | none => exact absurd hl hviews.loaded
  | some l => cases l <;> simp

/-- The user has joined a room and made none. -/
theorem noRoomsMade_shown :
    ∃ s, run next loaded [.reply 0 (.decoded [someoneElsesRoom]), .tapMade,
        .reply 0 (.decoded [])] = some s ∧
      s.noCountMadeHidden = false ∧ s.noCountJoinedHidden ≠ false := by
  have hr : run next loaded [.reply 0 (.decoded [someoneElsesRoom]), .tapMade,
      .reply 0 (.decoded [])] = some _ := rfl
  obtain ⟨-, hjoined, hmade, -⟩ := views_shown hr rfl
  exact ⟨_, hr, hmade.mpr ⟨rfl, rfl⟩, fun h => absurd (hjoined.mp h).2 nofun⟩

end MatchingScreen

end Joinus
