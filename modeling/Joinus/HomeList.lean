import Mathlib.Data.List.Nodup
import Joinus.Base.Run
import Joinus.Room

/-!
# The home list

The list of rooms is fetched from three places: when the screen is loaded, when it is
pulled down, and when a room has been posted. All three call the same `getRoom`, which
replaces `gameList` by whatever decodes; what differs is the completion. That of
`viewDidLoad` puts the views on the screen – before it has run there is nothing to pull
and no button to post from – and that of `refreshTableView` stops the control that the
pull has set spinning.

Requests are numbered in the order in which they are sent. Two things are asked:

* does the list ever go back to an earlier request's reply? It does not exactly if the
  replies that decode arrive in the order of their requests
  (`Joinus.HomeList.neverBack_iff`);
* does the control spin with nothing to wait for? It does not exactly if the last refresh
  request outstanding does not fail while it spins (`Joinus.HomeList.spinnerStops_iff`).

A pull is offered at any time, also while the control spins, where UIKit would not
report it; nothing below depends on there being fewer. Making the cells is not part of the
steps; one whose room has a start date that cannot be read ends the app, in the forced
unwrap of `calculateStartTime`.
-/

namespace Joinus

open Base

/-! ### The screen -/

/-- The places that call `getRoom`. -/
inductive GetRoomCaller where
  /-- `HomeListViewController.viewDidLoad`. -/
  | viewDidLoad
  /-- `refreshTableView`. -/
  | refresh
  /-- The completion of `postRoom` in `didTapMakeMatchingRoomButton`. -/
  | posted
  deriving DecidableEq

/-- The screen and the requests not yet answered. `issued` counts the requests, and
`heldFrom` is the number of the one whose reply the list is; nothing reads either but
to number requests. -/
structure HomeList where
  isSetUp : Bool
  gameList : List GetRoomInfo
  isRefreshing : Bool
  issued : ℕ
  pending : List (ℕ × GetRoomCaller)
  heldFrom : Option ℕ

/-- The screen after `viewDidLoad`. -/
def HomeList.loaded : HomeList where
  isSetUp := false
  gameList := []
  isRefreshing := false
  issued := 1
  pending := [(0, .viewDidLoad)]
  heldFrom := none

inductive HomeAction where
  /-- The list is pulled down. -/
  | pull
  /-- `postRoom` has succeeded. -/
  | posted
  /-- A request is answered. -/
  | reply (number : ℕ) (r : Reply (List GetRoomInfo))

namespace HomeList

/-- `getRoom`, when it is called. -/
def getRoom (s : HomeList) (caller : GetRoomCaller) : HomeList :=
  { s with issued := s.issued + 1, pending := s.pending ++ [(s.issued, caller)] }

/-- The completions of the three calls, as far as they concern the screen. -/
def complete (s : HomeList) : GetRoomCaller → HomeList
  | .viewDidLoad => { s with isSetUp := true }
  | .refresh => { s with isRefreshing := false }
  | .posted => s

/-- `getRoom`, when it is answered. -/
def answer (s : HomeList) (number : ℕ) (caller : GetRoomCaller) :
    Reply (List GetRoomInfo) → HomeList
  | .decoded data =>
    ({ s with gameList := data, heldFrom := some number } : HomeList).complete caller
  -- neither branch runs the completion, so a control that spins goes on spinning
  | .undecodable => s
  | .failure => s

/-- `refreshTableView`: the control spins, and the rooms are fetched. -/
def refreshTableView (s : HomeList) : HomeList :=
  ({ s with isRefreshing := true } : HomeList).getRoom .refresh

def step (s : HomeList) : HomeAction → Option HomeList
  | .pull => if s.isSetUp then some s.refreshTableView else none
  | .posted => if s.isSetUp then some (s.getRoom .posted) else none
  | .reply number r =>
    match s.pending.lookup number with
    | none => none
    | some caller =>
      some (({ s with pending := s.pending.filter fun c => c.1 ≠ number } : HomeList).answer
        number caller r)

/-! ### What a step can do -/

theorem step_pull {s t : HomeList} (h : s.step .pull = some t) : t = s.refreshTableView := by
  rw [step] at h
  split_ifs at h
  exact (Option.some.inj h).symm

theorem step_posted {s t : HomeList} (h : s.step .posted = some t) : t = s.getRoom .posted := by
  rw [step] at h
  split_ifs at h
  exact (Option.some.inj h).symm

theorem step_reply {s t : HomeList} {number : ℕ} {r : Reply (List GetRoomInfo)}
    (h : s.step (.reply number r) = some t) :
    ∃ caller, (number, caller) ∈ s.pending ∧
      t = ({ s with pending := s.pending.filter fun c => c.1 ≠ number } : HomeList).answer
        number caller r := by
  rw [step] at h
  split at h
  · exact absurd h nofun
  · next caller hc =>
    obtain ⟨l₁, l₂, hl, -⟩ := List.lookup_eq_some_iff.mp hc
    refine ⟨caller, ?_, (Option.some.inj h).symm⟩
    rw [hl]
    exact List.mem_append_right _ List.mem_cons_self

/-- A completion does not touch the list, nor what is outstanding. -/
theorem complete_frame (s : HomeList) (caller : GetRoomCaller) :
    (s.complete caller).heldFrom = s.heldFrom ∧ (s.complete caller).pending = s.pending ∧
      (s.complete caller).issued = s.issued := by
  cases caller <;> exact ⟨rfl, rfl, rfl⟩

/-- **A number names one request**: those outstanding have different numbers, all of
them given out. -/
def Numbered (s : HomeList) : Prop :=
  (s.pending.map Prod.fst).Nodup ∧ ∀ c ∈ s.pending, c.1 < s.issued

theorem numbered_getRoom {s : HomeList} (hs : s.Numbered) (caller : GetRoomCaller) :
    (s.getRoom caller).Numbered := by
  obtain ⟨hnodup, hlt⟩ := hs
  refine ⟨?_, fun c hc => ?_⟩
  · rw [getRoom, List.map_append, List.nodup_append]
    refine ⟨hnodup, List.nodup_singleton _, fun n hn m hm => ?_⟩
    obtain ⟨c, hc, rfl⟩ := List.mem_map.mp hn
    rw [List.map_singleton, List.mem_singleton] at hm
    rw [hm]
    exact Nat.ne_of_lt (hlt c hc)
  · rw [getRoom, List.mem_append, List.mem_singleton] at hc
    rcases hc with hc | rfl
    · exact Nat.lt_succ_of_lt (hlt c hc)
    · exact Nat.lt_succ_self _

theorem numbered_step (s : HomeList) (a : HomeAction) (t : HomeList) (hs : s.Numbered)
    (h : s.step a = some t) : t.Numbered := by
  cases a with
  | pull =>
    rw [step_pull h]
    exact numbered_getRoom (s := { s with isRefreshing := true }) hs _
  | posted =>
    rw [step_posted h]
    exact numbered_getRoom hs _
  | reply number r =>
    obtain ⟨caller, -, rfl⟩ := step_reply h
    have hleft : ({ s with
        pending := s.pending.filter fun c => c.1 ≠ number } : HomeList).Numbered :=
      ⟨hs.1.sublist (List.filter_sublist.map _), fun c hc => hs.2 c (List.mem_of_mem_filter hc)⟩
    cases r with
    | decoded data =>
      obtain ⟨-, hpending, hissued⟩ := complete_frame
        { s with
          pending := s.pending.filter fun c => c.1 ≠ number
          gameList := data
          heldFrom := some number } caller
      rw [Numbered, answer, hpending, hissued]
      exact hleft
    | undecodable => exact hleft
    | failure => exact hleft

/-! ### The list and the order of the replies -/

/-- **The list does not go back**: a reply does not replace the reply to a request
that was sent later. -/
def NeverBack (s : HomeList) : HomeAction → Prop
  | .reply number (.decoded _) => ∀ held ∈ s.heldFrom, held ≤ number
  | _ => True

/-- The request that a reply answers, if the reply decodes. -/
def decodedNumber : HomeAction → Option ℕ
  | .reply number (.decoded _) => some number
  | _ => none

theorem decodedNumber_eq_some {a : HomeAction} {number : ℕ} :
    decodedNumber a = some number ↔ ∃ data, a = .reply number (.decoded data) := by
  constructor
  · intro h
    cases a with
    | reply k r =>
      cases r with
      | decoded data =>
        obtain rfl : k = number := Option.some.inj h
        exact ⟨data, rfl⟩
      | undecodable => exact absurd h nofun
      | failure => exact absurd h nofun
    | pull => exact absurd h nofun
    | posted => exact absurd h nofun
  · rintro ⟨data, rfl⟩
    rfl

/-- Events that decode nothing leave the list as it is. -/
theorem heldFrom_of_not_decoded {s t : HomeList} {a : HomeAction} (h : s.step a = some t)
    (ha : decodedNumber a = none) : t.heldFrom = s.heldFrom := by
  cases a with
  | pull => rw [step_pull h, refreshTableView, getRoom]
  | posted => rw [step_posted h, getRoom]
  | reply number r =>
    obtain ⟨caller, -, rfl⟩ := step_reply h
    cases r with
    | decoded data => exact absurd ha nofun
    | undecodable => rfl
    | failure => rfl

/-- From any state on, the list does not go back exactly if the replies that decode, and
before them the one the list holds, are in order. -/
theorem neverBack_iff_pairwise {s t : HomeList} {as : List HomeAction}
    (hr : run step s as = some t) :
    Along step NeverBack s as ↔
      (s.heldFrom.toList ++ as.filterMap decodedNumber).Pairwise (· ≤ ·) := by
  induction as generalizing s with
  | nil =>
    refine iff_of_true trivial ?_
    cases s.heldFrom <;> simp
  | cons a as ih =>
    obtain ⟨u, hsu, hrest⟩ := run_cons_eq_some.mp hr
    rw [along_cons_of_step hsu, ih hrest]
    by_cases ha : decodedNumber a = none
    · rw [heldFrom_of_not_decoded hsu ha, List.filterMap_cons_none ha]
      refine and_iff_right ?_
      cases a with
      | reply number r =>
        cases r with
        | decoded data => exact absurd ha nofun
        | undecodable => trivial
        | failure => trivial
      | pull => trivial
      | posted => trivial
    · obtain ⟨number, hnumber⟩ := Option.ne_none_iff_exists'.mp ha
      obtain ⟨data, rfl⟩ := decodedNumber_eq_some.mp hnumber
      obtain ⟨caller, -, rfl⟩ := step_reply hsu
      rw [NeverBack, answer, (complete_frame _ caller).1, List.filterMap_cons_some hnumber,
        Option.toList_some, List.singleton_append]
      -- what is held is compared with the next reply only: the rest follows by transitivity
      cases s.heldFrom with
      | none => simp
      | some held =>
        rw [Option.toList_some, List.singleton_append, List.pairwise_cons (a := held)]
        constructor
        · rintro ⟨hheld, hsorted⟩
          refine ⟨fun k hk => ?_, hsorted⟩
          have hle : held ≤ number := hheld held rfl
          rcases List.mem_cons.mp hk with rfl | hk
          · exact hle
          · exact Nat.le_trans hle ((List.pairwise_cons.mp hsorted).1 k hk)
        · rintro ⟨hheld, hsorted⟩
          refine ⟨fun k hk => ?_, hsorted⟩
          rw [← Option.some.inj hk]
          exact hheld number List.mem_cons_self

/-- **The list never goes back** exactly if the replies that decode arrive in the order
in which their requests were sent. -/
theorem neverBack_iff {t : HomeList} {as : List HomeAction} (hr : run step loaded as = some t) :
    Along step NeverBack loaded as ↔ (as.filterMap decodedNumber).Pairwise (· ≤ ·) :=
  neverBack_iff_pairwise hr

/-! ### The refresh control -/

/-- A refresh request is outstanding. -/
def RefreshPending (s : HomeList) : Prop := ∃ c ∈ s.pending, c.2 = .refresh

/-- **The control stops**: it does not spin unless a refresh request is outstanding. -/
def SpinnerStops (s : HomeList) : Prop := ¬s.RefreshPending → s.isRefreshing = false

/-- **No refresh fails for good**: a refresh request that is answered with nothing that
decodes, while the control spins, leaves another one outstanding. -/
def RefreshDecodes (s : HomeList) : HomeAction → Prop
  | .reply _ (.decoded _) => True
  | .reply number _ =>
    s.isRefreshing = true → ∃ c ∈ s.pending, c.1 ≠ number ∧ c.2 = .refresh
  | _ => True

instance (s : HomeList) : Decidable s.RefreshPending :=
  inferInstanceAs (Decidable (∃ c ∈ s.pending, _))

instance (s : HomeList) : Decidable s.SpinnerStops := inferInstanceAs (Decidable (_ → _))

instance (s : HomeList) : ∀ a, Decidable (NeverBack s a)
  | .reply _ (.decoded _) => inferInstanceAs (Decidable (∀ held ∈ s.heldFrom, _))
  | .reply _ .undecodable | .reply _ .failure | .pull | .posted => isTrue trivial

instance (s : HomeList) : ∀ a, Decidable (RefreshDecodes s a)
  | .reply _ .undecodable => inferInstanceAs (Decidable (_ → ∃ c ∈ s.pending, _))
  | .reply _ .failure => inferInstanceAs (Decidable (_ → ∃ c ∈ s.pending, _))
  | .reply _ (.decoded _) | .pull | .posted => isTrue trivial

/-- Taking out a request leaves the other refresh requests. -/
theorem refreshPending_filter {s : HomeList} {number : ℕ} :
    ({ s with pending := s.pending.filter fun c => c.1 ≠ number } : HomeList).RefreshPending ↔
      ∃ c ∈ s.pending, c.1 ≠ number ∧ c.2 = .refresh := by
  rw [RefreshPending]
  constructor
  · rintro ⟨c, hc, hrefresh⟩
    obtain ⟨hmem, hne⟩ := List.mem_filter.mp hc
    exact ⟨c, hmem, by simpa using hne, hrefresh⟩
  · rintro ⟨c, hmem, hne, hrefresh⟩
    exact ⟨c, List.mem_filter.mpr ⟨hmem, by simpa using hne⟩, hrefresh⟩

/-- A reply that does not decode: the control is as it was, the request is gone. -/
theorem spinnerStops_failed {s : HomeList} {number : ℕ} :
    ({ s with pending := s.pending.filter fun c => c.1 ≠ number } : HomeList).SpinnerStops ↔
      (s.isRefreshing = true → ∃ c ∈ s.pending, c.1 ≠ number ∧ c.2 = .refresh) := by
  rw [SpinnerStops, refreshPending_filter]
  cases s.isRefreshing with
  | false => simp
  | true => simp

theorem spinnerStops_step (s : HomeList) (a : HomeAction) (t : HomeList) (hs : s.Numbered)
    (hstops : s.SpinnerStops) (h : s.step a = some t) : t.SpinnerStops ↔ RefreshDecodes s a := by
  cases a with
  | pull =>
    rw [step_pull h]
    refine iff_of_true (fun hnone => absurd ?_ hnone) trivial
    exact ⟨(s.issued, .refresh), List.mem_append_right _ List.mem_cons_self, rfl⟩
  | posted =>
    rw [step_posted h]
    refine iff_of_true (fun hnone => hstops ?_) trivial
    rintro ⟨c, hc, hrefresh⟩
    exact hnone ⟨c, List.mem_append_left _ hc, hrefresh⟩
  | reply number r =>
    obtain ⟨caller, hmem, rfl⟩ := step_reply h
    cases r with
    | decoded data =>
      refine iff_of_true ?_ trivial
      by_cases hcaller : caller = .refresh
      · subst hcaller
        exact fun _ => rfl
      · -- no refresh request has gone, so the control is right as it was before
        intro hnone
        have hstill : s.isRefreshing = false := by
          refine hstops ?_
          rintro ⟨c, hc, hrefresh⟩
          refine hnone ?_
          have hne : c.1 ≠ number := by
            intro heq
            have := List.inj_on_of_nodup_map hs.1 hc hmem heq
            rw [this] at hrefresh
            exact hcaller hrefresh
          rw [RefreshPending, answer, (complete_frame _ caller).2.1]
          exact ⟨c, List.mem_filter.mpr ⟨hc, by simpa using hne⟩, hrefresh⟩
        cases caller with
        | viewDidLoad => exact hstill
        | refresh => rfl
        | posted => exact hstill
    | undecodable => exact spinnerStops_failed
    | failure => exact spinnerStops_failed

theorem numbered_loaded : Numbered loaded :=
  ⟨List.nodup_singleton 0, by simp [loaded]⟩

/-- **The control never spins for nothing** exactly if no refresh fails for good. -/
theorem spinnerStops_iff {t : HomeList} {as : List HomeAction}
    (hr : run step loaded as = some t) :
    Throughout step SpinnerStops loaded as ↔ Along step RefreshDecodes loaded as :=
  throughout_iff_along numbered_step spinnerStops_step numbered_loaded (fun _ => rfl) hr

/-- **When the home list keeps time**: over a whole run – pulls, postings, replies in any
order, each decoded or not – the list never goes back and the control never spins with no
refresh outstanding, exactly if the replies that decode arrive in the order of their
requests and no refresh fails for good. -/
theorem home_list_iff {t : HomeList} {as : List HomeAction} (hr : run step loaded as = some t) :
    (Along step NeverBack loaded as ∧ Throughout step SpinnerStops loaded as) ↔
      ((as.filterMap decodedNumber).Pairwise (· ≤ ·) ∧ Along step RefreshDecodes loaded as) :=
  and_congr (neverBack_iff hr) (spinnerStops_iff hr)

/-- A room on the list. -/
def newRoom : GetRoomInfo :=
  ⟨7, "room", "league of legends", 4, "2021-10-01 20-00-00", "2021-09-30 10-00-00", false, 0, 7, 0,
    1, 2, 10, []⟩

/-- A pull whose reply is overtaken by the reply to a posting, and a pull that fails. -/
def overtakenAndFailed : List HomeAction :=
  [.reply 0 (.decoded []), .pull, .posted, .reply 2 (.decoded [newRoom]), .reply 1 (.decoded []),
    .pull, .reply 3 .failure]

/-- **The posted room is gone from the list again, and the control spins for ever.** -/
theorem overtakenAndFailed_goes_back :
    ∃ s, run step loaded overtakenAndFailed = some s ∧ s.gameList = [] ∧ s.pending = [] ∧
      s.isRefreshing = true ∧ ¬Along step NeverBack loaded overtakenAndFailed ∧
      ¬Throughout step SpinnerStops loaded overtakenAndFailed := by
  have hr : run step loaded overtakenAndFailed = some _ := rfl
  exact ⟨_, hr, rfl, rfl, rfl, by decide, fun h => absurd (h.last hr) (by decide)⟩

/-- The same events with the replies in order, and both pulls answered. -/
def inOrder : List HomeAction :=
  [.reply 0 (.decoded []), .pull, .posted, .reply 1 (.decoded []), .reply 2 (.decoded [newRoom]),
    .pull, .reply 3 (.decoded [newRoom])]

/-- With the replies in order the posted room stays, and the control stops. -/
theorem inOrder_keeps_time :
    ∃ s, run step loaded inOrder = some s ∧ s.gameList = [newRoom] ∧
      Along step NeverBack loaded inOrder ∧ Throughout step SpinnerStops loaded inOrder := by
  have hr : run step loaded inOrder = some _ := rfl
  exact ⟨_, hr, rfl, (home_list_iff hr).mpr ⟨by decide, by decide⟩⟩

end HomeList

end Joinus
