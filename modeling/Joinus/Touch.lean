import Mathlib.Data.List.Induction
import Mathlib.Logic.Function.Basic

/-!
# Buttons that are dimmed while they are held

Nine screens have a button that is dimmed while a finger holds it, and that does what it is
for when the finger is lifted from it. All of them go through one function of one object,
`CommonAction.shared.touchActionEffect`, and the object has *one* variable for the kind of
touch: a subscription writes it when its button has an event, and looks at it in the next
step. Subscriptions are never taken back; each screen that is made adds one, and a button
that is given to the function twice has two.

Two fingers can hold two buttons, and a handler may make a screen with a button of its own.
Still nobody sees the variable of anybody else, as the events come one after the other and a
subscription that looks at the variable has just written it. So the buttons do not
interfere, in any order of events:

| what is asked | what decides it |
|---|---|
| how often is a handler called? | how often a finger was lifted from its button since then |
| is a button dimmed? | the last event that was heard of it: a finger going down |

Of the eight events of a control three are heard. A touch that the system cancels is none of
them: a button whose touch is cancelled before the finger has left it stays dimmed
(`Joinus.CommonAction.dimmed_iff`).
-/

namespace Joinus

/-- `CommonAction.touch`. -/
inductive Touch where
  | down
  | outDrag
  | upInside
  deriving DecidableEq

/-- The events of a touch on a control. -/
inductive ControlEvent where
  | touchDown
  | touchDragInside
  | touchDragOutside
  | touchDragEnter
  | touchDragExit
  | touchUpInside
  | touchUpOutside
  | touchCancel
  deriving DecidableEq

/-- The three events that are subscribed to, and what their `map` writes. -/
def ControlEvent.touch : ControlEvent → Option Touch
  | .touchDown => some .down
  | .touchDragOutside => some .outDrag
  | .touchUpInside => some .upInside
  | .touchDragInside | .touchDragEnter | .touchDragExit | .touchUpOutside | .touchCancel => none

theorem ControlEvent.touch_eq_upInside_iff {e : ControlEvent} :
    e.touch = some .upInside ↔ e = .touchUpInside := by
  cases e <;> decide

/-- The shared object, with the buttons as far as it writes them, and the handlers that have
been called. A button is dimmed if its `alpha` is 0.6. -/
structure CommonAction (β η : Type) where
  kindOfTouch : Option Touch
  bag : List (β × η)
  dimmed : β → Bool
  handled : List (β × η)

inductive TouchAction (β η : Type) where
  | touchActionEffect (button : β) (handler : η)
  | event (button : β) (e : ControlEvent)
  deriving DecidableEq

variable {β η : Type}

namespace CommonAction

/-- `CommonAction.shared`. -/
def shared : CommonAction β η where
  kindOfTouch := none
  bag := []
  dimmed := fun _ => false
  handled := []

variable [DecidableEq β]

/-- The `onNext` of a subscription: the shared variable says what has happened. -/
def onNext (s : CommonAction β η) (c : β × η) : CommonAction β η :=
  match s.kindOfTouch with
  | some .down => { s with dimmed := Function.update s.dimmed c.1 true }
  | some .outDrag => { s with dimmed := Function.update s.dimmed c.1 false }
  | some .upInside =>
    { s with dimmed := Function.update s.dimmed c.1 false, handled := s.handled ++ [c] }
  | none => s

/-- An event arrives at a subscription: the `map`, and then `onNext`. -/
def notify (touch : Touch) (s : CommonAction β η) (c : β × η) : CommonAction β η :=
  onNext { s with kindOfTouch := some touch } c

/-- An event arrives at the subscriptions of its button, in the order in which they were made. -/
def event (s : CommonAction β η) (button : β) (e : ControlEvent) : CommonAction β η :=
  match e.touch with
  | none => s
  | some touch => (s.bag.filter fun c => c.1 = button).foldl (notify touch) s

def act (s : CommonAction β η) : TouchAction β η → CommonAction β η
  | .touchActionEffect button handler => { s with bag := s.bag ++ [(button, handler)] }
  | .event button e => s.event button e

/-- The shared object after some actions. -/
def after (as : List (TouchAction β η)) : CommonAction β η := as.foldl act shared

@[simp] theorem after_nil : (after [] : CommonAction β η) = shared := rfl

@[simp] theorem after_concat (as : List (TouchAction β η)) (a : TouchAction β η) :
    after (as ++ [a]) = (after as).act a := by
  rw [after, List.foldl_append]
  rfl

/-! ### What an event does -/

/-- **One event at some subscriptions of a button**: all of them see its kind of touch, and
none that of another. -/
theorem foldl_notify (touch : Touch) {button : β} (cs : List (β × η))
    (hcs : ∀ c ∈ cs, c.1 = button) (s : CommonAction β η) :
    (cs.foldl (notify touch) s).bag = s.bag ∧
      (cs.foldl (notify touch) s).handled =
        s.handled ++ (if touch = .upInside then cs else []) ∧
      (cs.foldl (notify touch) s).dimmed =
        if cs = [] then s.dimmed else Function.update s.dimmed button (touch = .down) := by
  induction cs generalizing s with
  | nil => exact ⟨rfl, by simp, rfl⟩
  | cons c cs ih =>
    obtain ⟨rfl, hcs⟩ := List.forall_mem_cons.mp hcs
    obtain ⟨hbag, hhandled, hdimmed⟩ := ih hcs (notify touch s c)
    rw [List.foldl_cons, hbag, hhandled, hdimmed, if_neg (List.cons_ne_nil c cs)]
    rcases touch with - | - | - <;> exact ⟨rfl, by simp [notify, onNext], by simp [notify, onNext]⟩

/-- The subscriptions of a button are of the button. -/
theorem forall_mem_filter (s : CommonAction β η) (button : β) :
    ∀ c ∈ s.bag.filter fun c => c.1 = button, c.1 = button := by
  intro c hc
  simpa using (List.mem_filter.mp hc).2

@[simp] theorem bag_event (s : CommonAction β η) (button : β) (e : ControlEvent) :
    (s.event button e).bag = s.bag := by
  rw [event]
  split
  · rfl
  · exact (foldl_notify _ _ (s.forall_mem_filter button) s).1

/-- **The handlers that an event calls**: those of its button, if the finger is lifted from
it. -/
theorem handled_event (s : CommonAction β η) (button : β) (e : ControlEvent) :
    (s.event button e).handled =
      s.handled ++ if e = .touchUpInside then s.bag.filter fun c => c.1 = button else [] := by
  rcases htouch : e.touch with - | touch
  · rw [event, htouch, if_neg (by rintro rfl; exact absurd htouch nofun), List.append_nil]
  · have hup : touch = .upInside ↔ e = .touchUpInside := by
      rw [← ControlEvent.touch_eq_upInside_iff, htouch, Option.some.injEq]
    rw [event, htouch]
    simp only [(foldl_notify touch _ (s.forall_mem_filter button) s).2.1, hup]

/-- **The button that an event dims, or no longer dims**: its own, if it is subscribed to. -/
theorem dimmed_event (s : CommonAction β η) (button : β) (e : ControlEvent) (b : β) :
    (s.event button e).dimmed b =
      if button = b ∧ b ∈ s.bag.map Prod.fst then
        e.touch.elim (s.dimmed b) fun touch => touch = .down
      else s.dimmed b := by
  rcases htouch : e.touch with - | touch
  · rw [event, htouch, Option.elim_none, ite_self]
  · have hnil : (s.bag.filter fun c => c.1 = button) = [] ↔ button ∉ s.bag.map Prod.fst := by
      simp only [List.filter_eq_nil_iff, decide_eq_true_eq, List.mem_map, not_exists, not_and]
    rw [event, htouch, Option.elim_some]
    simp only [(foldl_notify touch _ (s.forall_mem_filter button) s).2.2, hnil]
    rcases eq_or_ne b button with rfl | hne
    · by_cases hsub : b ∈ s.bag.map Prod.fst
      · rw [if_neg (not_not_intro hsub), if_pos ⟨rfl, hsub⟩, Function.update_self]
      · have hnone : ¬(b = b ∧ b ∈ s.bag.map Prod.fst) := fun h => hsub h.2
        rw [if_pos hsub, if_neg hnone]
    · have hother : ¬(button = b ∧ b ∈ s.bag.map Prod.fst) := fun h => hne h.1.symm
      rw [if_neg hother]
      split_ifs
      · exact Function.update_of_ne hne _ _
      · rfl

/-! ### The actions that matter to a handler, and to a button -/

end CommonAction

namespace TouchAction

/-- The subscription that an action makes. -/
def subscription : TouchAction β η → Option (β × η)
  | .touchActionEffect button handler => some (button, handler)
  | .event _ _ => none

variable [DecidableEq β]

/-- A finger is lifted from a button. -/
def isTap (button : β) : TouchAction β η → Bool
  | .touchActionEffect _ _ => false
  | .event b e => b = button ∧ e = .touchUpInside

/-- What is heard of a button, if it is subscribed to. -/
def touch (button : β) : TouchAction β η → Option Touch
  | .touchActionEffect _ _ => none
  | .event b e => if b = button then e.touch else none

end TouchAction

/-- The subscriptions that some actions make. -/
def subscriptions (as : List (TouchAction β η)) : List (β × η) :=
  as.filterMap TouchAction.subscription

@[simp] theorem subscriptions_cons_touchActionEffect (button : β) (handler : η)
    (as : List (TouchAction β η)) :
    subscriptions (.touchActionEffect button handler :: as) =
      (button, handler) :: subscriptions as := rfl

@[simp] theorem subscriptions_cons_event (button : β) (e : ControlEvent)
    (as : List (TouchAction β η)) :
    subscriptions (.event button e :: as) = subscriptions as := rfl

@[simp] theorem subscriptions_concat (as : List (TouchAction β η)) (a : TouchAction β η) :
    subscriptions (as ++ [a]) = subscriptions as ++ a.subscription.toList := by
  rw [subscriptions, List.filterMap_append]
  rcases h : a.subscription with - | c <;> simp [subscriptions, h]

section

variable [DecidableEq β]

/-- **How often a handler is to be called**: once for each time that a finger is lifted from
its button, for each subscription that has been made before. -/
def calls [DecidableEq η] (c : β × η) : List (TouchAction β η) → ℕ
  | [] => 0
  | .touchActionEffect button handler :: as =>
    (if (button, handler) = c then as.countP (·.isTap c.1) else 0) + calls c as
  | .event _ _ :: as => calls c as

/-- **What is heard of a button**, from its first subscription on. -/
def heard (button : β) : List (TouchAction β η) → List Touch
  | [] => []
  | .touchActionEffect b _ :: as =>
    if b = button then as.filterMap (·.touch button) else heard button as
  | .event _ _ :: as => heard button as

theorem calls_concat [DecidableEq η] (c : β × η) (as : List (TouchAction β η))
    (a : TouchAction β η) :
    calls c (as ++ [a]) =
      calls c as + if a.isTap c.1 then (subscriptions as).count c else 0 := by
  induction as with
  | nil => rcases a with ⟨b, handler⟩ | ⟨b, e⟩ <;> simp [calls, subscriptions]
  | cons a' as ih =>
    rcases a' with ⟨b, handler⟩ | ⟨b, e⟩
    · rw [List.cons_append, calls, calls, ih, List.countP_append, List.countP_singleton,
        subscriptions_cons_touchActionEffect, List.count_cons]
      simp only [beq_iff_eq]
      split_ifs <;> omega
    · exact ih

theorem heard_concat (button : β) (as : List (TouchAction β η)) (a : TouchAction β η) :
    heard button (as ++ [a]) =
      heard button as ++
        if button ∈ (subscriptions as).map Prod.fst then (a.touch button).toList else [] := by
  induction as with
  | nil =>
    rcases a with ⟨b, handler⟩ | ⟨b, e⟩
    · simp [heard, subscriptions]
    · rfl
  | cons a' as ih =>
    rcases a' with ⟨b, handler⟩ | ⟨b, e⟩
    · rw [List.cons_append, heard, heard, subscriptions_cons_touchActionEffect, List.map_cons]
      rcases eq_or_ne b button with rfl | hne
      · rw [if_pos rfl, if_pos rfl, if_pos List.mem_cons_self, List.filterMap_append]
        rcases h : a.touch b with - | touch <;> simp [h]
      · have hmem : button ∈ b :: (subscriptions as).map Prod.fst ↔
            button ∈ (subscriptions as).map Prod.fst := List.mem_cons.trans
          (or_iff_right hne.symm)
        rw [if_neg hne, if_neg hne, ih]
        simp only [hmem]
    · exact ih

end

namespace CommonAction

variable [DecidableEq β]

/-- The subscriptions are those that have been made. -/
@[simp] theorem bag_after (as : List (TouchAction β η)) : (after as).bag = subscriptions as := by
  induction as using List.reverseRecOn with
  | nil => rfl
  | append_singleton as a ih =>
    rcases a with ⟨b, handler⟩ | ⟨b, e⟩
    · rw [after_concat, subscriptions_concat, ← ih]
      rfl
    · rw [after_concat, act, bag_event, ih, subscriptions_concat]
      exact (List.append_nil _).symm

/-- **How often a handler has been called.** -/
theorem count_handled [DecidableEq η] (as : List (TouchAction β η)) (c : β × η) :
    (after as).handled.count c = calls c as := by
  induction as using List.reverseRecOn with
  | nil => rfl
  | append_singleton as a ih =>
    rw [after_concat, calls_concat, ← ih]
    rcases a with ⟨b, handler⟩ | ⟨b, e⟩
    · rfl
    · rw [act, handled_event, List.count_append, bag_after, TouchAction.isTap]
      congr 1
      by_cases htap : b = c.1 ∧ e = .touchUpInside
      · rw [if_pos htap.2, if_pos (decide_eq_true htap)]
        exact List.count_filter (decide_eq_true htap.1.symm)
      · rw [if_neg (mt of_decide_eq_true htap)]
        split_ifs with he
        · refine List.count_eq_zero.mpr fun hmem => htap ⟨?_, he⟩
          exact (of_decide_eq_true (List.mem_filter.mp hmem).2).symm
        · rfl

/-- **Whether a button is dimmed.** -/
theorem dimmed_iff (as : List (TouchAction β η)) (button : β) :
    (after as).dimmed button = true ↔ (heard button as).getLast? = some .down := by
  induction as using List.reverseRecOn with
  | nil => simp [shared, heard]
  | append_singleton as a ih =>
    rw [after_concat, heard_concat]
    rcases a with ⟨b, handler⟩ | ⟨b, e⟩
    · rw [TouchAction.touch, Option.toList_none, ite_self, List.append_nil]
      exact ih
    · rw [act, dimmed_event, bag_after, TouchAction.touch]
      by_cases hown : b = button ∧ button ∈ (subscriptions as).map Prod.fst
      · rw [if_pos hown, if_pos hown.2, if_pos hown.1]
        rcases e.touch with - | touch
        · rw [Option.elim_none, Option.toList_none, List.append_nil]
          exact ih
        · simp
      · have hnothing : (if button ∈ (subscriptions as).map Prod.fst then
            (if b = button then e.touch else none).toList else []) = [] := by
          split_ifs with hsub hb
          · exact absurd ⟨hb, hsub⟩ hown
          · rfl
          · rfl
        rw [if_neg hown, hnothing, List.append_nil]
        exact ih

/-- **The buttons do not interfere**: after any actions on any number of buttons, a handler has
been called once for each time that a finger was lifted from its button after it had been
handed over; and a button is dimmed exactly if the last that has been heard of it is a finger
going down. -/
theorem buttons_apart [DecidableEq η] (as : List (TouchAction β η)) (button : β) (handler : η) :
    (after as).handled.count (button, handler) = calls (button, handler) as ∧
      ((after as).dimmed button = true ↔ (heard button as).getLast? = some .down) :=
  ⟨count_handled as (button, handler), dimmed_iff as button⟩

/-- Two buttons are held at once, and the finger is lifted from the second first; the touch of
the first is cancelled. -/
example : ((after [.touchActionEffect 1 "join", .touchActionEffect 2 "next",
    .event 1 .touchDown, .event 2 .touchDown, .event 2 .touchUpInside,
    .event 1 .touchCancel] : CommonAction ℕ String).handled,
      (after [.touchActionEffect 1 "join", .touchActionEffect 2 "next",
        .event 1 .touchDown, .event 2 .touchDown, .event 2 .touchUpInside,
        .event 1 .touchCancel] : CommonAction ℕ String).dimmed 1) = ([(2, "next")], true) := by
  decide

end CommonAction

end Joinus
