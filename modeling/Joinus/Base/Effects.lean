import Mathlib.Data.List.Nodup
import Mathlib.Logic.Function.Basic

/-!
# Bodies of assignments and calls

A store has a value for each of its fields, each field with values of its own type. The
body of a handler, once its branches have been decided, is a list of effects: values
assigned to fields, and calls of whatever was handed to it. What the store is after the
body is a matter of the assignments alone: a field that is not assigned keeps its value
(`Base.Effect.after_of_notMem`), and a field assigned once has the value it was assigned
(`Base.Effect.after_of_mem`).

What is called is kept in the list, so that one can say what has been assigned *before*
a call (`Base.Effect.beforeCall`).
-/

namespace Base

variable {ι : Type*} {β : ι → Type*} {κ : Type*}

/-- An effect on a store with fields `ι`, or a call of something in `κ`. -/
inductive Effect (β : ι → Type*) (κ : Type*) where
  | assign (i : ι) (v : β i)
  | call (k : κ)

namespace Effect

/-- The field that is assigned. -/
def target : Effect β κ → Option ι
  | assign i _ => some i
  | call _ => none

/-- What is called. -/
def called : Effect β κ → Option κ
  | assign _ _ => none
  | call k => some k

/-- The fields that a body assigns, in their order. -/
def assigned (body : List (Effect β κ)) : List ι := body.filterMap target

/-- The calls of a body, in their order. -/
def calls (body : List (Effect β κ)) : List κ := body.filterMap called

theorem mem_assigned {body : List (Effect β κ)} {i : ι} :
    i ∈ assigned body ↔ ∃ v, assign i v ∈ body := by
  rw [assigned, List.mem_filterMap]
  constructor
  · rintro ⟨e, he, hi⟩
    cases e with
    | assign j v =>
      obtain rfl : j = i := Option.some.inj hi
      exact ⟨v, he⟩
    | call k => exact absurd hi nofun
  · rintro ⟨v, hv⟩
    exact ⟨assign i v, hv, rfl⟩

/-- What is done before the first call. -/
def beforeCall (body : List (Effect β κ)) : List (Effect β κ) :=
  body.takeWhile fun e => e.called.isNone

variable [DecidableEq ι]

/-- The store after an effect. -/
def apply (m : (i : ι) → β i) : Effect β κ → (i : ι) → β i
  | assign i v => Function.update m i v
  | call _ => m

/-- **The store after a body.** -/
def after (body : List (Effect β κ)) (m : (i : ι) → β i) : (i : ι) → β i := body.foldl apply m

@[simp] theorem after_nil (m : (i : ι) → β i) : after ([] : List (Effect β κ)) m = m := rfl

@[simp] theorem after_cons (e : Effect β κ) (body : List (Effect β κ)) (m : (i : ι) → β i) :
    after (e :: body) m = after body (apply m e) := rfl

theorem apply_of_ne {m : (i : ι) → β i} {e : Effect β κ} {i : ι} (h : e.target ≠ some i) :
    apply m e i = m i := by
  cases e with
  | assign j v =>
    refine Function.update_of_ne ?_ v m
    rintro rfl
    exact h rfl
  | call k => rfl

/-- **The frame**: a field that is not assigned keeps its value. -/
theorem after_of_notMem {body : List (Effect β κ)} {m : (i : ι) → β i} {i : ι}
    (h : i ∉ assigned body) : after body m i = m i := by
  induction body generalizing m with
  | nil => rfl
  | cons e body ih =>
    have hhead : e.target ≠ some i := fun he => h (by simp [assigned, he])
    have htail : i ∉ assigned body := by
      intro hi
      refine h ?_
      rw [assigned, List.filterMap_cons]
      cases e.target with
      | none => exact hi
      | some j => exact List.mem_cons_of_mem j hi
    rw [after_cons, ih htail, apply_of_ne hhead]

/-- A field that is assigned once has the value it was assigned. -/
theorem after_of_mem {body : List (Effect β κ)} {m : (i : ι) → β i} {i : ι} {v : β i}
    (hnodup : (assigned body).Nodup) (h : assign i v ∈ body) : after body m i = v := by
  induction body generalizing m with
  | nil => exact absurd h List.not_mem_nil
  | cons e body ih =>
    rw [after_cons]
    rcases List.mem_cons.mp h with rfl | hmem
    · -- assigned here, and nowhere after
      have hnot : i ∉ assigned body := (List.nodup_cons.mp hnodup).1
      rw [after_of_notMem hnot]
      exact Function.update_self i v m
    · refine ih ?_ hmem
      cases e with
      | assign j w => exact (List.nodup_cons.mp hnodup).2
      | call k => exact hnodup

end Effect

end Base
