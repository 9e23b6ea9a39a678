import Mathlib.Data.List.Nodup
import Mathlib.Logic.Function.Basic

/-!
# Stacks without repetition

The stack of a navigation controller: screens lie over each other, the top one is seen,
and no screen is on it twice. To push a screen that is on the stack already is an
error, so that pushing is partial (`Base.Stack.push`); to pop the empty stack changes
nothing.

The elements are an arbitrary type. That they do not repeat is a field of the type, and
it gives what a user of the stack wants to know of popping: what has been popped is *not*
on the stack any more (`Base.Stack.notMem_pop_of_top`).
-/

namespace Base

/-- **A stack without repetition**, its top first. -/
structure Stack (α : Type*) where
  elems : List α
  nodup : elems.Nodup

namespace Stack

variable {α : Type*}

def empty : Stack α := ⟨[], List.nodup_nil⟩

instance : Membership α (Stack α) := ⟨fun s x => x ∈ s.elems⟩

instance [DecidableEq α] (s : Stack α) (x : α) : Decidable (x ∈ s) :=
  inferInstanceAs (Decidable (x ∈ s.elems))

/-- What lies on top, unless the stack is empty. -/
def top (s : Stack α) : Option α := s.elems.head?

def pop (s : Stack α) : Stack α := ⟨s.elems.tail, s.nodup.tail⟩

/-- A new top; nothing is pushed twice. -/
def push [DecidableEq α] (s : Stack α) (x : α) : Option (Stack α) :=
  if h : x ∈ s.elems then none else some ⟨x :: s.elems, List.nodup_cons.mpr ⟨h, s.nodup⟩⟩

variable {s t : Stack α} {x y : α}

@[simp] theorem mem_elems : x ∈ s.elems ↔ x ∈ s := Iff.rfl

@[simp] theorem elems_empty : (empty : Stack α).elems = [] := rfl

@[simp] theorem notMem_empty : x ∉ (empty : Stack α) := List.not_mem_nil

@[simp] theorem top_empty : (empty : Stack α).top = none := rfl

theorem mem_iff_of_elems {l : List α} (h : s.elems = l) : x ∈ s ↔ x ∈ l := by
  rw [← mem_elems, h]

/-! ### The top -/

theorem top_eq_none : s.top = none ↔ s.elems = [] := List.head?_eq_none_iff

theorem top_of_elems {l : List α} (h : s.elems = x :: l) : s.top = some x := by
  rw [top, h, List.head?_cons]

theorem mem_of_elems {l : List α} (h : s.elems = x :: l) : x ∈ s :=
  (mem_iff_of_elems h).mpr List.mem_cons_self

theorem elems_of_top (h : s.top = some x) : s.elems = x :: s.pop.elems :=
  (List.cons_head?_tail h).symm

theorem mem_of_top (h : s.top = some x) : x ∈ s := List.mem_of_head? h

/-! ### Popping -/

theorem mem_of_mem_pop (h : x ∈ s.pop) : x ∈ s := List.mem_of_mem_tail h

/-- **What has been popped is gone.** -/
theorem notMem_pop_of_top (h : s.top = some x) : x ∉ s.pop := by
  have hnodup := s.nodup
  rw [elems_of_top h] at hnodup
  exact (List.nodup_cons.mp hnodup).1

/-- Popping takes away the top and nothing else. -/
theorem mem_iff_of_top (h : s.top = some x) : y ∈ s ↔ y = x ∨ y ∈ s.pop := by
  rw [mem_iff_of_elems (elems_of_top h), List.mem_cons, mem_elems]

/-! ### Pushing -/

variable [DecidableEq α]

/-- **Pushing fails on what is there already**, and on nothing else. -/
theorem push_eq_none : s.push x = none ↔ x ∈ s := by
  rw [push, ← mem_elems]
  split_ifs with h
  · exact iff_of_true rfl h
  · exact iff_of_false (by simp) h

theorem push_eq_some : s.push x = some t ↔ x ∉ s ∧ t.elems = x :: s.elems := by
  rw [push, ← mem_elems]
  split_ifs with h
  · exact iff_of_false (by simp) fun hnot => hnot.1 h
  · obtain ⟨l, hl⟩ := t
    simp [h, eq_comm]

end Stack

end Base
