import Mathlib.Data.List.Basic
import Mathlib.Data.List.Induction

/-!
# Runs of a partial step function

A program that waits for its next event – a tap, a reply, a tick – is a function
from a state and an event to the next state, *partial* because not every event
is offered in every state: a button that is not on screen cannot be tapped, and
a reply that is not outstanding cannot arrive. This file is about the finite
runs of such a function and about nothing else; states and events are arbitrary
types.

| notion | what it is | name |
|---|---|---|
| a run | the events one after the other, each offered in its turn | `Base.run` |
| a condition on steps | a relation between a state and the event met in it | `Base.Along` |
| a property of states | true in every state a run passes through | `Base.Throughout` |
| an invariant | preserved by every step, hence by every run | `Base.run_invariant` |
| an origin | the step of a run that made what its last state holds | `Base.exists_origin` |

A property of a *step* – “whenever this button is tapped in such a state …” – is
a relation between the state before and the event, and it holds of a run when it
holds of each of its steps. Two of the rules below say how such a property meets
an invariant of the states: an invariant may be preserved only by the steps that
meet a condition (`Base.run_invariant_along`), and two conditions that agree in
every state satisfying an invariant hold of the same runs (`Base.along_congr`). A
third says when a property of states holds throughout a run, if one knows which
steps keep it and which break it (`Base.throughout_iff_along`). And a system that can
follow every step of another can follow every run (`Base.Follows.exists_run`).
-/

namespace Base

variable {σ α : Type*} (step : σ → α → Option σ)

/-- The state a sequence of events leads to, if each of them is offered in its
turn. -/
def run : σ → List α → Option σ
  | s, [] => some s
  | s, a :: as =>
    match step s a with
    | none => none
    | some t => run t as

/-- **A condition on steps holds along a run**: in every state the run passes
through, of that state and the event it meets there. -/
def Along (C : σ → α → Prop) : σ → List α → Prop
  | _, [] => True
  | s, a :: as =>
    C s a ∧
      match step s a with
      | none => True
      | some t => Along C t as

instance Along.decidable {C : σ → α → Prop} [∀ s a, Decidable (C s a)] :
    ∀ s as, Decidable (Along step C s as)
  | _, [] => isTrue trivial
  | s, a :: as =>
    match h : step s a with
    | none => decidable_of_iff (C s a) (by simp [Along, h])
    | some t =>
      have := Along.decidable (C := C) t as
      decidable_of_iff (C s a ∧ Along step C t as) (by simp [Along, h])

/-- **A property of states holds throughout a run**: in its first state, in its last,
and in every state between them. -/
def Throughout (P : σ → Prop) (s : σ) (as : List α) : Prop :=
  ∀ pre, pre <+: as → ∀ t, run step s pre = some t → P t

variable {step}

/-! ### Runs, one event at a time -/

@[simp] theorem run_nil (s : σ) : run step s [] = some s := rfl

theorem run_cons_of_step {s t : σ} {a : α} {as : List α} (h : step s a = some t) :
    run step s (a :: as) = run step t as := by
  simp [run, h]

theorem run_cons_eq_some {s u : σ} {a : α} {as : List α} :
    run step s (a :: as) = some u ↔ ∃ t, step s a = some t ∧ run step t as = some u := by
  cases h : step s a with
  | none => simp [run, h]
  | some t => simp [run, h]

/-- A run of two sequences is a run of the first and a run of the second. -/
theorem run_append_eq_some {s u : σ} {as bs : List α} :
    run step s (as ++ bs) = some u ↔ ∃ t, run step s as = some t ∧ run step t bs = some u := by
  induction as generalizing s with
  | nil => simp
  | cons a as ih =>
    rw [List.cons_append, run_cons_eq_some]
    constructor
    · rintro ⟨t, hstep, hrest⟩
      obtain ⟨r, hr, hbs⟩ := ih.mp hrest
      exact ⟨r, run_cons_eq_some.mpr ⟨t, hstep, hr⟩, hbs⟩
    · rintro ⟨r, hr, hbs⟩
      obtain ⟨t, hstep, hrest⟩ := run_cons_eq_some.mp hr
      exact ⟨t, hstep, ih.mpr ⟨r, hrest, hbs⟩⟩

/-- A run can be continued by one event offered in its last state. -/
theorem run_concat {s t u : σ} {as : List α} {a : α} (hr : run step s as = some t)
    (hstep : step t a = some u) : run step s (as ++ [a]) = some u :=
  run_append_eq_some.mpr ⟨t, hr, by rw [run_cons_of_step hstep, run_nil]⟩

/-! ### Conditions along a run -/

theorem along_cons_of_step {C : σ → α → Prop} {s t : σ} {a : α} {as : List α}
    (h : step s a = some t) : Along step C s (a :: as) ↔ C s a ∧ Along step C t as := by
  simp [Along, h]

/-- A condition that holds along a run holds along what comes after its beginning. -/
theorem Along.of_append {C : σ → α → Prop} {s t : σ} {as bs : List α}
    (h : Along step C s (as ++ bs)) (hr : run step s as = some t) : Along step C t bs := by
  induction as generalizing s with
  | nil =>
    obtain rfl : s = t := by simpa using hr
    exact h
  | cons a as ih =>
    obtain ⟨r, hsr, hrest⟩ := run_cons_eq_some.mp hr
    exact ih ((along_cons_of_step hsr).mp h).2 hrest

/-- A condition on the events alone holds along every run of such events. -/
theorem along_of_forall {C : σ → α → Prop} {s : σ} {as : List α} (h : ∀ a ∈ as, ∀ s, C s a) :
    Along step C s as := by
  induction as generalizing s with
  | nil => trivial
  | cons a as ih =>
    refine ⟨h a List.mem_cons_self s, ?_⟩
    cases step s a with
    | none => trivial
    | some t => exact ih fun b hb => h b (List.mem_cons_of_mem a hb)

/-- Two conditions that hold along a run hold of each of its steps together. -/
theorem Along.and {C D : σ → α → Prop} {s : σ} {as : List α} (hC : Along step C s as)
    (hD : Along step D s as) : Along step (fun s a => C s a ∧ D s a) s as := by
  induction as generalizing s with
  | nil => trivial
  | cons a as ih =>
    refine ⟨⟨hC.1, hD.1⟩, ?_⟩
    cases h : step s a with
    | none => trivial
    | some t => exact ih ((along_cons_of_step h).mp hC).2 ((along_cons_of_step h).mp hD).2

/-! ### Invariants -/

/-- **An invariant of the steps that meet a condition is an invariant of the runs
along which the condition holds.** -/
theorem run_invariant_along {P : σ → Prop} {C : σ → α → Prop}
    (hstep : ∀ s a t, P s → C s a → step s a = some t → P t)
    {s t : σ} {as : List α} (hs : P s) (hC : Along step C s as)
    (hr : run step s as = some t) : P t := by
  induction as generalizing s with
  | nil =>
    obtain rfl : s = t := by simpa using hr
    exact hs
  | cons a as ih =>
    obtain ⟨r, hsr, hrest⟩ := run_cons_eq_some.mp hr
    obtain ⟨hCs, hCrest⟩ := (along_cons_of_step hsr).mp hC
    exact ih (hstep s a r hs hCs hsr) hCrest hrest

/-- **An invariant of the steps is an invariant of the runs**: there is no condition to
meet. -/
theorem run_invariant {P : σ → Prop} (hstep : ∀ s a t, P s → step s a = some t → P t)
    {s t : σ} {as : List α} (hs : P s) (hr : run step s as = some t) : P t :=
  run_invariant_along (C := fun _ _ => True) (fun s a t hs _ h => hstep s a t hs h) hs
    (along_of_forall fun _ _ _ => trivial) hr

/-- **An invariant that remembers**: it relates the state to something noted down
event by event, and the run to what has been noted in all. -/
theorem run_invariant_foldl {η : Type*} {note : η → α → η} {P : η → σ → Prop}
    (hstep : ∀ n s a t, P n s → step s a = some t → P (note n a) t)
    {n : η} {s t : σ} {as : List α} (hs : P n s) (hr : run step s as = some t) :
    P (as.foldl note n) t := by
  induction as generalizing n s with
  | nil =>
    obtain rfl : s = t := by simpa using hr
    exact hs
  | cons a as ih =>
    obtain ⟨r, hsr, hrest⟩ := run_cons_eq_some.mp hr
    exact ih (hstep n s a r hs hsr) hrest

/-- **Whatever a state holds has been there from the start, or was made by a step of the
run**, if no step comes to hold what it does not make. -/
theorem exists_origin {ι : Type*} {Holds : σ → ι → Prop} {Made : σ → α → ι → Prop}
    (hstep : ∀ s a t x, step s a = some t → Holds t x → Holds s x ∨ Made s a x) {s t : σ}
    {as : List α} (hr : run step s as = some t) {x : ι} (hx : Holds t x) :
    Holds s x ∨ ∃ pre a u, pre ++ [a] <+: as ∧ run step s pre = some u ∧ Made u a x := by
  induction as using List.reverseRecOn generalizing t with
  | nil =>
    obtain rfl : s = t := by simpa using hr
    exact Or.inl hx
  | append_singleton as a ih =>
    obtain ⟨u, hu, hlast⟩ := run_append_eq_some.mp hr
    obtain ⟨t', ht', hnil⟩ := run_cons_eq_some.mp hlast
    obtain rfl : t' = t := by simpa using hnil
    rcases hstep u a t' x ht' hx with hold | hnew
    · rcases ih hu hold with hstart | ⟨pre, b, v, hpre, hv, hmade⟩
      · exact Or.inl hstart
      · exact Or.inr ⟨pre, b, v, hpre.trans (List.prefix_append as [a]), hv, hmade⟩
    · exact Or.inr ⟨as, a, u, List.prefix_rfl, hu, hnew⟩

/-- **Two conditions that agree wherever an invariant holds, hold along the same
runs.** -/
theorem along_congr {P : σ → Prop} (hstep : ∀ s a t, P s → step s a = some t → P t)
    {C D : σ → α → Prop} (hCD : ∀ s a t, P s → step s a = some t → (C s a ↔ D s a))
    {s t : σ} {as : List α} (hs : P s) (hr : run step s as = some t) :
    Along step C s as ↔ Along step D s as := by
  induction as generalizing s with
  | nil => exact Iff.rfl
  | cons a as ih =>
    obtain ⟨r, hsr, hrest⟩ := run_cons_eq_some.mp hr
    rw [along_cons_of_step hsr, along_cons_of_step hsr, hCD s a r hs hsr,
      ih (hstep s a r hs hsr) hrest]

/-- **A condition that an invariant implies holds along the runs**, if the events keep to what
the invariant needs. -/
theorem along_of_invariant {P : σ → Prop} {C : σ → α → Prop} {D : α → Prop}
    (hstep : ∀ s a t, P s → D a → step s a = some t → P t)
    (hC : ∀ s a t, P s → D a → step s a = some t → C s a) {s t : σ} {as : List α} (hs : P s)
    (hD : ∀ a ∈ as, D a) (hr : run step s as = some t) : Along step C s as := by
  induction as generalizing s with
  | nil => trivial
  | cons a as ih =>
    obtain ⟨r, hsr, hrest⟩ := run_cons_eq_some.mp hr
    have ha := hD a List.mem_cons_self
    refine (along_cons_of_step hsr).mpr ⟨hC s a r hs ha hsr, ?_⟩
    exact ih (hstep s a r hs ha hsr) (fun b hb => hD b (List.mem_cons_of_mem a hb)) hrest

/-! ### A system that follows another

A step of one system may be several steps of another, or none: which ones depends on the
state and the event. -/

/-- **One system follows another** in related states: what a step is to it, it can do, and
it comes to a related state. -/
structure Follows {τ β : Type*} (step' : τ → β → Option τ) (step : σ → α → Option σ)
    (obs : σ → α → List β) (R : σ → τ → Prop) : Prop where
  follow : ∀ {s s' a t}, R s s' → step s a = some t →
    ∃ t', run step' s' (obs s a) = some t' ∧ R t t'

section Follows

variable {τ β : Type*} {step' : τ → β → Option τ}

/-- **A run as the other system sees it**: the events that its steps are there, one after
the other. -/
def observed (step : σ → α → Option σ) (obs : σ → α → List β) : σ → List α → List β
  | _, [] => []
  | s, a :: as =>
    obs s a ++
      match step s a with
      | none => []
      | some t => observed step obs t as

theorem observed_cons_of_step {obs : σ → α → List β} {s t : σ} {a : α} {as : List α}
    (h : step s a = some t) :
    observed step obs s (a :: as) = obs s a ++ observed step obs t as := by
  simp [observed, h]

/-- What is seen of two runs, the second of which goes on where the first has ended. -/
theorem observed_append {obs : σ → α → List β} {s t : σ} {as bs : List α}
    (hr : run step s as = some t) :
    observed step obs s (as ++ bs) = observed step obs s as ++ observed step obs t bs := by
  induction as generalizing s with
  | nil =>
    obtain rfl : s = t := by simpa using hr
    rfl
  | cons a as ih =>
    obtain ⟨r, hsr, hrest⟩ := run_cons_eq_some.mp hr
    rw [List.cons_append, observed_cons_of_step hsr, observed_cons_of_step hsr, ih hrest,
      List.append_assoc]

/-- **Simulation, under a condition**: a system that follows every step that meets it follows
every run along which it holds. -/
theorem exists_run_along {obs : σ → α → List β} {R : σ → τ → Prop} {C : σ → α → Prop}
    (h : ∀ {s s' a t}, R s s' → C s a → step s a = some t →
      ∃ t', run step' s' (obs s a) = some t' ∧ R t t')
    {s t : σ} {s' : τ} {as : List α} (hs : R s s') (hC : Along step C s as)
    (hr : run step s as = some t) :
    ∃ t', run step' s' (observed step obs s as) = some t' ∧ R t t' := by
  induction as generalizing s s' with
  | nil =>
    obtain rfl : s = t := by simpa using hr
    exact ⟨s', rfl, hs⟩
  | cons a as ih =>
    obtain ⟨r, hsr, hrest⟩ := run_cons_eq_some.mp hr
    obtain ⟨hCs, hCrest⟩ := (along_cons_of_step hsr).mp hC
    obtain ⟨r', hr', hrel⟩ := h hs hCs hsr
    obtain ⟨t', ht', hrel'⟩ := ih hrel hCrest hrest
    refine ⟨t', ?_, hrel'⟩
    rw [observed_cons_of_step hsr]
    exact run_append_eq_some.mpr ⟨r', hr', ht'⟩

/-- **Simulation**: a system that follows every step follows every run. -/
theorem Follows.exists_run {obs : σ → α → List β} {R : σ → τ → Prop}
    (h : Follows step' step obs R) {s t : σ} {s' : τ} {as : List α} (hs : R s s')
    (hr : run step s as = some t) :
    ∃ t', run step' s' (observed step obs s as) = some t' ∧ R t t' :=
  exists_run_along (C := fun _ _ => True) (fun hs _ hstep => h.follow hs hstep) hs
    (along_of_forall fun _ _ _ => trivial) hr

/-- Where the events do not depend on the state, a run is seen event by event. -/
theorem observed_of_run {obs : α → List β} {s t : σ} {as : List α} (hr : run step s as = some t) :
    observed step (fun _ => obs) s as = as.flatMap obs := by
  induction as generalizing s with
  | nil => rfl
  | cons a as ih =>
    obtain ⟨r, hsr, hrest⟩ := run_cons_eq_some.mp hr
    rw [observed_cons_of_step hsr, ih hrest, List.flatMap_cons]

/-- What is seen of events that are seen as they are. -/
theorem observed_eq_self {obs : σ → α → List α} {s t : σ} {as : List α}
    (hobs : ∀ a ∈ as, ∀ s, obs s a = [a]) (hr : run step s as = some t) :
    observed step obs s as = as := by
  induction as generalizing s with
  | nil => rfl
  | cons a as ih =>
    obtain ⟨r, hsr, hrest⟩ := run_cons_eq_some.mp hr
    rw [observed_cons_of_step hsr, hobs a List.mem_cons_self,
      ih (fun b hb => hobs b (List.mem_cons_of_mem a hb)) hrest, List.singleton_append]

/-- Simulation by a function of the states, event by event. -/
theorem run_flatMap {obs : α → List β} {f : σ → τ}
    (hstep : ∀ s a t, step s a = some t → run step' (f s) (obs a) = some (f t))
    {s t : σ} {as : List α} (hr : run step s as = some t) :
    run step' (f s) (as.flatMap obs) = some (f t) := by
  have hfollows : Follows step' step (fun _ => obs) fun s s' => f s = s' :=
    ⟨fun hs h => ⟨_, hs ▸ hstep _ _ _ h, rfl⟩⟩
  obtain ⟨t', ht', rfl⟩ := hfollows.exists_run rfl hr
  rwa [observed_of_run hr] at ht'

end Follows

/-! ### Two systems side by side -/

/-- **A relation kept by the steps is kept by the runs**: two systems that offer the
same events in related states, and go to related states, run alike. -/
theorem run_rel {τ : Type*} {step' : τ → α → Option τ} {R : σ → τ → Prop} {C : α → Prop}
    (hstep : ∀ s t a, R s t → C a → Option.Rel R (step s a) (step' t a))
    {s : σ} {t : τ} {as : List α} (hst : R s t) (hC : ∀ a ∈ as, C a) :
    Option.Rel R (run step s as) (run step' t as) := by
  induction as generalizing s t with
  | nil => exact .some hst
  | cons a as ih =>
    have ha := hstep s t a hst (hC a List.mem_cons_self)
    rw [run, run]
    generalize step s a = s' at ha
    generalize step' t a = t' at ha
    cases ha with
    | none => exact .none
    | some hst' => exact ih hst' fun b hb => hC b (List.mem_cons_of_mem a hb)

/-- What can be seen of related states is seen of related runs. -/
theorem map_eq_of_rel {τ β : Type*} {R : σ → τ → Prop} {f : σ → β} {g : τ → β}
    (hfg : ∀ s t, R s t → f s = g t) {s : Option σ} {t : Option τ} (h : Option.Rel R s t) :
    s.map f = t.map g := by
  cases h with
  | none => rfl
  | some hst => exact congrArg some (hfg _ _ hst)

/-- Of two related runs, either both are offered or none is. -/
theorem isSome_iff_of_rel {τ : Type*} {R : σ → τ → Prop} {s : Option σ} {t : Option τ}
    (h : Option.Rel R s t) : s.isSome ↔ t.isSome := by
  cases h with
  | none => rfl
  | some _ => rfl

/-! ### Properties throughout a run -/

theorem throughout_cons_of_step {P : σ → Prop} {s t : σ} {a : α} {as : List α}
    (h : step s a = some t) :
    Throughout step P s (a :: as) ↔ P s ∧ Throughout step P t as := by
  constructor
  · intro hP
    refine ⟨hP [] List.nil_prefix s rfl, fun pre hpre u hu => ?_⟩
    exact hP (a :: pre) (List.cons_prefix_cons.mpr ⟨rfl, hpre⟩) u
      (by rw [run_cons_of_step h, hu])
  · rintro ⟨hs, hP⟩ pre hpre u hu
    rcases List.prefix_cons_iff.mp hpre with rfl | ⟨pre', rfl, hpre'⟩
    · obtain rfl : s = u := by simpa using hu
      exact hs
    · rw [run_cons_of_step h] at hu
      exact hP pre' hpre' u hu

/-- What holds throughout a run holds in its first state. -/
theorem Throughout.head {P : σ → Prop} {s : σ} {as : List α} (h : Throughout step P s as) :
    P s :=
  h [] List.nil_prefix s rfl

/-- What holds throughout a run holds in its last state. -/
theorem Throughout.last {P : σ → Prop} {s t : σ} {as : List α} (h : Throughout step P s as)
    (hr : run step s as = some t) : P t :=
  h as List.prefix_rfl t hr

/-- **When a property holds throughout a run**, with an invariant that is kept as long as
the property holds and the steps meet the condition – and perhaps no longer. -/
theorem throughout_iff_along_of_kept {I P : σ → Prop} {C : σ → α → Prop}
    (hI : ∀ s a t, I s → P s → C s a → step s a = some t → I t)
    (hPC : ∀ s a t, I s → P s → step s a = some t → (P t ↔ C s a))
    {s t : σ} {as : List α} (hs : I s) (hP : P s) (hr : run step s as = some t) :
    Throughout step P s as ↔ Along step C s as := by
  induction as generalizing s with
  | nil =>
    refine iff_of_true (fun pre hpre u hu => ?_) trivial
    obtain rfl := List.prefix_nil.mp hpre
    obtain rfl : s = u := by simpa using hu
    exact hP
  | cons a as ih =>
    obtain ⟨r, hsr, hrest⟩ := run_cons_eq_some.mp hr
    have hiff := hPC s a r hs hP hsr
    rw [throughout_cons_of_step hsr, along_cons_of_step hsr, and_iff_right hP]
    constructor
    · intro h
      have hC := hiff.mp h.head
      exact ⟨hC, (ih (hI s a r hs hP hC hsr) h.head hrest).mp h⟩
    · rintro ⟨hC, h⟩
      exact (ih (hI s a r hs hP hC hsr) (hiff.mpr hC) hrest).mpr h

/-- **When a property holds throughout a run**: if it holds at first, and the steps that
keep it are those that meet a condition, exactly when every step meets the
condition. -/
theorem throughout_iff_along {I P : σ → Prop} (hI : ∀ s a t, I s → step s a = some t → I t)
    {C : σ → α → Prop} (hPC : ∀ s a t, I s → P s → step s a = some t → (P t ↔ C s a))
    {s t : σ} {as : List α} (hs : I s) (hP : P s) (hr : run step s as = some t) :
    Throughout step P s as ↔ Along step C s as :=
  throughout_iff_along_of_kept (fun s a t hs _ _ => hI s a t hs) hPC hs hP hr

/-! ### Notes

What happens in a run can be noted down beside the state: the notes depend on the state
and the events, and the state does not depend on the notes. -/

section Notes

variable {η : Type*} {note : η → σ → α → η}

/-- A step, and the note that is made of it. -/
def noting (step : σ → α → Option σ) (note : η → σ → α → η) (s : η × σ) (a : α) :
    Option (η × σ) :=
  (step s.2 a).map fun t => (note s.1 s.2 a, t)

theorem noting_eq_some {n m : η} {s t : σ} {a : α} :
    noting step note (n, s) a = some (m, t) ↔ step s a = some t ∧ note n s a = m := by
  simp [noting, and_comm, and_assoc]

/-- Whatever is noted down, the run is the same. -/
theorem exists_run_noting (n : η) {s t : σ} {as : List α} (h : run step s as = some t) :
    ∃ m, run (noting step note) (n, s) as = some (m, t) := by
  induction as generalizing n s with
  | nil =>
    obtain rfl : s = t := by simpa using h
    exact ⟨n, rfl⟩
  | cons a as ih =>
    obtain ⟨r, hsr, hrest⟩ := run_cons_eq_some.mp h
    obtain ⟨m, hm⟩ := ih (note n s a) hrest
    exact ⟨m, run_cons_eq_some.mpr ⟨_, noting_eq_some.mpr ⟨hsr, rfl⟩, hm⟩⟩

/-- A condition that does not look at the notes holds along the same runs. -/
theorem along_noting_iff (n : η) {C : σ → α → Prop} {s t : σ} {as : List α}
    (h : run step s as = some t) :
    Along (noting step note) (fun s a => C s.2 a) (n, s) as ↔ Along step C s as := by
  induction as generalizing n s with
  | nil => exact Iff.rfl
  | cons a as ih =>
    obtain ⟨r, hsr, hrest⟩ := run_cons_eq_some.mp h
    have hnoted : noting step note (n, s) a = some (note n s a, r) :=
      noting_eq_some.mpr ⟨hsr, rfl⟩
    rw [along_cons_of_step hsr, along_cons_of_step hnoted, ih (note n s a) hrest]

end Notes

/-! ### What is outstanding

Replies that may arrive in any order are kept in a list, and a step takes one of
them out. -/

/-- Taking out one entry leaves the others. -/
theorem perm_cons_eraseIdx {β : Type*} {l : List β} {i : ℕ} {b : β} (h : l[i]? = some b) :
    l.Perm (b :: l.eraseIdx i) := by
  classical
  obtain ⟨hi, rfl⟩ := List.getElem?_eq_some_iff.mp h
  exact (List.perm_cons_erase (List.getElem_mem hi)).trans
    ((List.erase_getElem hi).cons _)

/-- **An entry that is picked out** with others: where it is among them, and what is left of
them when it is taken out. -/
theorem filter_eraseIdx_of_pos {β : Type*} {p : β → Bool} {l : List β} {i : ℕ} {b : β}
    (h : l[i]? = some b) (hb : p b = true) :
    (l.filter p)[(l.take i).countP p]? = some b ∧
      (l.eraseIdx i).filter p = (l.filter p).eraseIdx ((l.take i).countP p) := by
  obtain ⟨hi, rfl⟩ := List.getElem?_eq_some_iff.mp h
  have hsplit : l = l.take i ++ l[i] :: l.drop (i + 1) := by simp
  have hfilter : l.filter p = (l.take i).filter p ++ l[i] :: (l.drop (i + 1)).filter p := by
    conv_lhs => rw [hsplit, List.filter_append, List.filter_cons_of_pos hb]
  rw [hfilter, List.countP_eq_length_filter]
  constructor
  · rw [List.getElem?_append_right (Nat.le_refl _)]
    simp
  · rw [List.eraseIdx_eq_take_drop_succ, List.filter_append,
      List.eraseIdx_append_of_length_le (Nat.le_refl _)]
    simp

/-- An entry that is not picked out is not missed. -/
theorem filter_eraseIdx_of_neg {β : Type*} {p : β → Bool} {l : List β} {i : ℕ} {b : β}
    (h : l[i]? = some b) (hb : ¬p b = true) : (l.eraseIdx i).filter p = l.filter p := by
  obtain ⟨hi, rfl⟩ := List.getElem?_eq_some_iff.mp h
  have hsplit : l = l.take i ++ l[i] :: l.drop (i + 1) := by simp
  rw [List.eraseIdx_eq_take_drop_succ, List.filter_append]
  conv_rhs => rw [hsplit, List.filter_append, List.filter_cons_of_neg hb]

end Base
