import Mathlib.Data.Set.Lattice
import Mathlib.Logic.Function.Basic
import Mathlib.Logic.Relation

/-!
# Networks of subjects

A *subject* passes on what it is sent: to every subject that has been bound to it, in the
order in which they were bound. Some subjects also keep the last value they were
sent, and hand it to whoever is bound to them later; the others forget. A value that
nobody is bound to is lost without a sign.

| notion | what it is | name |
|---|---|---|
| a network | bindings, and the values that are kept | `Base.Network` |
| an event | a value, sent to one subject and passed on from there | `Base.Network.send` |
| a binding | made once, with the value that is kept handed on at once | `Base.Network.bind` |
| what an event reaches | the subjects behind it, however far | `Base.Network.Reaches` |

Every subject has a height, and a binding leads to a lower one: that is a field of the
network, so that no event goes round in circles. An event is passed on depth first, as
far as the height of its subject allows, and this is far enough
(`Base.Network.delivered_send`): **an event leaves its value with everything it reaches,
and nothing anywhere else**. What a network does with an event is so a question about
reachability, and the order of the bindings does not matter (`Base.Delivered.unique`).

Subjects and values are arbitrary types.
-/

namespace Base

/-- Kinds of subjects: how high they stand, and whether they keep the last value. -/
structure SubjectKinds (Subject : Type*) where
  height : Subject → ℕ
  keeps : Subject → Bool

/-! ### What an event leaves behind -/

section Delivered

variable {Subject Value : Type*} {keeps : Subject → Bool} {v : Value}
  {S T : Set Subject} {held held' held'' : Subject → Option Value}

/-- **A value has been delivered to a set of subjects**: those of them that keep a value
have it now, and all others have what they had. -/
structure Delivered (keeps : Subject → Bool) (v : Value) (S : Set Subject)
    (held held' : Subject → Option Value) : Prop where
  reached : ∀ {n}, n ∈ S → keeps n = true → held' n = some v
  other : ∀ {n}, n ∉ S → held' n = held n
  forgetful : ∀ {n}, keeps n = false → held' n = held n

/-- Nothing is delivered to nobody. -/
theorem delivered_empty : Delivered keeps v ∅ held held where
  reached h := absurd h (Set.notMem_empty _)
  other _ := rfl
  forgetful _ := rfl

/-- **The set determines what is left behind.** -/
theorem Delivered.unique (h : Delivered keeps v S held held')
    (h' : Delivered keeps v S held held'') : held' = held'' := by
  ext1 n
  by_cases hn : n ∈ S
  · cases hk : keeps n with
    | false => rw [h.forgetful hk, h'.forgetful hk]
    | true => rw [h.reached hn hk, h'.reached hn hk]
  · rw [h.other hn, h'.other hn]

/-- One delivery after the other. -/
theorem Delivered.trans (h : Delivered keeps v S held held')
    (h' : Delivered keeps v T held' held'') : Delivered keeps v (S ∪ T) held held'' where
  reached {n} hn hk := by
    by_cases hT : n ∈ T
    · exact h'.reached hT hk
    · rw [h'.other hT]
      exact h.reached (hn.resolve_right hT) hk
  other hn := by
    rw [Set.mem_union, not_or] at hn
    rw [h'.other hn.2, h.other hn.1]
  forgetful hk := by rw [h'.forgetful hk, h.forgetful hk]

/-- Deliveries in turn. -/
theorem delivered_foldl {f : (Subject → Option Value) → Subject → Subject → Option Value}
    {reach : Subject → Set Subject} {l : List Subject}
    (hf : ∀ m ∈ l, ∀ held, Delivered keeps v (reach m) held (f held m)) :
    Delivered keeps v {n | ∃ m ∈ l, n ∈ reach m} held (l.foldl f held) := by
  induction l generalizing held with
  | nil =>
    have hnobody : {n | ∃ m ∈ ([] : List Subject), n ∈ reach m} = ∅ := by
      ext n
      simp
    rw [hnobody]
    exact delivered_empty
  | cons m l ih =>
    have hsplit : {n | ∃ k ∈ m :: l, n ∈ reach k} = reach m ∪ {n | ∃ k ∈ l, n ∈ reach k} := by
      ext n
      simp
    rw [hsplit]
    exact (hf m List.mem_cons_self held).trans (ih fun k hk => hf k (List.mem_cons_of_mem m hk))

end Delivered

/-! ### Passing on -/

section PassOn

variable {Subject Value : Type*} {bindings : List (Subject × Subject)}
  {keeps : Subject → Bool} {v : Value} {held : Subject → Option Value} {n m : Subject}

/-- An event reaches a subject: through any number of bindings. -/
def ReachesVia (bindings : List (Subject × Subject)) : Subject → Subject → Prop :=
  Relation.ReflTransGen fun n m => (n, m) ∈ bindings

/-- A subject reaches itself, and what is reached from those bound to it. -/
theorem reachesVia_iff :
    ReachesVia bindings n m ↔ m = n ∨ ∃ k, (n, k) ∈ bindings ∧ ReachesVia bindings k m := by
  rw [ReachesVia, Relation.ReflTransGen.cases_head_iff, @eq_comm _ n m]

variable [DecidableEq Subject]

/-- The subjects bound to a subject, in the order in which they were bound. -/
def targets (bindings : List (Subject × Subject)) (n : Subject) : List Subject :=
  (bindings.filter fun b => b.1 = n).map Prod.snd

/-- An event that has come to a subject: the subject keeps its value if it keeps values,
and passes it on, over at most the given number of bindings. -/
def passOn (bindings : List (Subject × Subject)) (keeps : Subject → Bool) (v : Value) :
    ℕ → (Subject → Option Value) → Subject → Subject → Option Value
  | 0, held, n => if keeps n then Function.update held n (some v) else held
  | steps + 1, held, n =>
    (targets bindings n).foldl (passOn bindings keeps v steps)
      (if keeps n then Function.update held n (some v) else held)

theorem mem_targets : m ∈ targets bindings n ↔ (n, m) ∈ bindings := by
  simp [targets]

theorem delivered_singleton : Delivered keeps v {n} held
    (if keeps n then Function.update held n (some v) else held) where
  reached hm hk := by
    obtain rfl := hm
    rw [if_pos hk, Function.update_self]
  other hm := by
    split_ifs
    · exact Function.update_of_ne hm _ _
    · rfl
  forgetful {m} hk := by
    split_ifs with hn
    · have hne : m ≠ n := by
        rintro rfl
        rw [hn] at hk
        exact absurd hk (by simp)
      exact Function.update_of_ne hne _ _
    · rfl

/-- **Passing on as far as the height of a subject goes far enough.** -/
theorem delivered_passOn {height : Subject → ℕ}
    (hdown : ∀ b ∈ bindings, height b.2 < height b.1) {steps : ℕ} (h : height n ≤ steps) :
    Delivered keeps v {m | ReachesVia bindings n m} held
      (passOn bindings keeps v steps held n) := by
  induction steps generalizing n held with
  | zero =>
    -- at height zero there is nothing below
    have hself : {m | ReachesVia bindings n m} = {n} := by
      ext m
      rw [Set.mem_ofPred_eq, reachesVia_iff, Set.mem_singleton_iff, or_iff_left]
      rintro ⟨k, hk, -⟩
      have hlower : height k < height n := hdown _ hk
      omega
    rw [hself]
    exact delivered_singleton
  | succ steps ih =>
    have hreach : {m | ReachesVia bindings n m} =
        {n} ∪ {m | ∃ k ∈ targets bindings n, m ∈ {m | ReachesVia bindings k m}} := by
      ext m
      rw [Set.mem_ofPred_eq, reachesVia_iff]
      simp [mem_targets]
    rw [hreach]
    refine delivered_singleton.trans (delivered_foldl fun k hk held => ih ?_)
    have hlower : height k < height n := hdown _ (mem_targets.mp hk)
    omega

end PassOn

/-! ### Networks -/

/-- **A network of subjects**: its bindings, each to a lower subject, and the values that are
kept, none by those that forget. -/
structure Network {Subject : Type*} (kinds : SubjectKinds Subject) (Value : Type*) where
  bindings : List (Subject × Subject)
  value : Subject → Option Value
  downwards : ∀ b ∈ bindings, kinds.height b.2 < kinds.height b.1
  forgetful : ∀ n, kinds.keeps n = false → value n = none

namespace Network

variable {Subject Value : Type*} {kinds : SubjectKinds Subject} {net : Network kinds Value}
  {a b n m : Subject} {v : Value}

/-- An event at one subject reaches another. -/
def Reaches (net : Network kinds Value) : Subject → Subject → Prop := ReachesVia net.bindings

/-- **What is closed under the bindings holds whatever it reaches.** -/
theorem Reaches.mem_of_closed {S : Set Subject}
    (hS : ∀ a b, (a, b) ∈ net.bindings → a ∈ S → b ∈ S) (h : net.Reaches n m) (hn : n ∈ S) :
    m ∈ S := by
  rw [Reaches, ReachesVia] at h
  induction h with
  | refl => exact hn
  | tail _ hbinding ih => exact hS _ _ hbinding ih

theorem Reaches.refl (net : Network kinds Value) (n : Subject) : net.Reaches n n :=
  Relation.ReflTransGen.refl

theorem Reaches.tail (h : net.Reaches n a) (hb : (a, b) ∈ net.bindings) : net.Reaches n b :=
  Relation.ReflTransGen.tail h hb

variable [DecidableEq Subject]

theorem delivered_value {net : Network kinds Value} {bindings : List (Subject × Subject)}
    (hdown : ∀ b ∈ bindings, kinds.height b.2 < kinds.height b.1) :
    Delivered kinds.keeps v {m | ReachesVia bindings n m} net.value
      (passOn bindings kinds.keeps v (kinds.height n) net.value n) :=
  delivered_passOn hdown le_rfl

/-- A value is sent to a subject. -/
def send (net : Network kinds Value) (n : Subject) (v : Value) : Network kinds Value where
  bindings := net.bindings
  value := passOn net.bindings kinds.keeps v (kinds.height n) net.value n
  downwards := net.downwards
  forgetful m hm :=
    ((delivered_value net.downwards).forgetful hm).trans (net.forgetful m hm)

/-- **An event leaves its value with everything it reaches.** -/
theorem delivered_send :
    Delivered kinds.keeps v {m | net.Reaches n m} net.value (net.send n v).value :=
  delivered_value net.downwards

/-- **A value that reaches nobody who keeps it is lost.** -/
theorem value_send_of_forgetful (h : ∀ m, net.Reaches n m → kinds.keeps m = false) :
    (net.send n v).value = net.value := by
  refine delivered_send.unique ⟨fun {m} hm hk => ?_, fun _ => rfl, fun _ => rfl⟩
  rw [h m hm] at hk
  exact absurd hk (by simp)

/-- One subject is bound to another, to which it hands the value it has kept. -/
def bind (net : Network kinds Value) (a b : Subject) (h : kinds.height b < kinds.height a) :
    Network kinds Value :=
  have hdown : ∀ c ∈ net.bindings ++ [(a, b)], kinds.height c.2 < kinds.height c.1 := by
    intro c hc
    rcases List.mem_append.mp hc with hc | hc
    · exact net.downwards c hc
    · obtain rfl := List.mem_singleton.mp hc
      exact h
  { bindings := net.bindings ++ [(a, b)]
    value :=
      match net.value a with
      | none => net.value
      | some v => passOn (net.bindings ++ [(a, b)]) kinds.keeps v (kinds.height b) net.value b
    downwards := hdown
    forgetful := by
      intro m hm
      cases net.value a with
      | none => exact net.forgetful m hm
      | some v => exact ((delivered_value hdown).forgetful hm).trans (net.forgetful m hm) }

@[simp] theorem bindings_bind (h : kinds.height b < kinds.height a) :
    (net.bind a b h).bindings = net.bindings ++ [(a, b)] := rfl

/-- A subject that keeps nothing hands nothing on. -/
theorem value_bind_of_forgetful (h : kinds.height b < kinds.height a)
    (ha : kinds.keeps a = false) : (net.bind a b h).value = net.value := by
  simp [bind, net.forgetful a ha]

/-- **A subject at the bottom has the value of what it is bound to**, and no other subject
has a new one. -/
theorem value_bind_of_bottom (h : kinds.height b < kinds.height a) (ha : net.value a = some v)
    (hb : kinds.height b = 0) (hk : kinds.keeps b = true) :
    (net.bind a b h).value = Function.update net.value b (some v) := by
  simp [bind, ha, hb, hk, passOn]

end Network

end Base
