import Joinus.Base.Run
import Joinus.Service.Completion

/-!
# Replies are applied all or nothing

All services write the same shared models, their replies arrive in any order, and the
rest of the app writes the models meanwhile. Each reply is decoded as a whole before
the first field is assigned, and whatever a callback looks at before it assigns, it
looks at before the *first* assignment. So a body of a callback either assigns nothing,
or assigns every field of its service, once, the value that the reply has for it
(`Joinus.ServiceCall.callback_spec`); and that is all there is to know: the store after
such a body is the store before it with these fields replaced
(`Joinus.ServiceCall.Atomic`).

The completions are left to the app: what they do is not part of the reply.
-/

namespace Joinus

open Base

namespace ServiceCall

/-- **A reply is applied all or nothing**: the shared models are unchanged, or every
field that the service owns has the value of the one decoded reply and every other
field is unchanged. -/
def Atomic (c : ServiceCall) (r : Response) (m t : SharedModels) : Prop :=
  t = m ∨ ∃ j vals, r = .body j ∧ c.reads j = some vals ∧
    (∀ f ∈ c.fields, vals f = some (t f)) ∧ ∀ f ∉ c.fields, t f = m f

/-! ### What the callbacks assign -/

/-- An assignment of what the reply has for the field. -/
def Fits (vals : (f : Field) → Option f.Value) : Effect Field.Value Completion → Prop
  | .assign f v => vals f = some v
  | .call _ => True

/-- The assignments of a body are those of a reply. -/
structure Assigns (c : ServiceCall) (r : Response) (body : Body) (j : Json)
    (vals : (f : Field) → Option f.Value) : Prop where
  reply : r = .body j
  reads : c.reads j = some vals
  fields : Effect.assigned body = c.fields
  values : ∀ e ∈ body, Fits vals e

/-- A body assigns nothing, or all of a reply. -/
def NothingOrAll (c : ServiceCall) (r : Response) (body : Body) : Prop :=
  Effect.assigned body = [] ∨ ∃ j vals, c.Assigns r body j vals

theorem fields_nodup (c : ServiceCall) : c.fields.Nodup := by
  cases c with
  | load l =>
    cases l with
    | getConnection isFriend => exact List.nodup_singleton _
    | _ => decide
  | _ => decide

/-- The callbacks that only complete. -/
theorem resulting_assigned {done : ℤ → Body} (hdone : ∀ n, Effect.assigned (done n) = [])
    {r : Response} {body : Body} (h : resulting done r = some body) :
    Effect.assigned body = [] := by
  cases r with
  | body j =>
    rw [resulting] at h
    split at h
    · next n _ =>
      obtain rfl := Option.some.inj h
      exact hdone n
    · obtain rfl := Option.some.inj h
      rfl
  | failure =>
    obtain rfl := Option.some.inj h
    rfl

theorem assigned_ite {P : Prop} [Decidable P] :
    Effect.assigned (if P then [.call .plain] else [] : Body) = [] := by
  split_ifs <;> rfl

/-- The callbacks that decode, and assign nothing otherwise. -/
theorem decoding_nothingOrAll {α : Type} {decode : Json → Option α} {loaded : α → Body}
    {caught : Body} {c : ServiceCall} {r : Response} {body : Body}
    (h : decoding decode loaded caught r = some body) (hcaught : Effect.assigned caught = [])
    (hloaded : ∀ j data, decode j = some data → c.NothingOrAll (.body j) (loaded data)) :
    c.NothingOrAll r body := by
  rcases Loader.decoding_cases h with ⟨j, data, rfl, hdata, rfl⟩ | ⟨j, rfl, -, -, rfl⟩ | ⟨-, rfl⟩
  · exact hloaded j data hdata
  · exact Or.inl hcaught
  · exact Or.inl rfl

theorem storing_nothingOrAll {α : Type} {decode : Json → Option α} {f : Field}
    {value : α → f.Value} {l : Loader} {r : Response} {body : Body}
    (h : storing decode f value r = some body) (hfields : l.fields = [f])
    (hreads : ∀ j data, decode j = some data →
      ∃ vals, l.reads j = some vals ∧ vals f = some (value data)) :
    (load l).NothingOrAll r body := by
  refine decoding_nothingOrAll h rfl fun j data hdata => Or.inr ?_
  obtain ⟨vals, hvals, hf⟩ := hreads j data hdata
  refine ⟨j, vals, rfl, hvals, hfields.symm, ?_⟩
  rw [List.forall_mem_cons, List.forall_mem_singleton]
  exact ⟨hf, trivial⟩

theorem signUp_nothingOrAll {r : Response} {body : Body} (h : signUpCallback r = some body) :
    signUp.NothingOrAll r body := by
  refine decoding_nothingOrAll h rfl fun j data hdata => Or.inr ?_
  refine ⟨j, _, rfl, by rw [reads, hdata, Option.map_some], rfl, ?_⟩
  simp only [storeLogin, List.cons_append, List.nil_append, List.forall_mem_cons]
  simp [Fits]

theorem getGame_nothingOrAll {r : Response} {body : Body}
    (h : Loader.getGameCallback r = some body) : (load .getGame).NothingOrAll r body := by
  refine decoding_nothingOrAll h rfl fun j games hgames => ?_
  cases games with
  | nil => exact Or.inl rfl
  | cons userGameInfo games =>
    refine Or.inr ⟨j, _, rfl, by rw [reads, Loader.reads, hgames, Option.map_some], ?_, ?_⟩
    · -- whether it completes or not, it has assigned by then
      dsimp only
      rw [Effect.assigned, List.filterMap_append]
      exact congrArg _ assigned_ite
    · dsimp only
      rw [List.forall_mem_append]
      constructor
      · simp only [Loader.storeGame, List.forall_mem_cons]
        exact ⟨rfl, rfl, rfl, rfl, rfl, by simp⟩
      · intro e he
        split_ifs at he
        · rw [List.mem_singleton.mp he]
          trivial
        · exact absurd he List.not_mem_nil

theorem getManner_nothingOrAll {r : Response} {body : Body}
    (h : Loader.getMannerCallback r = some body) : (load .getManner).NothingOrAll r body := by
  refine decoding_nothingOrAll h rfl fun j data hdata => ?_
  by_cases hcount : data.count = 1
  · rw [if_pos hcount]
    refine Or.inr ⟨j, _, rfl, by rw [reads, Loader.reads, hdata, Option.map_some], rfl, ?_⟩
    rw [List.forall_mem_cons, List.forall_mem_singleton]
    exact ⟨rfl, trivial⟩
  · rw [if_neg hcount]
    exact Or.inl rfl

theorem getConnection_nothingOrAll {isFriend : Bool} {r : Response} {body : Body}
    (h : Loader.getConnectionCallback isFriend r = some body) :
    (load (.getConnection isFriend)).NothingOrAll r body := by
  refine decoding_nothingOrAll h rfl fun j data hdata => ?_
  by_cases hcount : data.count = 1
  · rw [if_pos hcount]
    refine Or.inr ⟨j, _, rfl, by rw [reads, Loader.reads, hdata, Option.map_some], ?_, ?_⟩
    · cases isFriend <;> rfl
    · cases isFriend with
      | true => exact List.forall_mem_cons.mpr ⟨rfl, List.forall_mem_singleton.mpr trivial⟩
      | false => exact List.forall_mem_cons.mpr ⟨rfl, List.forall_mem_singleton.mpr trivial⟩
  · rw [if_neg hcount]
    exact Or.inl rfl

/-- **Every callback assigns nothing, or all of its reply.** -/
theorem callback_spec {c : ServiceCall} {r : Response} {body : Body}
    (h : c.callback r = some body) : c.NothingOrAll r body := by
  cases c with
  | signUp => exact signUp_nothingOrAll h
  | load l =>
    cases l with
    | getRoom | getJoinRoom | getMakeRoom | getSelectedRoom | getRoomUser =>
      exact storing_nothingOrAll h rfl fun j data hdata =>
        ⟨_, by rw [Loader.reads, hdata, Option.map_some], rfl⟩
    | getGame => exact getGame_nothingOrAll h
    | getManner => exact getManner_nothingOrAll h
    | getConnection isFriend => exact getConnection_nothingOrAll h
  | postGame => exact Or.inl (resulting_assigned (fun _ => rfl) h)
  | putGame => exact Or.inl (resulting_assigned (fun _ => assigned_ite) h)
  | deleteGame => exact Or.inl (resulting_assigned (fun _ => assigned_ite) h)
  | postManner => exact decoding_nothingOrAll h rfl fun _ _ _ => Or.inl rfl
  | postConnetion => exact Or.inl (resulting_assigned (fun _ => assigned_ite) h)
  | postRoom => exact Or.inl (resulting_assigned (fun _ => rfl) h)
  | postRoomUser => exact Or.inl (resulting_assigned (fun _ => rfl) h)
  | putOnboarding => exact decoding_nothingOrAll h rfl fun _ _ _ => Or.inl assigned_ite

/-- **The store after a callback.** -/
theorem atomic_after {c : ServiceCall} {r : Response} {body : Body}
    (h : c.callback r = some body) (m : SharedModels) : c.Atomic r m (Effect.after body m) := by
  rcases callback_spec h with hnothing | ⟨j, vals, hall⟩
  · refine Or.inl (funext fun f => Effect.after_of_notMem ?_)
    rw [hnothing]
    exact List.not_mem_nil
  · refine Or.inr ⟨j, vals, hall.reply, hall.reads, fun f hf => ?_, fun f hf => ?_⟩
    · rw [← hall.fields] at hf
      obtain ⟨v, hv⟩ := Effect.mem_assigned.mp hf
      have hnodup : (Effect.assigned body).Nodup := hall.fields ▸ fields_nodup c
      rw [Effect.after_of_mem hnodup hv]
      exact hall.values _ hv
    · refine Effect.after_of_notMem ?_
      rw [hall.fields]
      exact hf

/-- A service that owns nothing changes nothing. -/
theorem Atomic.eq_of_fields {c : ServiceCall} {r : Response} {m t : SharedModels}
    (h : c.Atomic r m t) (hfields : c.fields = []) : t = m := by
  rcases h with rfl | ⟨j, vals, -, -, -, hframe⟩
  · rfl
  · refine funext fun f => hframe f ?_
    rw [hfields]
    exact List.not_mem_nil

/-- A reply changes no field but those its service owns. -/
theorem Atomic.eq_of_notMem {c : ServiceCall} {r : Response} {m t : SharedModels}
    (h : c.Atomic r m t) {f : Field} (hf : f ∉ c.fields) : t f = m f := by
  rcases h with rfl | ⟨j, vals, -, -, -, hframe⟩
  · rfl
  · exact hframe f hf

end ServiceCall

/-! ### Calls and replies in any order -/

/-- The shared models, the calls not yet answered, and whether an exception has ended
the app. -/
structure Services where
  models : SharedModels
  pending : List ServiceCall
  crashed : Bool

inductive ServiceAction where
  | call (c : ServiceCall)
  /-- A call is answered. -/
  | reply (i : ℕ) (r : Response)
  /-- The rest of the app assigns a property. -/
  | app (f : Field) (v : f.Value)

namespace Services

/-- A call is answered with a reply. -/
def answer (s : Services) (c : ServiceCall) (r : Response) : Services :=
  match c.callback r with
  | some body => { s with models := Effect.after body s.models }
  | none => { s with crashed := true }

def step (s : Services) : ServiceAction → Option Services
  | .call c => if s.crashed then none else some { s with pending := s.pending ++ [c] }
  | .reply i r =>
    if s.crashed then none
    else
      match s.pending[i]? with
      | none => none
      | some c => some (({ s with pending := s.pending.eraseIdx i } : Services).answer c r)
  | .app f v =>
    if s.crashed then none else some { s with models := Function.update s.models f v }

theorem step_reply {s t : Services} {i : ℕ} {r : Response} (h : s.step (.reply i r) = some t) :
    ∃ c, s.pending[i]? = some c ∧
      t = ({ s with pending := s.pending.eraseIdx i } : Services).answer c r := by
  rw [step] at h
  split_ifs at h
  split at h
  · exact absurd h nofun
  · next c hi => exact ⟨c, hi, (Option.some.inj h).symm⟩

theorem atomic_answer (s : Services) (c : ServiceCall) (r : Response) :
    c.Atomic r s.models (s.answer c r).models := by
  rw [answer]
  cases h : c.callback r with
  | some body => exact ServiceCall.atomic_after h s.models
  | none => exact Or.inl rfl

/-- **All or nothing, and only where it belongs**, of a step: a reply is applied as a
whole or not at all, and a service that only posts or puts changes nothing. -/
def AllOrNothing (s : Services) : ServiceAction → Prop
  | .reply i r => ∀ c, s.pending[i]? = some c → ∀ t, s.step (.reply i r) = some t →
      c.Atomic r s.models t.models ∧ (c.fields = [] → t.models = s.models)
  | _ => True

/-- **Replies are applied all or nothing**, from any models and with any calls on their
way: over every run of calls, replies in any order, and whatever the app assigns between
them. -/
theorem all_or_nothing (s : Services) (as : List ServiceAction) :
    Along step AllOrNothing s as := by
  refine along_of_forall fun a _ u => ?_
  cases a with
  | call c => trivial
  | app f v => trivial
  | reply i r =>
    intro c hc t ht
    obtain ⟨c', hc', rfl⟩ := step_reply ht
    obtain rfl : c = c' := Option.some.inj (hc.symm.trans hc')
    have hatomic := atomic_answer { u with pending := u.pending.eraseIdx i } c r
    exact ⟨hatomic, hatomic.eq_of_fields⟩

/-- A field is out of reach: no call that is on its way owns it. -/
def Unowned (f : Field) (s : Services) : Prop := ∀ c ∈ s.pending, f ∉ c.fields

/-- **A field that no service called owns, and the app does not assign, keeps its
value**, whatever is answered to the calls. -/
theorem field_kept {f : Field} {s t : Services} {as : List ServiceAction}
    (hs : s.Unowned f) (hcalls : ∀ c, .call c ∈ as → f ∉ c.fields) (happ : ∀ v, .app f v ∉ as)
    (hr : run step s as = some t) : t.models f = s.models f := by
  have hkept : t.Unowned f ∧ t.models f = s.models f := by
    refine run_invariant_along (P := fun u => u.Unowned f ∧ u.models f = s.models f)
      (C := fun _ a => (∀ c, a = .call c → f ∉ c.fields) ∧ ∀ v, a ≠ .app f v)
      (fun u a w hu ha h => ?_) ⟨hs, rfl⟩ ?_ hr
    · cases a with
      | call c =>
        rw [step] at h
        split_ifs at h
        obtain rfl := Option.some.inj h
        refine ⟨fun d hd => ?_, hu.2⟩
        rcases List.mem_append.mp hd with hd | hd
        · exact hu.1 d hd
        · rw [List.mem_singleton.mp hd]
          exact ha.1 c rfl
      | reply i r =>
        obtain ⟨c, hi, rfl⟩ := step_reply h
        have hatomic := atomic_answer { u with pending := u.pending.eraseIdx i } c r
        refine ⟨?_, (hatomic.eq_of_notMem (hu.1 c (List.mem_of_getElem? hi))).trans hu.2⟩
        have hpending :
            (({ u with pending := u.pending.eraseIdx i } : Services).answer c r).pending =
              u.pending.eraseIdx i := by
          rw [answer]
          cases c.callback r <;> rfl
        rw [Unowned, hpending]
        exact fun d hd => hu.1 d (List.mem_of_mem_eraseIdx hd)
      | app g v =>
        rw [step] at h
        split_ifs at h
        obtain rfl := Option.some.inj h
        have hne : f ≠ g := by
          rintro rfl
          exact ha.2 v rfl
        exact ⟨hu.1, (Function.update_of_ne hne v u.models).trans hu.2⟩
    · exact along_of_forall fun a ha _ =>
        ⟨fun c hc => hcalls c (hc ▸ ha), fun v hv => happ v (hv ▸ ha)⟩
  exact hkept.2

/-- A sign-in and the rooms are asked for; the rooms arrive first, and the sign-in fails. -/
def roomsFirst : List ServiceAction :=
  [.call .signUp, .call (.load .getRoom), .reply 1 (.body (.array [])), .reply 0 .failure]

/-- The models of a user with one friend. -/
def oneFriend : SharedModels :=
  Function.update SharedModels.initial .getFriend
    [⟨3, 0, 29, "105", "a", "aa", "Faker", true⟩]

/-- **The friend is left alone.** -/
theorem roomsFirst_keeps_friend :
    ∃ t, run step ⟨oneFriend, [], false⟩ roomsFirst = some t ∧
      t.models .getFriend = [⟨3, 0, 29, "105", "a", "aa", "Faker", true⟩] := by
  have hr : run step ⟨oneFriend, [], false⟩ roomsFirst = some _ := rfl
  have hcalls : ∀ c, .call c ∈ roomsFirst → .getFriend ∉ c.fields := by
    intro c hc
    simp only [roomsFirst, List.mem_cons, ServiceAction.call.injEq, reduceCtorEq,
      List.not_mem_nil, or_false] at hc
    rcases hc with rfl | rfl <;> decide
  have happ : ∀ v, .app .getFriend v ∉ roomsFirst := by
    intro v hv
    simp [roomsFirst] at hv
  have hkept := field_kept (f := .getFriend) (fun c hc => absurd hc List.not_mem_nil) hcalls happ hr
  exact ⟨_, hr, hkept⟩

end Services

end Joinus
