import Joinus.Service.Loaders

/-!
# Completions and loading

The screens take the completion of a loader as the news that the model is fresh: lists
are shown, empty-list pictures chosen, the next service of the sign-in called. That a
loader has loaded means two things – the reply decodes, and each field the loader owns
has, when the completion is called, what the reply has for it, whatever it had before
(`Joinus.Loader.Loaded`).

Six of the eight loaders complete exactly when they have loaded. `getGame` keeps the
completion back where the game ID it has just stored is empty, so that a user without a
name is not taken past the login screen. `getConnection` calls its completion from the
`catch` branch as well, with nothing stored.

| loader | reply | loaded | completes |
|---|---|---|---|
| `getGame` | a first game with an empty ID | yes | no |
| `getConnection` | an array or object that does not decode | no | yes |
| any, otherwise | | as it completes | as it has loaded |
-/

namespace Joinus

open Base

namespace Loader

/-- The completion is called. -/
def Completes (body : Body) : Prop := Completion.plain ∈ Effect.calls body

instance (body : Body) : Decidable (Completes body) := inferInstanceAs (Decidable (_ ∈ _))

/-- **The loader has just loaded**: the reply is decoded, and at the completion, if there
is one, the loader's fields have the values of the reply. -/
def Loaded (l : Loader) (r : Response) (body : Body) : Prop :=
  ∃ j vals, r = .body j ∧ l.reads j = some vals ∧
    ∀ f ∈ l.fields, ∀ m : SharedModels, vals f = some (Effect.after (Effect.beforeCall body) m f)

/-- The game ID of the reply is not empty; only `getGame` has one. -/
def NamesGame (l : Loader) : Response → Prop
  | .body j => l = .getGame → ∀ vals, l.reads j = some vals → vals .myGameID ≠ some ""
  | .failure => True

/-- The reply of a `getConnection` that ends in the `catch` branch. -/
def Caught : Loader → Response → Prop
  | .getConnection _, .body j => isValidJSONObject j ∧ (GetConnetion.decode j).isNone
  | _, _ => False

instance : ∀ (l : Loader) (r : Response), Decidable (l.Caught r)
  | .getConnection _, .body _ => inferInstanceAs (Decidable (_ ∧ _))
  | .getConnection _, .failure => isFalse id
  | .getRoom, _ | .getJoinRoom, _ | .getMakeRoom, _ | .getSelectedRoom, _ | .getRoomUser, _
  | .getGame, _ | .getManner, _ => isFalse id

/-- What the callback does with a reply; where it raises the exception, nothing is done
any more. -/
def effects (l : Loader) (r : Response) : Body := (l.callback r).getD []

/-! ### Callbacks by the shape of the reply -/

/-- **The three ways through a callback that decodes.** -/
theorem decoding_cases {α : Type} {decode : Json → Option α} {loaded : α → Body}
    {caught body : Body} {r : Response} (h : decoding decode loaded caught r = some body) :
    (∃ j data, r = .body j ∧ decode j = some data ∧ body = loaded data) ∨
      (∃ j, r = .body j ∧ isValidJSONObject j ∧ decode j = none ∧ body = caught) ∨
      (r = .failure ∧ body = []) := by
  cases r with
  | body j =>
    rw [decoding] at h
    split_ifs at h with hvalid
    cases hj : decode j with
    | some data =>
      rw [hj] at h
      exact Or.inl ⟨j, data, rfl, hj, (Option.some.inj h).symm⟩
    | none =>
      rw [hj] at h
      exact Or.inr (Or.inl ⟨j, rfl, hvalid, hj, (Option.some.inj h).symm⟩)
  | failure => exact Or.inr (Or.inr ⟨rfl, (Option.some.inj h).symm⟩)

/-- The exception is raised for values that are no array and no object. -/
theorem decoding_eq_none {α : Type} {decode : Json → Option α} {loaded : α → Body} {caught : Body}
    {j : Json} (h : decoding decode loaded caught (.body j) = none) :
    isValidJSONObject j = false := by
  rw [decoding] at h
  split_ifs at h with hvalid
  · cases hj : decode j <;> simp [hj] at h
  · exact Bool.eq_false_iff.mpr hvalid

/-- A reply that is not read has not been loaded. -/
theorem not_loaded_of_reads {l : Loader} {j : Json} {body : Body} (h : l.reads j = none) :
    ¬l.Loaded (.body j) body := by
  rintro ⟨j', vals, hj, hvals, -⟩
  obtain rfl := Response.body.inj hj
  exact absurd (h.symm.trans hvals) nofun

theorem not_loaded_failure {l : Loader} {body : Body} : ¬l.Loaded .failure body := by
  rintro ⟨j, vals, hj, -⟩
  exact absurd hj nofun

/-- A field that is not assigned before the completion may have any value. -/
theorem not_loaded_of_notMem {l : Loader} {r : Response} {body : Body} {f : Field}
    (hf : f ∈ l.fields) (hnot : f ∉ Effect.assigned (Effect.beforeCall body)) {v w : f.Value}
    (hne : v ≠ w) : ¬l.Loaded r body := by
  rintro ⟨j, vals, -, -, hvals⟩
  have hv := hvals f hf (Function.update SharedModels.initial f v)
  have hw := hvals f hf (Function.update SharedModels.initial f w)
  rw [Effect.after_of_notMem hnot, Function.update_self] at hv hw
  exact hne (Option.some.inj (hv.symm.trans hw))

/-- What has been loaded is what the reply has. -/
theorem loaded_iff_of_reads {l : Loader} {j : Json} {body : Body}
    {vals : (f : Field) → Option f.Value} (h : l.reads j = some vals) :
    l.Loaded (.body j) body ↔ ∀ f ∈ l.fields, ∀ m : SharedModels,
      vals f = some (Effect.after (Effect.beforeCall body) m f) := by
  constructor
  · rintro ⟨j', vals', hj, hvals, hf⟩
    obtain rfl := Response.body.inj hj
    obtain rfl := Option.some.inj (h.symm.trans hvals)
    exact hf
  · intro hf
    exact ⟨j, vals, rfl, h, hf⟩

/-- **The loaders of rooms and users** complete exactly when they have loaded. -/
theorem storing_completes_iff {α : Type} {decode : Json → Option α} {f : Field}
    {value : α → f.Value} {l : Loader} {r : Response} {body : Body}
    (h : storing decode f value r = some body) (hfields : l.fields = [f])
    (hsome : ∀ j data, decode j = some data →
      ∃ vals, l.reads j = some vals ∧ vals f = some (value data))
    (hnone : ∀ j, decode j = none → l.reads j = none) :
    Completes body ↔ l.Loaded r body := by
  rcases decoding_cases h with ⟨j, data, rfl, hdata, rfl⟩ | ⟨j, rfl, -, hfailed, rfl⟩ | ⟨rfl, rfl⟩
  · obtain ⟨vals, hvals, hf⟩ := hsome j data hdata
    rw [loaded_iff_of_reads hvals, hfields]
    refine iff_of_true (List.mem_singleton.mpr rfl) ?_
    intro g hg m
    obtain rfl := List.mem_singleton.mp hg
    rw [hf]
    exact congrArg some (Function.update_self g (value data) m).symm
  · exact iff_of_false List.not_mem_nil (not_loaded_of_reads (hnone j hfailed))
  · exact iff_of_false List.not_mem_nil not_loaded_failure

/-- The first game of a reply is stored, whether the completion is called or not. -/
theorem getGame_stores (userGameInfo : GetGame) {end_ : Body}
    (hend : end_ = [.call .plain] ∨ end_ = []) (m : SharedModels) :
    let stored := Effect.after (Effect.beforeCall (storeGame userGameInfo ++ end_)) m
    stored .myPk = userGameInfo.userPk ∧ stored .gameInfoPk = userGameInfo.gameInfoPk ∧
      stored .myGameID = userGameInfo.gameID ∧ stored .myGameName = userGameInfo.gameName ∧
      stored .myTier = userGameInfo.tier := by
  rcases hend with rfl | rfl <;> exact ⟨rfl, rfl, rfl, rfl, rfl⟩

/-- **`getGame`** completes when it has loaded, unless the game ID is empty. -/
theorem getGame_completes_iff {r : Response} {body : Body} (h : getGameCallback r = some body) :
    Completes body ↔ getGame.Loaded r body ∧ getGame.NamesGame r := by
  rcases decoding_cases h with ⟨j, games, rfl, hgames, rfl⟩ | ⟨j, rfl, -, hnone, rfl⟩ | ⟨rfl, rfl⟩
  · obtain ⟨vals, hvals, hpk, hinfo, hid, hname, htier⟩ : ∃ vals, getGame.reads j = some vals ∧
        vals .myPk = games.head?.map GetGame.userPk ∧
        vals .gameInfoPk = games.head?.map GetGame.gameInfoPk ∧
        vals .myGameID = games.head?.map GetGame.gameID ∧
        vals .myGameName = games.head?.map GetGame.gameName ∧
        vals .myTier = games.head?.map GetGame.tier :=
      ⟨_, by rw [reads, hgames, Option.map_some], rfl, rfl, rfl, rfl, rfl⟩
    cases games with
    | nil =>
      -- an empty list decodes, and there is nothing to assign
      refine iff_of_false List.not_mem_nil fun hc => ?_
      exact not_loaded_of_notMem (f := .myPk) List.mem_cons_self List.not_mem_nil zero_ne_one hc.1
    | cons userGameInfo games =>
      rw [loaded_iff_of_reads hvals]
      have hnamed : getGame.NamesGame (.body j) ↔ userGameInfo.gameID ≠ "" := by
        constructor
        · intro hn heq
          refine hn rfl vals hvals ?_
          rw [hid, ← heq]
          rfl
        · rintro hn - vals' hvals' heq
          obtain rfl := Option.some.inj (hvals.symm.trans hvals')
          exact hn (Option.some.inj (hid.symm.trans heq))
      obtain ⟨end_, hend, hcases, hcall⟩ : ∃ end_ : Body,
          (if userGameInfo.gameID ≠ "" then [.call .plain] else []) = end_ ∧
            (end_ = [.call .plain] ∨ end_ = []) ∧
            (Completes (storeGame userGameInfo ++ end_) ↔ userGameInfo.gameID ≠ "") := by
        by_cases hempty : userGameInfo.gameID ≠ ""
        · exact ⟨_, if_pos hempty, Or.inl rfl, iff_of_true (List.mem_singleton.mpr rfl) hempty⟩
        · exact ⟨_, if_neg hempty, Or.inr rfl, iff_of_false List.not_mem_nil hempty⟩
      dsimp only
      rw [hend, hcall, hnamed]
      refine (and_iff_right ?_).symm
      intro f hf m
      obtain ⟨hspk, hsinfo, hsid, hsname, hstier⟩ := getGame_stores userGameInfo hcases m
      simp only [fields, List.mem_cons, List.not_mem_nil, or_false] at hf
      rcases hf with rfl | rfl | rfl | rfl | rfl
      · exact hpk.trans (congrArg some hspk.symm)
      · exact hinfo.trans (congrArg some hsinfo.symm)
      · exact hid.trans (congrArg some hsid.symm)
      · exact hname.trans (congrArg some hsname.symm)
      · exact htier.trans (congrArg some hstier.symm)
  · refine iff_of_false List.not_mem_nil fun hc => ?_
    exact not_loaded_of_reads (by rw [reads, hnone, Option.map_none]) hc.1
  · exact iff_of_false List.not_mem_nil fun hc => not_loaded_failure hc.1

/-- **`getManner`** completes when it has loaded, which a count other than 1 prevents. -/
theorem getManner_completes_iff {r : Response} {body : Body}
    (h : getMannerCallback r = some body) : Completes body ↔ getManner.Loaded r body := by
  rcases decoding_cases h with ⟨j, data, rfl, hdata, rfl⟩ | ⟨j, rfl, -, hnone, rfl⟩ | ⟨rfl, rfl⟩
  · obtain ⟨vals, hvals, hscore⟩ : ∃ vals, getManner.reads j = some vals ∧
        vals .myMannerScore = some data.mannerScore :=
      ⟨_, by rw [reads, hdata, Option.map_some], rfl⟩
    by_cases hcount : data.count = 1
    · rw [if_pos hcount, loaded_iff_of_reads hvals]
      refine iff_of_true (List.mem_singleton.mpr rfl) fun f hf m => ?_
      obtain rfl := List.mem_singleton.mp hf
      exact hscore
    · rw [if_neg hcount]
      refine iff_of_false List.not_mem_nil ?_
      exact not_loaded_of_notMem (f := .myMannerScore) List.mem_cons_self List.not_mem_nil
        zero_ne_one
  · refine iff_of_false List.not_mem_nil ?_
    exact not_loaded_of_reads (by rw [reads, hnone, Option.map_none])
  · exact iff_of_false List.not_mem_nil not_loaded_failure

/-- What `getConnection` has stored is what the reply has. -/
theorem getConnection_stores (isFriend : Bool) (data : List GetConnetionData) (m : SharedModels)
    {vals : (f : Field) → Option f.Value}
    (hfriend : vals .getFriend = if isFriend then some data else none)
    (hblack : vals .getBlackList = if isFriend then none else some data) :
    ∀ f ∈ (getConnection isFriend).fields, vals f = some (Effect.after
      (Effect.beforeCall (storeConnection isFriend data ++ [.call .plain])) m f) := by
  intro f hf
  obtain rfl := List.mem_singleton.mp hf
  cases isFriend with
  | true => exact hfriend
  | false => exact hblack

/-- **`getConnection`**, where the reply decodes or there is none, completes when it has
loaded. -/
theorem getConnection_completes_iff {isFriend : Bool} {r : Response} {body : Body}
    (h : getConnectionCallback isFriend r = some body)
    (hcaught : ¬(getConnection isFriend).Caught r) :
    Completes body ↔ (getConnection isFriend).Loaded r body := by
  rcases decoding_cases h with
    ⟨j, data, rfl, hdata, rfl⟩ | ⟨j, rfl, hvalid, hnone, rfl⟩ | ⟨rfl, rfl⟩
  · obtain ⟨vals, hvals, hfriend, hblack⟩ : ∃ vals, (getConnection isFriend).reads j = some vals ∧
        vals .getFriend = (if isFriend then some data.data else none) ∧
        vals .getBlackList = (if isFriend then none else some data.data) :=
      ⟨_, by rw [reads, hdata, Option.map_some], rfl, rfl⟩
    by_cases hcount : data.count = 1
    · rw [if_pos hcount, loaded_iff_of_reads hvals]
      refine iff_of_true ?_ fun f hf m =>
        getConnection_stores isFriend data.data m hfriend hblack f hf
      cases isFriend <;> exact List.mem_singleton.mpr rfl
    · rw [if_neg hcount]
      refine iff_of_false List.not_mem_nil ?_
      cases isFriend with
      | true =>
        exact not_loaded_of_notMem (f := .getFriend) List.mem_cons_self List.not_mem_nil
          (List.cons_ne_nil (⟨0, 0, 0, "", "", "", "", false⟩ : GetConnetionData) [])
      | false =>
        exact not_loaded_of_notMem (f := .getBlackList) List.mem_cons_self List.not_mem_nil
          (List.cons_ne_nil (⟨0, 0, 0, "", "", "", "", false⟩ : GetConnetionData) [])
  · exact absurd ⟨hvalid, Option.isNone_iff_eq_none.mpr hnone⟩ hcaught
  · exact iff_of_false List.not_mem_nil not_loaded_failure

/-- In the `catch` branch **`getConnection`** completes with nothing stored. -/
theorem getConnection_caught {isFriend : Bool} {r : Response} {body : Body}
    (h : getConnectionCallback isFriend r = some body)
    (hcaught : (getConnection isFriend).Caught r) :
    Completes body ∧ ¬(getConnection isFriend).Loaded r body ∧ ∀ m, Effect.after body m = m := by
  rcases decoding_cases h with ⟨j, data, rfl, hdata, -⟩ | ⟨j, rfl, -, hnone, rfl⟩ | ⟨rfl, -⟩
  · exact absurd (hdata.symm.trans (Option.isNone_iff_eq_none.mp hcaught.2)) nofun
  · refine ⟨List.mem_singleton.mpr rfl, ?_, fun m => rfl⟩
    exact not_loaded_of_reads (by rw [reads, hnone, Option.map_none])
  · exact absurd hcaught id

/-! ### All loaders -/

theorem completes_iff_of_callback {l : Loader} {r : Response} {body : Body}
    (h : l.callback r = some body) (hcaught : ¬l.Caught r) :
    Completes body ↔ l.Loaded r body ∧ l.NamesGame r := by
  have hunnamed : l ≠ .getGame → l.NamesGame r := by
    intro hne
    cases r with
    | body j => exact fun hc => absurd hc hne
    | failure => trivial
  cases l with
  | getRoom | getJoinRoom | getMakeRoom | getSelectedRoom | getRoomUser =>
    rw [and_iff_left (hunnamed nofun)]
    exact storing_completes_iff h rfl
      (fun j data hdata => ⟨_, by rw [reads, hdata, Option.map_some], rfl⟩)
      fun j hnone => by rw [reads, hnone, Option.map_none]
  | getGame => exact getGame_completes_iff h
  | getManner =>
    rw [and_iff_left (hunnamed nofun)]
    exact getManner_completes_iff h
  | getConnection isFriend =>
    rw [and_iff_left (hunnamed nofun)]
    exact getConnection_completes_iff h hcaught

/-- What cannot be written out as JSON again is not decoded by any loader. -/
theorem reads_eq_none {l : Loader} {j : Json} (h : isValidJSONObject j = false) :
    l.reads j = none := by
  cases j with
  | array elements => exact absurd h nofun
  | object fields => exact absurd h nofun
  | _ => cases l <;> rfl

/-- **When a loader completes**: for every loader and every reply – but for the replies
of a `getConnection` that do not decode – the completion is called exactly if the reply
is decoded and the fields of the loader have just been replaced by it, and, if the
loader is `getGame`, the game ID is not empty. -/
theorem completes_iff_loaded (l : Loader) (r : Response) (hcaught : ¬l.Caught r) :
    Completes (l.effects r) ↔ l.Loaded r (l.effects r) ∧ l.NamesGame r := by
  rw [effects]
  cases h : l.callback r with
  | some body => exact completes_iff_of_callback h hcaught
  | none =>
    -- the exception: it takes a value that no decoder would take
    refine iff_of_false List.not_mem_nil fun hc => ?_
    obtain ⟨j, vals, rfl, hvals, -⟩ := hc.1
    have hinvalid : isValidJSONObject j = false := by
      cases l <;> exact decoding_eq_none h
    exact absurd ((reads_eq_none hinvalid).symm.trans hvals) nofun

/-- A reply of `getGame` with a game that has no ID. -/
def unnamedGame : Json :=
  .array [.object [("pk", .number 3 0), ("user_pk", .number 1 0), ("name", .string "lol"),
    ("game_id", .string ""), ("tier", .number 2 0)]]

/-- **Loaded, but not completed; and completed, but not loaded.** -/
theorem completes_not_iff_loaded :
    (¬Completes (getGame.effects (.body unnamedGame)) ∧
        getGame.Loaded (.body unnamedGame) (getGame.effects (.body unnamedGame))) ∧
      Completes ((getConnection true).effects (.body (.object []))) ∧
        ¬(getConnection true).Loaded (.body (.object []))
          ((getConnection true).effects (.body (.object []))) := by
  refine ⟨⟨by decide, _, _, rfl, rfl, fun f hf m => ?_⟩, by decide, not_loaded_of_reads rfl⟩
  simp only [fields, List.mem_cons, List.not_mem_nil, or_false] at hf
  rcases hf with rfl | rfl | rfl | rfl | rfl <;> rfl

/-- A reply of `getManner` with a count of 1. -/
def goodManner : Json := .object [("count", .number 1 0), ("data", .number 4 0)]

/-- A manner score is loaded, and reported. -/
theorem goodManner_completes :
    Completes (getManner.effects (.body goodManner)) ∧
      getManner.Loaded (.body goodManner) (getManner.effects (.body goodManner)) :=
  have hcompletes : Completes (getManner.effects (.body goodManner)) := by decide
  ⟨hcompletes, ((completes_iff_loaded getManner (.body goodManner) (by decide)).mp hcompletes).1⟩

end Loader

/-! ### The sign-in

The three services of the sign-in, as the chain of the login screen sees them: a reply
that has been decoded or not, the user afterwards, and whether to go on. -/

/-- A reply, as seen by a service that decodes it. -/
def Response.reply {α : Type} (decode : Json → Option α) : Response → Reply α
  | .body j =>
    match decode j with
    | some data => .decoded data
    | none => .undecodable
  | .failure => .failure

/-- What a callback that decodes does is decided by the reply alone. -/
theorem reply_of_decoding {α : Type} {decode : Json → Option α} {loaded : α → Body} {body : Body}
    {r : Response} (h : decoding decode loaded [] r = some body) :
    (∃ data, r.reply decode = .decoded data ∧ body = loaded data) ∨
      ((r.reply decode = .undecodable ∨ r.reply decode = .failure) ∧ body = []) := by
  rcases Loader.decoding_cases h with ⟨j, data, rfl, hj, rfl⟩ | ⟨j, rfl, -, hj, rfl⟩ | ⟨rfl, rfl⟩
  · exact Or.inl ⟨data, by rw [Response.reply, hj], rfl⟩
  · exact Or.inr ⟨Or.inl (by rw [Response.reply, hj]), rfl⟩
  · exact Or.inr ⟨Or.inr rfl, rfl⟩

theorem signUp_refines {r : Response} {body : Body} (h : ServiceCall.signUpCallback r = some body)
    (m : SharedModels) :
    (SharedModels.myInfo (Effect.after body m), Effect.calls body) =
      ((m.myInfo.signUp (r.reply GetLogin.decode)).1,
        ((m.myInfo.signUp (r.reply GetLogin.decode)).2.map Completion.login).toList) := by
  rcases reply_of_decoding h with ⟨data, hr, rfl⟩ | ⟨hr | hr, rfl⟩
  · rw [hr]
    rfl
  · rw [hr]
    rfl
  · rw [hr]
    rfl

theorem getGame_refines {r : Response} {body : Body} (h : Loader.getGameCallback r = some body)
    (m : SharedModels) :
    SharedModels.myInfo (Effect.after body m) =
        (m.myInfo.getGame (r.reply (Json.decodeArray GetGame.decode))).1 ∧
      (Loader.Completes body ↔
        (m.myInfo.getGame (r.reply (Json.decodeArray GetGame.decode))).2 = true) := by
  rcases reply_of_decoding h with ⟨games, hr, rfl⟩ | ⟨hr | hr, rfl⟩
  · rw [hr]
    cases games with
    | nil => exact ⟨rfl, iff_of_false List.not_mem_nil nofun⟩
    | cons userGameInfo games =>
      dsimp only
      by_cases hempty : userGameInfo.gameID = ""
      · rw [if_neg (not_not.mpr hempty), List.append_nil]
        refine ⟨rfl, iff_of_false List.not_mem_nil ?_⟩
        simp [MyInfoModel.getGame, hempty]
      · rw [if_pos hempty]
        refine ⟨rfl, iff_of_true (List.mem_singleton.mpr rfl) ?_⟩
        simp [MyInfoModel.getGame, hempty]
  · rw [hr]
    exact ⟨rfl, iff_of_false List.not_mem_nil nofun⟩
  · rw [hr]
    exact ⟨rfl, iff_of_false List.not_mem_nil nofun⟩

theorem getManner_refines {r : Response} {body : Body} (h : Loader.getMannerCallback r = some body)
    (m : SharedModels) :
    SharedModels.myInfo (Effect.after body m) = (m.myInfo.getManner (r.reply GetManner.decode)).1 ∧
      (Loader.Completes body ↔ (m.myInfo.getManner (r.reply GetManner.decode)).2 = true) := by
  rcases reply_of_decoding h with ⟨data, hr, rfl⟩ | ⟨hr | hr, rfl⟩
  · rw [hr, MyInfoModel.getManner]
    split_ifs with hcount
    · exact ⟨rfl, iff_of_true (List.mem_singleton.mpr rfl) rfl⟩
    · exact ⟨rfl, iff_of_false List.not_mem_nil nofun⟩
  · rw [hr]
    exact ⟨rfl, iff_of_false List.not_mem_nil nofun⟩
  · rw [hr]
    exact ⟨rfl, iff_of_false List.not_mem_nil nofun⟩

end Joinus
