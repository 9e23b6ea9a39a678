import Joinus.Making.Joiner
import Joinus.Making.Requests
import Joinus.Rooms.Cell
import Joinus.Service.Screens
import Joinus.Service.Users

/-!
# Rooms between the apps

Many apps post rooms to one server, and each has a home list of what the server lists. What
the server is, the app does not say; here it is anything that keeps to what the two sides
rely on. It lists rooms that have been posted, each as an object with what was posted in it
and with keys of its own, in which the users may change (`Joinus.ListedRoom`). What it has
under its own keys is taken to decode, the users included: each has a picture and a name,
which a user who signs in need not have (`Joinus.getRoom_shows_iff`). A reply may be late, so
that it has rooms as they were some time ago; it may leave rooms out, and put them in any
order; it may be none at all.

| event | what it does |
|---|---|
| an app acts | its form and its requests change |
| the server lists a room, or a room anew | there is one more object to be listed |
| `getRoom` is answered | the home list is replaced, if the reply is one of rooms |

Every home list is what was listed in the last reply that had rooms, object by object
(`Joinus.Exchange.lists_last_answer`), as no object of such a server fails to be decoded: what
a form has posted never stands in the way. And every room on it is one that a form has
posted: with a title, for two to four people, with tiers that are tiers – and with a start
date that cannot be read, so that the cell of its row cannot be made on any device at any
time (`Joinus.Exchange.listed_rooms_posted`).
-/

namespace Joinus

open Base

/-! ### What every form posts -/

/-- A request for a room that can be asked for, if not begun: nobody can read its start
date. -/
structure PostRoom.OfForm (p : PostRoom) : Prop where
  roomName : p.roomName ≠ ""
  peopleNumber : 2 ≤ p.peopleNumber ∧ p.peopleNumber ≤ 4
  lowestTier : IsTier p.lowestTier
  highestTier : IsTier p.highestTier
  startDate : ∀ reader now, calculateStartTime reader now p.startDate = none

/-- **The request of a complete form**, whatever has been done in the app before. -/
theorem MakingApp.Reachable.ofForm {z : TimeZone} {myPk : ℤ} {s : MakingApp}
    (hs : s.Reachable z myPk) (hcomplete : ¬s.model.Incomplete) :
    (postRoom myPk s.model).OfForm := by
  obtain ⟨as, hr⟩ := hs
  obtain ⟨hone, hfour⟩ := MakingApp.count_bounds hr
  obtain ⟨hlowest, hhighest⟩ := MakingApp.tiers_bounds hr
  obtain ⟨htitle, hcount, -⟩ : s.model.roomTitle ≠ "" ∧ s.model.countJoinPeople ≠ 1 ∧
      s.model.selectedGame ≠ "" := by simpa [MakeMatchingModel.Incomplete, not_or] using hcomplete
  refine ⟨htitle, ⟨?_, hfour⟩, hhighest, hlowest, fun reader now => ?_⟩
  · simp only [postRoom]
    omega
  · refine calculateStartTime_eq_none ?_
    rcases MakingApp.startGameDate_cases hr with hempty | ⟨date, hdate⟩
    · rw [postRoom, hempty]
      exact readStartDate_empty reader
    · rw [postRoom, hdate]
      exact readStartDate_toString z reader date

/-! ### The server, the apps and the lists -/

/-- A room as the server lists it at some time, and the request it was made from. -/
structure ListedRoom (ι : Type) where
  maker : ι
  request : PostRoom
  object : Json
  echoes : object.Extends request.body
  keys : ServerKeys object

/-- What `getRoom` is answered with: rooms of the server, something that is no list of rooms,
or nothing. -/
inductive Listing where
  | rooms (versions : List ℕ)
  | other (j : Json)
  | failure

/-- The apps, with their shared models, and the server. The home list of an app is in its
models. -/
structure Exchange (ι : Type) where
  apps : ι → MakingApp
  models : ι → SharedModels
  rooms : List (ListedRoom ι)

inductive ExchangeAction (ι : Type) where
  /-- Anything on the form, and the replies to `postRoom`. -/
  | app (i : ι) (a : MakingAction)
  /-- The server lists a room, or a room anew. -/
  | list (room : ListedRoom ι)
  /-- The `getRoom` of the home list is answered, at the start or when it is pulled. -/
  | getRoom (i : ι) (answer : Listing)
  /-- The `getRoom` of a confirmed form is answered. -/
  | getReply (i : ι) (k : ℕ) (answer : Listing)

/-- An action other than the reply to a `getRoom`. -/
def MakingAction.isGetReply : MakingAction → Bool
  | .getReply _ _ => true
  | _ => false

/-- The numbers of the rooms in an answer. -/
def Listing.versions : Listing → Option (List ℕ)
  | .rooms versions => some versions
  | .other _ | .failure => none

variable {ι : Type}

/-- The numbers of the rooms that are listed to an app. -/
def ExchangeAction.listing [DecidableEq ι] (i : ι) : ExchangeAction ι → Option (List ℕ)
  | .app _ _ | .list _ => none
  | .getRoom j answer | .getReply j _ answer => if j = i then answer.versions else none

/-- The numbers of the rooms that have been listed to an app last. -/
def lastListing [DecidableEq ι] (i : ι) (as : List (ExchangeAction ι)) : List ℕ :=
  as.foldl (fun versions a => (a.listing i).getD versions) []

namespace Exchange

def launched : Exchange ι where
  apps := fun _ => .launched
  models := fun _ => .initial
  rooms := []

/-- The objects of the server under some numbers. -/
def objects (s : Exchange ι) (versions : List ℕ) : Option (List Json) :=
  versions.mapM fun k => s.rooms[k]?.map ListedRoom.object

/-- What is sent with an answer. -/
def response (s : Exchange ι) : Listing → Option Response
  | .rooms versions => (s.objects versions).map fun js => .body (.array js)
  | .other j =>
    if isValidJSONObject j = true ∧ (decodeRooms j).isNone = true then some (.body j) else none
  | .failure => some .failure

/-! ### The server has what was posted -/

variable {z : ι → TimeZone} {myPk : ι → ℤ}

/-- **The invariant of the server**: every app is as its own actions have left it, and every
room that is listed has been posted. -/
structure Honest (z : ι → TimeZone) (myPk : ι → ℤ) (s : Exchange ι) : Prop where
  reachable : ∀ i, (s.apps i).Reachable (z i) (myPk i)
  posted : ∀ room ∈ s.rooms, room.request ∈ (s.apps room.maker).posted.map Prod.snd

theorem honest_launched : (launched : Exchange ι).Honest z myPk where
  reachable _ := ⟨[], rfl⟩
  posted _ hroom := absurd hroom List.not_mem_nil

/-- A room that is listed is what an app has posted, with a complete form. -/
theorem Honest.request {s : Exchange ι} (hs : s.Honest z myPk) {room : ListedRoom ι}
    (hroom : room ∈ s.rooms) :
    ∃ u : MakingApp, u.Reachable (z room.maker) (myPk room.maker) ∧ ¬u.model.Incomplete ∧
      room.request = postRoom (myPk room.maker) u.model := by
  obtain ⟨p, hp, hrequest⟩ := List.mem_map.mp (hs.posted room hroom)
  rw [← hrequest]
  exact MakingApp.posted_postRoom (hs.reachable room.maker) p hp

/-! ### The steps -/

variable [DecidableEq ι]

/-- The callback of `getRoom` in an app. -/
def answered (s : Exchange ι) (i : ι) (r : Response) : Exchange ι :=
  { s with
    models := Function.update s.models i (Effect.after (Loader.getRoom.effects r) (s.models i)) }

def step (z : ι → TimeZone) (myPk : ι → ℤ) (s : Exchange ι) : ExchangeAction ι → Option (Exchange ι)
  | .app i a =>
    if a.isGetReply then none
    else (MakingApp.step (z i) (myPk i) (s.apps i) a).map fun app =>
      { s with apps := Function.update s.apps i app }
  | .list room =>
    if room.request ∈ (s.apps room.maker).posted.map Prod.snd then
      some { s with rooms := s.rooms ++ [room] }
    else none
  | .getRoom i answer => (s.response answer).map (s.answered i)
  | .getReply i k answer =>
    (s.response answer).bind fun r =>
      (MakingApp.step (z i) (myPk i) (s.apps i) (.getReply k (r.reply decodeRooms))).map fun app =>
        { s.answered i r with apps := Function.update s.apps i app }

/-! ### What a step can do -/

/-- **What a step can do.** -/
inductive Moved (z : ι → TimeZone) (myPk : ι → ℤ) (s : Exchange ι) :
    ExchangeAction ι → Exchange ι → Prop where
  | app (i : ι) (a : MakingAction) (app : MakingApp) (ha : a.isGetReply = false)
    (happ : MakingApp.step (z i) (myPk i) (s.apps i) a = some app) :
    Moved z myPk s (.app i a) { s with apps := Function.update s.apps i app }
  | list (room : ListedRoom ι)
    (hposted : room.request ∈ (s.apps room.maker).posted.map Prod.snd) :
    Moved z myPk s (.list room) { s with rooms := s.rooms ++ [room] }
  | getRoom (i : ι) (answer : Listing) (r : Response) (hr : s.response answer = some r) :
    Moved z myPk s (.getRoom i answer) (s.answered i r)
  | getReply (i : ι) (k : ℕ) (answer : Listing) (r : Response) (app : MakingApp)
    (hr : s.response answer = some r)
    (happ : MakingApp.step (z i) (myPk i) (s.apps i) (.getReply k (r.reply decodeRooms)) =
      some app) :
    Moved z myPk s (.getReply i k answer)
      { s.answered i r with apps := Function.update s.apps i app }

theorem moved {s t : Exchange ι} {a : ExchangeAction ι} (h : s.step z myPk a = some t) :
    Moved z myPk s a t := by
  rcases a with ⟨i, a⟩ | room | ⟨i, answer⟩ | ⟨i, k, answer⟩ <;> rw [step] at h
  · split_ifs at h with ha
    obtain ⟨app, happ, rfl⟩ := Option.map_eq_some_iff.mp h
    exact .app i a app (Bool.eq_false_iff.mpr ha) happ
  · split_ifs at h with hposted
    obtain rfl := Option.some.inj h
    exact .list room hposted
  · obtain ⟨r, hr, rfl⟩ := Option.map_eq_some_iff.mp h
    exact .getRoom i answer r hr
  · obtain ⟨r, hr, h⟩ := Option.bind_eq_some_iff.mp h
    obtain ⟨app, happ, rfl⟩ := Option.map_eq_some_iff.mp h
    exact .getReply i k answer r app hr happ

/-! ### The invariant is kept -/

/-- An app that takes a step of its own keeps its requests. -/
theorem honest_update {s : Exchange ι} (hs : s.Honest z myPk) {i : ι} {a : MakingAction}
    {app : MakingApp} (happ : MakingApp.step (z i) (myPk i) (s.apps i) a = some app) :
    (∀ j, (Function.update s.apps i app j).Reachable (z j) (myPk j)) ∧
      ∀ room ∈ s.rooms,
        room.request ∈ (Function.update s.apps i app room.maker).posted.map Prod.snd := by
  refine ⟨fun j => ?_, fun room hroom => ?_⟩
  · rcases eq_or_ne j i with rfl | hne
    · rw [Function.update_self]
      exact MakingApp.reachable_step _ _ _ (hs.reachable j) happ
    · rw [Function.update_of_ne hne]
      exact hs.reachable j
  · rcases eq_or_ne room.maker i with hmaker | hne
    · rw [hmaker, Function.update_self]
      exact List.map_subset _ (MakingApp.posted_subset happ) (hmaker ▸ hs.posted room hroom)
    · rw [Function.update_of_ne hne]
      exact hs.posted room hroom

theorem honest_step (s : Exchange ι) (a : ExchangeAction ι) (t : Exchange ι)
    (hs : s.Honest z myPk) (h : s.step z myPk a = some t) : t.Honest z myPk := by
  cases moved h with
  | app i a app ha happ =>
    obtain ⟨hreachable, hposted⟩ := honest_update hs happ
    exact ⟨hreachable, hposted⟩
  | list room hposted =>
    refine ⟨hs.reachable, ?_⟩
    rw [List.forall_mem_append, List.forall_mem_singleton]
    exact ⟨hs.posted, hposted⟩
  | getRoom i answer r hr => exact ⟨hs.reachable, hs.posted⟩
  | getReply i k answer r app hr happ =>
    obtain ⟨hreachable, hposted⟩ := honest_update hs happ
    exact ⟨hreachable, hposted⟩

/-! ### What the lists have -/

/-- A list of rooms is that of the objects under some numbers. -/
def Lists (s : Exchange ι) : List ℕ → List GetRoomInfo → Prop :=
  List.Forall₂ fun k room =>
    ∃ listed, s.rooms[k]? = some listed ∧ GetRoomInfo.decode listed.object = some room

omit [DecidableEq ι] in
/-- The server forgets nothing: what has been listed is what would be listed now. -/
theorem Lists.mono {s t : Exchange ι} (hrooms : s.rooms <+: t.rooms) {versions : List ℕ}
    {list : List GetRoomInfo} (h : s.Lists versions list) : t.Lists versions list := by
  obtain ⟨more, hmore⟩ := hrooms
  refine List.Forall₂.imp ?_ h
  rintro k room ⟨listed, hk, hroom⟩
  refine ⟨listed, ?_, hroom⟩
  rw [← hmore, List.getElem?_append_left (List.getElem?_eq_some_iff.mp hk).1]
  exact hk

omit [DecidableEq ι] in
/-- A room of the list is decoded from an object of the server. -/
theorem Lists.exists_listed {s : Exchange ι} {versions : List ℕ} {list : List GetRoomInfo}
    (h : s.Lists versions list) :
    ∀ room ∈ list, ∃ listed ∈ s.rooms, GetRoomInfo.decode listed.object = some room := by
  induction h with
  | nil => exact List.forall_mem_nil _
  | cons hroom _ ih =>
    obtain ⟨listed, hk, hroom⟩ := hroom
    exact List.forall_mem_cons.mpr ⟨⟨listed, List.mem_of_getElem? hk, hroom⟩, ih⟩

omit [DecidableEq ι] in
/-- **No object of the server fails to be decoded**: the objects under some numbers are, all
of them. -/
theorem Honest.decode_objects {s : Exchange ι} (hs : s.Honest z myPk) {versions : List ℕ}
    {js : List Json} (hjs : s.objects versions = some js) :
    ∃ list, decodeRooms (.array js) = some list ∧ s.Lists versions list := by
  rw [objects, Json.mapM_eq_some] at hjs
  induction hjs with
  | nil => exact ⟨[], rfl, .nil⟩
  | @cons k j versions js hk hjs ih =>
    obtain ⟨list, hlist, hlists⟩ := ih
    obtain ⟨listed, hlisted, rfl⟩ := Option.map_eq_some_iff.mp hk
    obtain ⟨u, ⟨as, hu⟩, -, hrequest⟩ := hs.request (List.mem_of_getElem? hlisted)
    obtain ⟨room, hroom, -⟩ := exists_decode_of_extends
      (hrequest ▸ MakingApp.fits_postRoom hu) listed.echoes listed.keys
    refine ⟨room :: list, ?_, .cons ⟨listed, hlisted, hroom⟩ hlists⟩
    rw [decodeRooms, Json.decodeArray, Json.mapM_eq_some] at hlist ⊢
    exact .cons hroom hlist

omit [DecidableEq ι] in
/-- **What an answer does to the list**: one that lists rooms replaces it by them, and any
other leaves it as it is. -/
theorem Honest.list_after {s : Exchange ι} (hs : s.Honest z myPk) {answer : Listing}
    {r : Response} (hr : s.response answer = some r) (m : SharedModels) {versions : List ℕ}
    (hm : s.Lists versions (m .gameList)) :
    s.Lists (answer.versions.getD versions)
      (Effect.after (Loader.getRoom.effects r) m .gameList) := by
  rcases answer with versions' | j | - <;> rw [response] at hr
  · obtain ⟨js, hjs, rfl⟩ := Option.map_eq_some_iff.mp hr
    obtain ⟨list, hlist, hlists⟩ := hs.decode_objects hjs
    rw [decodeRooms] at hlist
    have hafter : listAfter js m = list := by rw [listAfter_eq, hlist, Option.getD_some]
    rw [listAfter] at hafter
    rwa [hafter]
  · split_ifs at hr with hother
    obtain rfl := Option.some.inj hr
    have hnone : Json.decodeArray GetRoomInfo.decode j = none :=
      Option.isNone_iff_eq_none.mp hother.2
    rw [Loader.effects, Loader.callback, Loader.getRoomCallback, storing, decoding,
      if_pos hother.1, hnone]
    exact hm
  · obtain rfl := Option.some.inj hr
    exact hm

/-- **The invariant of the lists**, with the numbers listed last to an app. -/
structure ListsLast (z : ι → TimeZone) (myPk : ι → ℤ) (i : ι) (versions : List ℕ)
    (s : Exchange ι) : Prop where
  honest : s.Honest z myPk
  lists : s.Lists versions (s.models i .gameList)

theorem models_answered_self (s : Exchange ι) (i : ι) (r : Response) :
    (s.answered i r).models i = Effect.after (Loader.getRoom.effects r) (s.models i) :=
  Function.update_self _ _ _

theorem models_answered_of_ne (s : Exchange ι) {i j : ι} (hne : i ≠ j) (r : Response) :
    (s.answered j r).models i = s.models i :=
  Function.update_of_ne hne _ _

/-- The list of an app after an answer to one. -/
theorem lists_answered {s : Exchange ι} (hs : s.Honest z myPk) {i j : ι} {versions : List ℕ}
    (hlists : s.Lists versions (s.models i .gameList)) {answer : Listing} {r : Response}
    (hr : s.response answer = some r) :
    s.Lists ((if j = i then answer.versions else none).getD versions)
      ((s.answered j r).models i .gameList) := by
  rcases eq_or_ne i j with rfl | hne
  · rw [if_pos rfl, models_answered_self]
    exact hs.list_after hr _ hlists
  · rw [if_neg hne.symm, models_answered_of_ne s hne]
    exact hlists

theorem listsLast_step {i : ι} (versions : List ℕ) (s : Exchange ι) (a : ExchangeAction ι)
    (t : Exchange ι) (hs : s.ListsLast z myPk i versions) (h : s.step z myPk a = some t) :
    t.ListsLast z myPk i ((a.listing i).getD versions) := by
  refine ⟨honest_step s a t hs.honest h, ?_⟩
  cases moved h with
  | app j a app ha happ => exact hs.lists
  | list room hposted => exact hs.lists.mono (List.prefix_append _ _)
  | getRoom j answer r hr => exact lists_answered hs.honest hs.lists hr
  | getReply j k answer r app hr happ => exact lists_answered hs.honest hs.lists hr

theorem listsLast_of_run {s : Exchange ι} {as : List (ExchangeAction ι)}
    (hr : run (step z myPk) launched as = some s) (i : ι) :
    s.ListsLast z myPk i (lastListing i as) :=
  run_invariant_foldl (P := ListsLast z myPk i) listsLast_step ⟨honest_launched, .nil⟩ hr

/-- **Every list is the last listing**: in every run of any number of apps, the home list of
an app has, one by one and in this order, the rooms of the last answer to the app that had
rooms. -/
theorem lists_last_answer {s : Exchange ι} {as : List (ExchangeAction ι)}
    (hr : run (step z myPk) launched as = some s) (i : ι) :
    s.Lists (lastListing i as) (s.models i .gameList) :=
  (listsLast_of_run hr i).lists

/-- A room for tonight, as the first app posts it. -/
def forTonight : PostRoom := ⟨"league of legends", 0, 7, 2, "tonight", "", 7, false⟩

/-- One app posts a room, the server lists it, and the other app pulls its list. -/
def postedAndPulled : List (ExchangeAction Bool) :=
  [.app true (.openForm 0), .app true (.edit (.editTitle "tonight")), .app true (.edit .countUp),
    .app true (.edit (.chooseGame .lol)), .app true .confirm,
    .list ⟨true, forTonight, listedRoom forTonight, Json.extends_append _ _,
      serverKeys_listedRoom _⟩,
    .getRoom false (.rooms [0])]

/-- **The room is on the list of the app that has pulled**, and not on that of its maker. -/
theorem postedAndPulled_listed :
    ∃ s, run (step (fun _ => TimeZone.fixed 32400) fun _ => 7) launched postedAndPulled = some s ∧
      s.Lists [0] (s.models false .gameList) ∧ s.Lists [] (s.models true .gameList) := by
  obtain ⟨s, hs⟩ : ∃ s, run (step (fun _ => TimeZone.fixed 32400) fun _ => 7) launched
      postedAndPulled = some s := ⟨_, rfl⟩
  exact ⟨s, hs, lists_last_answer hs false, lists_last_answer hs true⟩

/-- **Every room of every list has been posted**: in every run of any number of apps, a room
on the home list of one has the values of a request that one of the apps has sent, with a
title, for two to four people, with tiers that are tiers; and the cell of its row cannot be
made, on any device and at any time. -/
theorem listed_rooms_posted {s : Exchange ι} {as : List (ExchangeAction ι)}
    (hr : run (step z myPk) launched as = some s) (i : ι) :
    ∀ room ∈ s.models i .gameList,
      (∃ maker, ∃ p ∈ (s.apps maker).posted, p.2.OfForm ∧ room.Echoes p.2) ∧
        ∀ reader clock, roomCell reader clock room = none := by
  intro room hroom
  obtain ⟨hs, hlists⟩ := listsLast_of_run hr i
  obtain ⟨listed, hmem, hdecode⟩ := hlists.exists_listed room hroom
  obtain ⟨p, hp, hrequest⟩ := List.mem_map.mp (hs.posted listed hmem)
  obtain ⟨u, hu, hcomplete, hpost⟩ := hs.request hmem
  have hofForm : listed.request.OfForm := hpost ▸ hu.ofForm hcomplete
  have hechoes : room.Echoes listed.request := by
    obtain ⟨history, hu⟩ := hu
    exact GetRoomInfo.echoes_of_decode (hpost ▸ MakingApp.fits_postRoom hu) listed.echoes hdecode
  refine ⟨⟨listed.maker, p, hp, ?_⟩, fun reader clock => ?_⟩
  · rw [hrequest]
    exact ⟨hofForm, hechoes⟩
  · rw [roomCell, hechoes.startDate, hofForm.startDate]

/-- **The room is on the list, and its cell cannot be made.** -/
theorem postedAndPulled_unshown :
    ∃ s, run (step (fun _ => TimeZone.fixed 32400) fun _ => 7) launched postedAndPulled = some s ∧
      ∃ room ∈ s.models false .gameList, room.roomName = "tonight" ∧
        roomCell (TimeZone.fixed 32400) ⟨0, 0, 0⟩ room = none := by
  obtain ⟨s, hs, room, hroom, hname⟩ : ∃ s, run (step (fun _ => TimeZone.fixed 32400) fun _ => 7)
      launched postedAndPulled = some s ∧ ∃ room ∈ s.models false .gameList,
        room.roomName = "tonight" := ⟨_, rfl, _, List.mem_cons_self, rfl⟩
  exact ⟨s, hs, room, hroom, hname, (listed_rooms_posted hs false room hroom).2 _ _⟩

end Exchange

end Joinus
