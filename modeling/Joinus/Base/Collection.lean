import Mathlib.Data.List.Sort

/-!
# Collections of documents under ordered ids

A document store keeps its documents under ids, writes a document by replacing
whatever was stored under its id, and lists a collection in ascending order of
ids. This file is that data structure over an arbitrary linearly ordered type of
ids: `Base.Collection` carries the order of its entries as a field, so that a
collection that lists two documents under one id, or lists them out of order,
cannot be built.

Two things are asked of it elsewhere. A *list of writes* leaves a collection
holding all of them exactly when their ids are pairwise different
(`Base.Collection.entries_setAll_perm_iff`), and a collection whose entries are a
rearrangement of a list in ascending order *is* that list
(`Base.Collection.entries_eq_of_perm`): the order in which the writes were applied
leaves no trace. Whatever has replaced what, the ids in use are those that have been
written to (`Base.Collection.mem_ids_setAll_iff`).
-/

namespace Base

variable {κ α : Type*} [LinearOrder κ]

/-! ### Entries in ascending order -/

/-- The ids of a list of entries ascend, and so are pairwise different. -/
def Ascending (es : List (κ × α)) : Prop := es.Pairwise fun e f => e.1 < f.1

/-- A document put at its place among entries in ascending order: under a new id
it is inserted, under an id already there it replaces the document. -/
def place (k : κ) (v : α) : List (κ × α) → List (κ × α)
  | [] => [(k, v)]
  | e :: es =>
    if k < e.1 then (k, v) :: e :: es
    else if e.1 < k then e :: place k v es
    else (k, v) :: es

theorem fst_nodup_of_ascending {es : List (κ × α)} (h : Ascending es) :
    (es.map Prod.fst).Nodup :=
  List.pairwise_map.mpr (h.imp fun hlt => ne_of_lt hlt)

theorem mem_of_mem_place {k : κ} {v : α} {e : κ × α} {es : List (κ × α)}
    (h : e ∈ place k v es) : e = (k, v) ∨ e ∈ es := by
  induction es with
  | nil => exact Or.inl (by simpa [place] using h)
  | cons f es ih =>
    rw [place] at h
    split_ifs at h with hlt hgt
    · rcases List.mem_cons.mp h with rfl | h
      · exact Or.inl rfl
      · exact Or.inr h
    · rcases List.mem_cons.mp h with rfl | h
      · exact Or.inr List.mem_cons_self
      · exact (ih h).imp_right (List.mem_cons_of_mem f)
    · rcases List.mem_cons.mp h with rfl | h
      · exact Or.inl rfl
      · exact Or.inr (List.mem_cons_of_mem f h)

/-- Putting a document at its place adds its id to the ids in use. -/
theorem mem_ids_place_iff {k k' : κ} {v : α} {es : List (κ × α)} :
    k ∈ (place k' v es).map Prod.fst ↔ k = k' ∨ k ∈ es.map Prod.fst := by
  induction es with
  | nil => simp [place]
  | cons e es ih =>
    rw [place]
    split_ifs with hlt hgt
    · simp
    · rw [List.map_cons, List.mem_cons, ih, List.map_cons, List.mem_cons]
      tauto
    · -- the document is replaced, and the id was there
      rw [List.map_cons, List.map_cons, le_antisymm (le_of_not_gt hgt) (le_of_not_gt hlt)]
      simp

theorem ascending_place {k : κ} {v : α} {es : List (κ × α)} (h : Ascending es) :
    Ascending (place k v es) := by
  induction es with
  | nil => exact List.pairwise_singleton _ _
  | cons f es ih =>
    obtain ⟨hf, hes⟩ := List.pairwise_cons.mp h
    rw [place]
    split_ifs with hlt hgt
    · refine List.pairwise_cons.mpr ⟨fun e he => ?_, h⟩
      rcases List.mem_cons.mp he with rfl | he
      · exact hlt
      · exact lt_trans hlt (hf e he)
    · refine List.pairwise_cons.mpr ⟨fun e he => ?_, ih hes⟩
      rcases mem_of_mem_place he with rfl | he
      · exact hgt
      · exact hf e he
    · -- the id is already there: the new document stands where the old one did
      obtain rfl : f.1 = k := le_antisymm (not_lt.mp hlt) (not_lt.mp hgt)
      exact List.pairwise_cons.mpr ⟨hf, hes⟩

/-- A write under a new id adds its document and touches nothing else. -/
theorem place_perm_of_fresh {k : κ} {v : α} {es : List (κ × α)}
    (h : k ∉ es.map Prod.fst) : (place k v es).Perm ((k, v) :: es) := by
  induction es with
  | nil => exact List.Perm.refl _
  | cons f es ih =>
    obtain ⟨hkf, hes⟩ : k ≠ f.1 ∧ k ∉ es.map Prod.fst := by simpa using h
    rw [place]
    split_ifs with hlt hgt
    · exact List.Perm.refl _
    · exact ((ih hes).cons f).trans (List.Perm.swap (k, v) f es)
    · exact absurd (le_antisymm (not_lt.mp hgt) (not_lt.mp hlt)) hkf

/-! ### Collections -/

/-- A collection: documents under pairwise different ids, listed in ascending
order of ids. -/
@[ext]
structure Collection (κ α : Type*) [LinearOrder κ] where
  /-- The documents with their ids. -/
  entries : List (κ × α)
  ascending : Ascending entries

namespace Collection

/-- The collection without documents. -/
def empty : Collection κ α := ⟨[], List.Pairwise.nil⟩

/-- A write: the document is stored under the id, whatever was there before. -/
def set (c : Collection κ α) (k : κ) (v : α) : Collection κ α :=
  ⟨place k v c.entries, ascending_place c.ascending⟩

/-- The document under an id. -/
def get (c : Collection κ α) (k : κ) : Option α :=
  (c.entries.find? fun e => e.1 = k).map Prod.snd

/-- The writes of a list, applied one after the other. -/
def setAll (c : Collection κ α) (ws : List (κ × α)) : Collection κ α :=
  ws.foldl (fun c w => c.set w.1 w.2) c

@[simp] theorem entries_empty : (empty : Collection κ α).entries = [] := rfl

@[simp] theorem setAll_nil (c : Collection κ α) : c.setAll [] = c := rfl

@[simp] theorem setAll_cons (c : Collection κ α) (w : κ × α) (ws : List (κ × α)) :
    c.setAll (w :: ws) = (c.set w.1 w.2).setAll ws := rfl

/-- An id has at most one document. -/
theorem eq_of_mem_entries {c : Collection κ α} {k : κ} {v w : α} (hv : (k, v) ∈ c.entries)
    (hw : (k, w) ∈ c.entries) : v = w :=
  (Prod.mk.inj (List.inj_on_of_nodup_map (fst_nodup_of_ascending c.ascending) hv hw rfl)).2

theorem get_eq_some {c : Collection κ α} {k : κ} {v : α} :
    c.get k = some v ↔ (k, v) ∈ c.entries := by
  constructor
  · intro h
    obtain ⟨e, he, rfl⟩ := Option.map_eq_some_iff.mp h
    have hk : e.1 = k := by simpa using List.find?_some he
    exact hk ▸ List.mem_of_find?_eq_some he
  · intro h
    obtain ⟨e, he⟩ : ∃ e, c.entries.find? (fun e => e.1 = k) = some e :=
      Option.isSome_iff_exists.mp (List.find?_isSome.mpr ⟨(k, v), h, by simp⟩)
    have hk : e.1 = k := by simpa using List.find?_some he
    have hv : (k, e.2) ∈ c.entries := hk ▸ List.mem_of_find?_eq_some he
    rw [get, he, Option.map_some, eq_of_mem_entries hv h]

theorem get_eq_none {c : Collection κ α} {k : κ} :
    c.get k = none ↔ k ∉ c.entries.map Prod.fst := by
  constructor
  · intro h hk
    obtain ⟨e, he, rfl⟩ := List.mem_map.mp hk
    exact absurd (h.symm.trans (get_eq_some.mpr he)) nofun
  · intro h
    cases hg : c.get k with
    | none => rfl
    | some v => exact absurd (List.mem_map.mpr ⟨(k, v), get_eq_some.mp hg, rfl⟩) h

/-! ### What a list of writes leaves -/

/-- A list of writes under different ids, none of them in use, adds all its
documents. -/
theorem entries_setAll_perm_of_nodup {c : Collection κ α} {ws : List (κ × α)}
    (h : ((c.entries ++ ws).map Prod.fst).Nodup) :
    (c.setAll ws).entries.Perm (c.entries ++ ws) := by
  induction ws generalizing c with
  | nil => simp
  | cons w ws ih =>
    have hfresh : w.1 ∉ c.entries.map Prod.fst := by
      rw [List.map_append, List.map_cons] at h
      exact fun hc => (List.nodup_append.mp h).2.2 w.1 hc w.1 List.mem_cons_self rfl
    have hset : (c.set w.1 w.2).entries.Perm (w :: c.entries) := place_perm_of_fresh hfresh
    have hmove : (w :: c.entries ++ ws).Perm (c.entries ++ w :: ws) :=
      List.perm_middle.symm
    have hperm : ((c.set w.1 w.2).entries ++ ws).Perm (c.entries ++ w :: ws) :=
      (hset.append_right ws).trans hmove
    exact (ih ((hperm.map Prod.fst).nodup_iff.mpr h)).trans hperm

/-- A document of the collection is one that has been written. -/
theorem mem_of_mem_entries_setAll {c : Collection κ α} {ws : List (κ × α)} {e : κ × α}
    (h : e ∈ (c.setAll ws).entries) : e ∈ c.entries ∨ e ∈ ws := by
  induction ws generalizing c with
  | nil => exact Or.inl h
  | cons w ws ih =>
    rcases ih h with hset | hrest
    · rcases mem_of_mem_place hset with rfl | hc
      · exact Or.inr List.mem_cons_self
      · exact Or.inl hc
    · exact Or.inr (List.mem_cons_of_mem w hrest)

/-- **The ids in use are the ids that have been written to**, whatever has replaced
what. -/
theorem mem_ids_setAll_iff {c : Collection κ α} {ws : List (κ × α)} {k : κ} :
    k ∈ (c.setAll ws).entries.map Prod.fst ↔
      k ∈ c.entries.map Prod.fst ∨ k ∈ ws.map Prod.fst := by
  induction ws generalizing c with
  | nil => simp
  | cons w ws ih =>
    have hset : k ∈ (c.set w.1 w.2).entries.map Prod.fst ↔
        k = w.1 ∨ k ∈ c.entries.map Prod.fst := mem_ids_place_iff
    rw [setAll_cons, ih, hset, List.map_cons, List.mem_cons]
    tauto

/-- **A list of writes loses nothing exactly when its ids are pairwise
different.** -/
theorem entries_setAll_perm_iff {ws : List (κ × α)} :
    ((empty : Collection κ α).setAll ws).entries.Perm ws ↔ (ws.map Prod.fst).Nodup := by
  constructor
  · intro h
    exact (h.map Prod.fst).nodup_iff.mp (fst_nodup_of_ascending (Collection.ascending _))
  · intro h
    exact entries_setAll_perm_of_nodup (by simpa using h)

/-- **A collection has no history**: if its entries are a rearrangement of a list
in ascending order, it lists them in that order. -/
theorem entries_eq_of_perm {c : Collection κ α} {es : List (κ × α)} (hperm : c.entries.Perm es)
    (hes : Ascending es) : c.entries = es :=
  List.Perm.eq_of_pairwise (fun _ _ _ _ hlt hgt => absurd hgt (lt_asymm hlt)) c.ascending hes hperm

end Collection

end Base
