import Mathlib.Data.List.Forall2
import Mathlib.Algebra.Ring.Int.Defs

/-!
# JSON values and keyed decoders

A JSON value, and the decoders that a compiler synthesizes for a record: each property
is read from one key of an object, and the record is decoded if every property is. What
a property does with a missing key or a `null` depends on its type only:

| property | key missing | `null` | a value of another type |
|---|---|---|---|
| required (`Base.Json.decode`) | fails | fails | fails |
| optional (`Base.Json.decodeIfPresent`) | `none` | `none` | fails |

An array is decoded if every element is (`Base.Json.decodeArray_eq_some`). So one
element, or one key of it, decides over all. Where two records read the same key, one
as an optional property and the other as a required one, they agree exactly on the
objects that have the key with something in it (`Base.Json.decode_of_decodeIfPresent`,
`Base.Json.isSome_iff_present`).

An object that has been sent to somebody comes back with more in it, and in another order.
All that is decoded from the one is decoded from the other (`Base.Json.Extends.decode`), so
what is written and read under the same key comes back.

Nothing here depends on what is decoded.
-/

namespace Base

/-- A JSON value. A number is a significand and a power of ten, as it is written. -/
inductive Json where
  | null
  | bool (b : Bool)
  | number (significand : ℤ) (exponent : ℤ)
  | string (s : String)
  | array (elements : List Json)
  | object (fields : List (String × Json))

namespace Json

/-- What an object has under a key; the keys of an object are taken to be distinct. -/
def field (key : String) : Json → Option Json
  | object fields => fields.lookup key
  | _ => none

/-! ### Decoding -/

/-- The integer that a number is, if it is one. -/
def integer (significand : ℤ) : ℤ → Option ℤ
  | .ofNat e => some (significand * 10 ^ e)
  | .negSucc e =>
    if significand % 10 ^ (e + 1) = 0 then some (significand / 10 ^ (e + 1)) else none

/-- The integers of 64 bits. -/
def IsInt64 (n : ℤ) : Prop := -2 ^ 63 ≤ n ∧ n < 2 ^ 63

instance (n : ℤ) : Decidable (IsInt64 n) := inferInstanceAs (Decidable (_ ∧ _))

/-- An integer of 64 bits. -/
def decodeInt : Json → Option ℤ
  | number significand exponent => (integer significand exponent).filter fun n => IsInt64 n
  | _ => none

def decodeBool : Json → Option Bool
  | bool b => some b
  | _ => none

def decodeString : Json → Option String
  | string s => some s
  | _ => none

variable {α : Type*}

/-- An array, if every element is decoded. -/
def decodeArray (d : Json → Option α) : Json → Option (List α)
  | array elements => elements.mapM d
  | _ => none

/-- A required property: the key is there, and what it has is decoded. -/
def decode (d : Json → Option α) (key : String) (j : Json) : Option α := (j.field key).bind d

/-- An optional property: nothing if the key is missing or has `null`. -/
def decodeIfPresent (d : Json → Option α) (key : String) : Json → Option (Option α)
  | object fields =>
    match fields.lookup key with
    | none => some none
    | some null => some none
    | some v => (d v).map some
  | _ => none

def isNull : Json → Bool
  | null => true
  | _ => false

/-- A key is there with something in it. -/
def Present (key : String) (j : Json) : Prop := (j.field key).any fun v => !v.isNull

instance (key : String) (j : Json) : Decidable (Present key j) :=
  inferInstanceAs (Decidable (_ = true))

/-! ### Properties -/

theorem decode_eq_some {d : Json → Option α} {key : String} {j : Json} {a : α} :
    j.decode d key = some a ↔ ∃ v, j.field key = some v ∧ d v = some a :=
  Option.bind_eq_some_iff

/-- **Optional and required**: a property read as an optional one is read as a required
one if there is something, and otherwise fails as a required one. -/
theorem decode_of_decodeIfPresent {d : Json → Option α} (hnull : d null = none) {key : String}
    {j : Json} {o : Option α} (h : j.decodeIfPresent d key = some o) : j.decode d key = o := by
  cases j with
  | object fields =>
    rw [decodeIfPresent] at h
    rw [decode, field]
    split at h
    · next hk =>
      rw [hk, ← Option.some.inj h]
      rfl
    · next hk =>
      rw [hk, ← Option.some.inj h]
      exact hnull
    · next v _ hk =>
      obtain ⟨a, ha, rfl⟩ := Option.map_eq_some_iff.mp h
      rw [hk]
      exact ha
  | _ => exact absurd h nofun

/-- What a required property finds, an optional one finds as well. -/
theorem decodeIfPresent_of_decode {d : Json → Option α} (hnull : d null = none) {key : String}
    {j : Json} {a : α} (h : j.decode d key = some a) :
    j.decodeIfPresent d key = some (some a) := by
  obtain ⟨v, hv, ha⟩ := decode_eq_some.mp h
  cases j with
  | object fields =>
    rw [field] at hv
    rw [decodeIfPresent, hv]
    split
    · next hk => exact absurd hk (by simp)
    · next hk =>
      obtain rfl := Option.some.inj hk
      exact absurd (hnull.symm.trans ha) (by simp)
    · next w hw hk =>
      obtain rfl := Option.some.inj hk
      rw [ha, Option.map_some]
  | _ => exact absurd hv (by simp [field])

/-- An optional property has a value exactly if its key has something in it. -/
theorem isSome_iff_present {d : Json → Option α} {key : String} {j : Json} {o : Option α}
    (h : j.decodeIfPresent d key = some o) : o.isSome ↔ j.Present key := by
  cases j with
  | object fields =>
    rw [decodeIfPresent] at h
    rw [Present, field]
    split at h
    · next hk =>
      obtain rfl := Option.some.inj h
      rw [hk]
      exact Iff.rfl
    · next hk =>
      obtain rfl := Option.some.inj h
      rw [hk]
      exact Iff.rfl
    · next v hv hk =>
      obtain ⟨a, -, rfl⟩ := Option.map_eq_some_iff.mp h
      rw [hk]
      refine iff_of_true rfl ?_
      cases v with
      | null => exact absurd rfl hv
      | _ => rfl
  | _ => exact absurd h nofun

/-! ### Arrays -/

theorem mapM_eq_some {β : Type*} {d : β → Option α} {elements : List β} {l : List α} :
    elements.mapM d = some l ↔ List.Forall₂ (fun j a => d j = some a) elements l := by
  induction elements generalizing l with
  | nil => cases l <;> simp
  | cons j elements ih =>
    rw [List.mapM_cons]
    constructor
    · intro h
      obtain ⟨a, ha, h⟩ := Option.bind_eq_some_iff.mp h
      obtain ⟨l', hl', h⟩ := Option.bind_eq_some_iff.mp h
      obtain rfl := Option.some.inj h
      exact .cons ha (ih.mp hl')
    · rintro (_ | ⟨ha, hl⟩)
      rw [ha, ih.mpr hl]
      rfl

/-- **An array is decoded element by element.** -/
theorem decodeArray_eq_some {d : Json → Option α} {j : Json} {l : List α} :
    decodeArray d j = some l ↔
      ∃ elements, j = array elements ∧ List.Forall₂ (fun e a => d e = some a) elements l := by
  cases j with
  | array elements =>
    rw [decodeArray, mapM_eq_some]
    constructor
    · intro h
      exact ⟨elements, rfl, h⟩
    · rintro ⟨elements', heq, h⟩
      obtain rfl := array.inj heq
      exact h
  | _ => exact iff_of_false nofun fun ⟨_, h, _⟩ => nomatch h

/-- An array of decodable elements is decoded, and one with an element that is not, is
not. -/
theorem isSome_decodeArray {d : Json → Option α} {elements : List Json} :
    (decodeArray d (array elements)).isSome ↔ ∀ e ∈ elements, (d e).isSome := by
  rw [decodeArray]
  induction elements with
  | nil => simp
  | cons e elements ih =>
    rw [List.forall_mem_cons, ← ih, List.mapM_cons]
    cases d e with
    | none => simp
    | some a => cases elements.mapM d <;> simp

/-! ### Writing, and objects with more in them -/

/-- An integer as it is written. -/
def ofInt (n : ℤ) : Json := number n 0

theorem decodeInt_ofInt {n : ℤ} (h : IsInt64 n) : (ofInt n).decodeInt = some n := by
  have hwritten : integer n 0 = some n := congrArg some (mul_one n)
  rw [ofInt, decodeInt, hwritten, Option.filter_some, if_pos (decide_eq_true h)]

/-- An object has all that another has, under the same keys. -/
def Extends (j k : Json) : Prop := ∀ key v, k.field key = some v → j.field key = some v

/-- **What is decoded from an object** is decoded from one with more in it. -/
theorem Extends.decode {j k : Json} (h : j.Extends k) {d : Json → Option α} {key : String} {a : α}
    (hk : k.decode d key = some a) : j.decode d key = some a := by
  obtain ⟨v, hv, ha⟩ := decode_eq_some.mp hk
  exact decode_eq_some.mpr ⟨v, h key v hv, ha⟩

/-- Keys that are added at the end. -/
theorem extends_append (fields more : List (String × Json)) :
    (object (fields ++ more)).Extends (object fields) := by
  intro key v hv
  rw [field] at hv ⊢
  rw [List.lookup_append, hv, Option.some_or]

end Json

end Base
