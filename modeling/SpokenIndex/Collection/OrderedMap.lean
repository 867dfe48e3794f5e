/-
Maps that remember the order of first insertion.

The index answers with the first candidate of the best score, so which entry comes
first is part of every answer.  An `OrderedMap` is the list of its entries, each
key once: writing a key that is present changes its value in place, writing a new
key puts it at the end, and removing entries keeps the order of the others.

Entries are looked at through `entries`; `get?` is the value at a key.  The lemmas
below say what each operation does to both views, and nothing later unfolds an
operation.
-/
namespace SpokenIndex

/-- Entries with distinct keys, in the order in which the keys were first written. -/
@[ext] structure OrderedMap (κ ν : Type) where
  entries : List (κ × ν)
  keys_nodup : (entries.map Prod.fst).Nodup

namespace OrderedMap

variable {κ ν : Type}

/-! ### Writing into a list of entries -/

/-- Writes a value: in place where the key is present, else at the end. -/
def putEntry [DecidableEq κ] (key : κ) (value : ν) : List (κ × ν) → List (κ × ν)
  | [] => [(key, value)]
  | (k, v) :: rest => if k = key then (k, value) :: rest else (k, v) :: putEntry key value rest

/-- The keys after a write: those before it, and the written key at the end if it is new. -/
theorem map_fst_putEntry [DecidableEq κ] (key : κ) (value : ν) (l : List (κ × ν)) :
    (putEntry key value l).map Prod.fst =
      if key ∈ l.map Prod.fst then l.map Prod.fst else l.map Prod.fst ++ [key] := by
  induction l with
  | nil => simp [putEntry]
  | cons e rest ih =>
    obtain ⟨k, v⟩ := e
    unfold putEntry
    by_cases h : k = key
    · simp [h]
    · simp only [h, ↓reduceIte, List.map_cons, ih, List.mem_cons]
      by_cases hm : key ∈ rest.map Prod.fst
      · simp [hm]
      · simp [hm, Ne.symm h]

/-- After a write an entry is the written one or was there before. -/
theorem mem_putEntry [DecidableEq κ] {key : κ} {value : ν} {l : List (κ × ν)} {e : κ × ν}
    (h : e ∈ putEntry key value l) : e = (key, value) ∨ e ∈ l := by
  induction l with
  | nil => exact Or.inl (by simpa [putEntry] using h)
  | cons d rest ih =>
    obtain ⟨k, v⟩ := d
    unfold putEntry at h
    split at h
    · rename_i hk
      rcases List.mem_cons.1 h with rfl | h
      · exact Or.inl (by simp [hk])
      · exact Or.inr (by simp [h])
    · rcases List.mem_cons.1 h with rfl | h
      · exact Or.inr (by simp)
      · rcases ih h with h | h
        · exact Or.inl h
        · exact Or.inr (by simp [h])

/-! ### The operations -/

/-- The map without entries. -/
def empty : OrderedMap κ ν := ⟨[], by simp⟩

instance : Inhabited (OrderedMap κ ν) := ⟨empty⟩

/-- The map after writing `value` at `key`. -/
def insert [DecidableEq κ] (m : OrderedMap κ ν) (key : κ) (value : ν) : OrderedMap κ ν where
  entries := putEntry key value m.entries
  keys_nodup := by
    rw [map_fst_putEntry]
    by_cases hkey : key ∈ m.entries.map Prod.fst
    · rw [if_pos hkey]
      exact m.keys_nodup
    · rw [if_neg hkey]
      refine List.nodup_append.2 ⟨m.keys_nodup, by simp, fun k hk k' hk' => ?_⟩
      obtain rfl := List.mem_singleton.1 hk'
      exact fun hsame => hkey (hsame ▸ hk)

/-- The map after a sequence of writes, first to last. -/
def insertAll [DecidableEq κ] (m : OrderedMap κ ν) (writes : List (κ × ν)) : OrderedMap κ ν :=
  writes.foldl (fun m e => m.insert e.1 e.2) m

/-- The map that a sequence of writes into the empty map leaves. -/
def ofList [DecidableEq κ] (writes : List (κ × ν)) : OrderedMap κ ν :=
  empty.insertAll writes

/-- The map without the entries at which `p` holds. -/
def removeWhere (m : OrderedMap κ ν) (p : κ → ν → Bool) : OrderedMap κ ν where
  entries := m.entries.filter fun e => !p e.1 e.2
  keys_nodup := m.keys_nodup.sublist (List.Sublist.map _ List.filter_sublist)

/-- The value at a key. -/
def get? [DecidableEq κ] (m : OrderedMap κ ν) (key : κ) : Option ν :=
  (m.entries.find? fun e => decide (e.1 = key)).map Prod.snd

/-- The keys, in the order of their first insertion. -/
def keys (m : OrderedMap κ ν) : List κ :=
  m.entries.map Prod.fst

/-- How many keys there are. -/
def size (m : OrderedMap κ ν) : Nat :=
  m.entries.length

/-! ### What the operations do to the views -/

@[simp] theorem entries_empty : (empty : OrderedMap κ ν).entries = [] := rfl

theorem nodup_keys (m : OrderedMap κ ν) : m.keys.Nodup := m.keys_nodup

theorem keys_insert [DecidableEq κ] (m : OrderedMap κ ν) (key : κ) (value : ν) :
    (m.insert key value).keys = if key ∈ m.keys then m.keys else m.keys ++ [key] :=
  map_fst_putEntry key value m.entries

theorem mem_entries_removeWhere {m : OrderedMap κ ν} {p : κ → ν → Bool} {e : κ × ν} :
    e ∈ (m.removeWhere p).entries ↔ e ∈ m.entries ∧ p e.1 e.2 = false := by
  simp [removeWhere]

/-- A removal that takes no entry takes nothing. -/
theorem removeWhere_of_none {m : OrderedMap κ ν} {p : κ → ν → Bool}
    (h : ∀ e ∈ m.entries, p e.1 e.2 = false) : m.removeWhere p = m := by
  refine OrderedMap.ext (List.filter_eq_self.2 fun e he => ?_)
  simp only [h e he, Bool.not_false]

@[simp] theorem insertAll_nil [DecidableEq κ] (m : OrderedMap κ ν) : m.insertAll [] = m := rfl

@[simp] theorem insertAll_cons [DecidableEq κ] (m : OrderedMap κ ν) (e : κ × ν)
    (writes : List (κ × ν)) :
    m.insertAll (e :: writes) = (m.insert e.1 e.2).insertAll writes := rfl

theorem insertAll_append [DecidableEq κ] (m : OrderedMap κ ν) (a b : List (κ × ν)) :
    m.insertAll (a ++ b) = (m.insertAll a).insertAll b := by
  simp [insertAll, List.foldl_append]

end OrderedMap

end SpokenIndex
