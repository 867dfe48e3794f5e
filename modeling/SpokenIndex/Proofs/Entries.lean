/-
What writes and removals do to the entries of a map.

An entry of a map after a sequence of writes is one of the writes, or was there before
and its key was not written.  The other way round a write may be lost, since a later one
can take its key; it is not where all writes of the key agree, and then the order of
the writes does not matter.  That is the whole difference between an index in which
names collide and one in which they do not.
-/
import Mathlib
import SpokenIndex.Collection.OrderedMap

namespace SpokenIndex.OrderedMap

variable {κ ν : Type} [DecidableEq κ] {m : OrderedMap κ ν} {key : κ} {value : ν}
  {writes : List (κ × ν)}

theorem get?_eq_some_iff : m.get? key = some value ↔ (key, value) ∈ m.entries := by
  rw [get?, Option.map_eq_some_iff]
  constructor
  · intro hgiven
    obtain ⟨⟨k, v⟩, hfind, rfl⟩ := hgiven
    have hk : k = key := by simpa using List.find?_some hfind
    exact hk ▸ List.mem_of_find?_eq_some hfind
  · intro hmem
    refine ⟨(key, value), ?_, rfl⟩
    cases hfind : m.entries.find? fun e => decide (e.1 = key) with
    | none =>
        have hnone := List.find?_eq_none.mp hfind (key, value) hmem
        simp at hnone
    | some e =>
        have hkey : e.1 = key := by simpa using List.find?_some hfind
        exact congrArg some
          (List.inj_on_of_nodup_map m.keys_nodup (List.mem_of_find?_eq_some hfind) hmem hkey)

omit [DecidableEq κ] in
theorem mem_keys : key ∈ m.keys ↔ ∃ value, (key, value) ∈ m.entries := by
  rw [keys, List.mem_map]
  constructor
  · intro hgiven
    obtain ⟨⟨k, value⟩, he, rfl⟩ := hgiven
    exact ⟨value, he⟩
  · intro hgiven
    obtain ⟨value, he⟩ := hgiven
    exact ⟨(key, value), he, rfl⟩

omit [DecidableEq κ] in
theorem mem_keys_removeWhere {p : κ → ν → Bool} :
    key ∈ (m.removeWhere p).keys ↔ ∃ value, (key, value) ∈ m.entries ∧ p key value = false := by
  rw [mem_keys]
  exact exists_congr fun value => mem_entries_removeWhere

/-- A key is removed with the one entry that it has. -/
theorem mem_keys_removeWhere_iff_not {p : κ → ν → Bool} (h : key ∈ m.keys) :
    key ∈ (m.removeWhere p).keys ↔ ¬ ∃ value, (key, value) ∈ m.entries ∧ p key value = true := by
  obtain ⟨value, hvalue⟩ := mem_keys.mp h
  have honly : ∀ other, (key, other) ∈ m.entries → other = value := by
    intro other hother
    rw [← get?_eq_some_iff] at hother hvalue
    exact Option.some.inj (hother.symm.trans hvalue)
  rw [mem_keys_removeWhere]
  constructor
  · intro hkept hremoved
    obtain ⟨kept, hkeptmem, hfalse⟩ := hkept
    obtain ⟨removed, hremovedmem, htrue⟩ := hremoved
    rw [honly kept hkeptmem] at hfalse
    rw [honly removed hremovedmem, hfalse] at htrue
    exact Bool.false_ne_true htrue
  · intro hnone
    refine ⟨value, hvalue, ?_⟩
    rw [← Bool.not_eq_true]
    exact fun htrue => hnone ⟨value, hvalue, htrue⟩

/-- Two maps hold the same if they have the same entries. -/
theorem get?_eq_of_mem_iff {a b : OrderedMap κ ν}
    (h : ∀ e, e ∈ a.entries ↔ e ∈ b.entries) (k : κ) : a.get? k = b.get? k := by
  refine Option.ext fun v => ?_
  rw [get?_eq_some_iff, get?_eq_some_iff, h]

theorem mem_putEntry_self (l : List (κ × ν)) : (key, value) ∈ putEntry key value l := by
  induction l with
  | nil => simp [putEntry]
  | cons e rest ih =>
      obtain ⟨k, v⟩ := e
      rw [putEntry]
      split
      · rename_i hk
        simp [hk]
      · exact List.mem_cons_of_mem _ ih

theorem mem_putEntry_of_ne {e : κ × ν} {l : List (κ × ν)} (hne : e.1 ≠ key) (h : e ∈ l) :
    e ∈ putEntry key value l := by
  induction l with
  | nil => simp at h
  | cons d rest ih =>
      obtain ⟨k, v⟩ := d
      rw [putEntry]
      split
      · rename_i hk
        rcases List.mem_cons.mp h with rfl | h
        · exact absurd hk hne
        · exact List.mem_cons_of_mem _ h
      · rcases List.mem_cons.mp h with rfl | h
        · exact List.mem_cons_self
        · exact List.mem_cons_of_mem _ (ih h)

/-- A write puts its entry in the place of any other entry of its key. -/
theorem mem_entries_insert {e : κ × ν} :
    e ∈ (m.insert key value).entries ↔ e = (key, value) ∨ e ∈ m.entries ∧ e.1 ≠ key := by
  have hnew : (key, value) ∈ (m.insert key value).entries := mem_putEntry_self m.entries
  constructor
  · intro h
    by_cases hkey : e.1 = key
    · exact Or.inl (List.inj_on_of_nodup_map (m.insert key value).keys_nodup h hnew hkey)
    · rcases mem_putEntry h with rfl | h
      · exact absurd rfl hkey
      · exact Or.inr ⟨h, hkey⟩
  · intro hgiven
    rcases hgiven with rfl | ⟨h, hne⟩
    · exact hnew
    · exact mem_putEntry_of_ne hne h

/-- After writes an entry is one of them, or an old one whose key was not written. -/
theorem mem_of_mem_insertAll {e : κ × ν} (h : e ∈ (m.insertAll writes).entries) :
    e ∈ writes ∨ e ∈ m.entries ∧ ∀ w ∈ writes, w.1 ≠ e.1 := by
  induction writes generalizing m with
  | nil => exact Or.inr ⟨h, by simp⟩
  | cons w rest ih =>
      rcases ih h with h | ⟨h, hrest⟩
      · exact Or.inl (List.mem_cons_of_mem _ h)
      · rcases mem_entries_insert.mp h with rfl | ⟨h, hne⟩
        · exact Or.inl List.mem_cons_self
        · refine Or.inr ⟨h, fun d hd => ?_⟩
          rcases List.mem_cons.mp hd with rfl | hd
          · exact hne.symm
          · exact hrest d hd

/-- Where all writes of a key agree, the entry is there if it was written or was there before. -/
theorem mem_insertAll_iff (hagree : ∀ w ∈ writes, w.1 = key → w.2 = value) :
    (key, value) ∈ (m.insertAll writes).entries ↔
      (key, value) ∈ writes ∨ (key, value) ∈ m.entries := by
  induction writes generalizing m with
  | nil => simp
  | cons w rest ih =>
      rw [insertAll_cons, ih fun d hd => hagree d (List.mem_cons_of_mem _ hd), mem_entries_insert,
        List.mem_cons]
      have hw : w.1 = key → (key, value) = w := by
        intro hkey
        rw [← hkey, ← hagree w List.mem_cons_self hkey]
      constructor
      · intro hgiven
        rcases hgiven with h | h | ⟨h, -⟩
        · exact Or.inl (Or.inr h)
        · exact Or.inl (Or.inl h)
        · exact Or.inr h
      · intro hgiven
        rcases hgiven with (h | h) | h
        · exact Or.inr (Or.inl h)
        · exact Or.inl h
        · by_cases hkey : w.1 = key
          · exact Or.inr (Or.inl (hw hkey))
          · exact Or.inr (Or.inr ⟨h, fun hc => hkey hc.symm⟩)

theorem mem_of_mem_ofList {e : κ × ν} (h : e ∈ (ofList writes).entries) : e ∈ writes := by
  rcases mem_of_mem_insertAll h with h | ⟨h, -⟩
  · exact h
  · exact absurd h List.not_mem_nil

theorem mem_ofList_iff (hagree : ∀ w ∈ writes, w.1 = key → w.2 = value) :
    (key, value) ∈ (ofList writes).entries ↔ (key, value) ∈ writes := by
  rw [ofList, mem_insertAll_iff hagree]
  simp

/-- An entry that one item writes is there if no item writes its key for another value. -/
theorem mem_ofList_flatMap {α : Type} {items : List α} {f : α → List (κ × ν)} {a : α}
    {e : κ × ν} (ha : a ∈ items) (he : e ∈ f a)
    (hagree : ∀ b ∈ items, ∀ w ∈ f b, w.1 = e.1 → w.2 = e.2) :
    e ∈ (ofList (items.flatMap f)).entries := by
  refine (mem_ofList_iff fun w hw => ?_).mpr (List.mem_flatMap.mpr ⟨a, ha, he⟩)
  obtain ⟨b, hb, hwrite⟩ := List.mem_flatMap.mp hw
  exact hagree b hb w hwrite

end SpokenIndex.OrderedMap
