/-
What a sequence of writes leaves in a map.

Writing a key again changes its value and not its place.  So the keys of the map stand in
the order in which they were first written, and each leads to the value that was written
last.  Nothing more can be said of the map: its keys in order and the value of each are
all there is of it, and two maps that agree on these are one map.
-/
import SpokenIndex.Proofs.Entries

namespace SpokenIndex.OrderedMap

variable {κ ν : Type} [DecidableEq κ] {m other : OrderedMap κ ν} {writes : List (κ × ν)}

/-- A map holds the keys of a sequence of writes in the order of their first writes, each with
the value of its last write. -/
structure IsLastWrites (writes : List (κ × ν)) (m : OrderedMap κ ν) : Prop where
  keys : m.keys = (writes.map Prod.fst).eraseDups
  values : ∀ key, m.get? key = writes.reverse.lookup key

/-! ### One write after another -/

theorem get?_insert (m : OrderedMap κ ν) (key : κ) (value : ν) (k : κ) :
    (m.insert key value).get? k = if k = key then some value else m.get? k := by
  refine Option.ext fun v => ?_
  rw [get?_eq_some_iff, mem_entries_insert, Prod.mk.injEq]
  by_cases hk : k = key
  · rw [if_pos hk]
    simp [hk, eq_comm]
  · rw [if_neg hk, get?_eq_some_iff]
    simp [hk]

theorem insertAll_concat (m : OrderedMap κ ν) (writes : List (κ × ν)) (w : κ × ν) :
    m.insertAll (writes ++ [w]) = (m.insertAll writes).insert w.1 w.2 :=
  insertAll_append m writes [w]

theorem get?_insertAll (m : OrderedMap κ ν) (writes : List (κ × ν)) (key : κ) :
    (m.insertAll writes).get? key = (writes.reverse.lookup key).or (m.get? key) := by
  -- From the end, where the write that decides stands.
  induction writes using List.reverseRecOn with
  | nil => rfl
  | append_singleton writes w ih =>
      rw [insertAll_concat, get?_insert, ih, List.reverse_append, List.reverse_singleton,
        List.singleton_append, List.lookup_cons]
      by_cases hkey : key = w.1
      · rw [if_pos hkey, beq_iff_eq.mpr hkey]
        rfl
      · rw [if_neg hkey, beq_eq_false_iff_ne.mpr hkey]

theorem eraseDups_of_nodup {l : List κ} (h : l.Nodup) : l.eraseDups = l := by
  induction l with
  | nil => rfl
  | cons a rest ih =>
      obtain ⟨hnew, hrest⟩ := List.nodup_cons.mp h
      have hkept : rest.filter (fun b => !b == a) = rest := by
        refine List.filter_eq_self.mpr fun b hb => ?_
        have hne : b ≠ a := fun hc => hnew (hc ▸ hb)
        simpa using hne
      rw [List.eraseDups_cons, hkept, ih hrest]

/-- After writes the keys are those before, and behind them the new ones as they were first
written. -/
theorem keys_insertAll (m : OrderedMap κ ν) (writes : List (κ × ν)) :
    (m.insertAll writes).keys = (m.keys ++ writes.map Prod.fst).eraseDups := by
  induction writes using List.reverseRecOn with
  | nil =>
      rw [List.map_nil, List.append_nil]
      exact (eraseDups_of_nodup m.nodup_keys).symm
  | append_singleton writes w ih =>
      have hmem : w.1 ∈ (m.insertAll writes).keys ↔ w.1 ∈ m.keys ++ writes.map Prod.fst := by
        rw [ih, List.mem_eraseDups]
      rw [insertAll_concat, keys_insert, List.map_append, List.map_singleton, ← List.append_assoc,
        List.eraseDups_append, ← ih, List.cons_removeAll]
      by_cases hold : w.1 ∈ m.keys ++ writes.map Prod.fst
      · rw [if_pos (hmem.mpr hold), List.contains_iff_mem.mpr hold]
        simp
      · rw [if_neg (mt hmem.mp hold), Bool.eq_false_iff.mpr (mt List.contains_iff_mem.mp hold)]
        simp [List.eraseDups_cons]

theorem mem_keys_insertAll {key : κ} :
    key ∈ (m.insertAll writes).keys ↔ key ∈ m.keys ∨ key ∈ writes.map Prod.fst := by
  rw [keys_insertAll, List.mem_eraseDups, List.mem_append]

/-- Writes of old keys leave every key where it is. -/
theorem keys_insertAll_of_old (h : ∀ key ∈ writes.map Prod.fst, key ∈ m.keys) :
    (m.insertAll writes).keys = m.keys := by
  have hnone : (writes.map Prod.fst).removeAll m.keys = [] :=
    List.filter_eq_nil_iff.mpr fun key hkey => by simpa using h key hkey
  rw [keys_insertAll, List.eraseDups_append, hnone, eraseDups_of_nodup m.nodup_keys]
  exact List.append_nil _

/-- New keys come behind the old ones. -/
theorem keys_insertAll_of_new (h : ∀ key ∈ writes.map Prod.fst, key ∉ m.keys) :
    (m.insertAll writes).keys = m.keys ++ (writes.map Prod.fst).eraseDups := by
  have hall : (writes.map Prod.fst).removeAll m.keys = writes.map Prod.fst :=
    List.filter_eq_self.mpr fun key hkey => by simpa using h key hkey
  rw [keys_insertAll, List.eraseDups_append, hall, eraseDups_of_nodup m.nodup_keys]

/-- A sequence of writes leaves in the empty map its last writes. -/
theorem isLastWrites_ofList (writes : List (κ × ν)) : IsLastWrites writes (ofList writes) where
  keys := keys_insertAll empty writes
  values key := by
    rw [ofList, get?_insertAll]
    exact Option.or_none

/-! ### Nothing more to say -/

theorem entries_eq_filterMap_keys (m : OrderedMap κ ν) :
    m.entries = m.keys.filterMap fun key => (m.get? key).map fun value => (key, value) := by
  have hself : ∀ e ∈ m.entries, (m.get? e.1).map (fun value => (e.1, value)) = some e := by
    intro e he
    rw [get?_eq_some_iff.mpr (show (e.1, e.2) ∈ m.entries from he)]
    rfl
  -- Keys are distinct, so looking up the key of an entry finds that entry.
  rw [keys, List.filterMap_map]
  calc m.entries = m.entries.filterMap some := List.filterMap_some.symm
    _ = _ := List.filterMap_congr fun e he => (hself e he).symm

/-- Maps with the same keys in the same order that lead to the same values are one map. -/
theorem eq_of_keys_eq (hkeys : m.keys = other.keys)
    (hvalues : ∀ key, m.get? key = other.get? key) : m = other := by
  have hget : m.get? = other.get? := funext hvalues
  refine OrderedMap.ext ?_
  rw [entries_eq_filterMap_keys, entries_eq_filterMap_keys other, hkeys, hget]

/-- One map at most holds the last writes of a sequence. -/
theorem IsLastWrites.unique (h : IsLastWrites writes m) (h' : IsLastWrites writes other) :
    m = other :=
  eq_of_keys_eq (h.keys.trans h'.keys.symm) fun key => (h.values key).trans (h'.values key).symm

/-! ### Writes that come again -/

section Again

variable {α : Type} {items : List α}

/-- The same writes again change nothing. -/
theorem insertAll_insertAll_self (m : OrderedMap κ ν) (writes : List (κ × ν)) :
    (m.insertAll writes).insertAll writes = m.insertAll writes := by
  refine eq_of_keys_eq (keys_insertAll_of_old fun key hkey => ?_) fun key => ?_
  · exact mem_keys_insertAll.mpr (Or.inr hkey)
  · rw [get?_insertAll, get?_insertAll]
    cases writes.reverse.lookup key <;> rfl

/-- Items that all make the same writes are as good as one of them. -/
theorem insertAll_flatMap_same {f : α → List (κ × ν)} (m : OrderedMap κ ν) (hne : items ≠ [])
    (hall : ∀ item ∈ items, f item = writes) :
    m.insertAll (items.flatMap f) = m.insertAll writes := by
  induction items generalizing m with
  | nil => exact absurd rfl hne
  | cons item rest ih =>
      obtain ⟨hitem, hrest⟩ := List.forall_mem_cons.mp hall
      rw [List.flatMap_cons, insertAll_append, hitem]
      by_cases hlast : rest = []
      · rw [hlast, List.flatMap_nil, insertAll_nil]
      · rw [ih _ hlast hrest, insertAll_insertAll_self]

theorem insertAll_flatMap_congr {f g : α → List (κ × ν)} (m : OrderedMap κ ν)
    (h : ∀ item ∈ items, ∀ m : OrderedMap κ ν, m.insertAll (f item) = m.insertAll (g item)) :
    m.insertAll (items.flatMap f) = m.insertAll (items.flatMap g) := by
  induction items generalizing m with
  | nil => rfl
  | cons item rest ih =>
      obtain ⟨hitem, hrest⟩ := List.forall_mem_cons.mp h
      rw [List.flatMap_cons, List.flatMap_cons, insertAll_append, insertAll_append, hitem,
        ih _ hrest]

end Again

/-! ### Keys in another order -/

section Order

variable {others : List (κ × ν)} {start start' : List κ} {a b : κ}

theorem prefix_eraseDups {keys : List κ} (h : start <+: keys) :
    start.eraseDups <+: keys.eraseDups := by
  obtain ⟨rest, rfl⟩ := h
  rw [List.eraseDups_append]
  exact List.prefix_append _ _

/-- Sequences in which two keys come up in different orders leave different maps. -/
theorem ofList_ne_of_order (hstart : start <+: writes.map Prod.fst) (ha : a ∈ start)
    (hb : b ∉ start) (hstart' : start' <+: others.map Prod.fst) (hb' : b ∈ start')
    (ha' : a ∉ start') : ofList writes ≠ ofList others := by
  intro heq
  have hkeys := congrArg keys heq
  rw [(isLastWrites_ofList writes).keys, (isLastWrites_ofList others).keys] at hkeys
  have hfirst := hkeys ▸ prefix_eraseDups hstart
  rw [← List.mem_eraseDups] at ha hb hb' ha'
  rcases List.prefix_or_prefix_of_prefix hfirst (prefix_eraseDups hstart') with hle | hle
  · exact ha' (hle.subset ha)
  · exact hb (hle.subset hb')

end Order

end SpokenIndex.OrderedMap
