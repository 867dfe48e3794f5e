/-
Trees of regular files.

A node is *regular* if beneath it there are only files and folders, with names that
are proper, distinct and short enough to be looked up.  Such a tree is known by its
files: `Node.fileAt?` reads the bytes at a list of names, and what a write or a
removal does to a tree is said by what it does to that reading — it changes the one
file that it is about and no other.
-/
import Mathlib
import SpokenIndex.Disk.Basic

namespace SpokenIndex.Node

/-! ### Regular nodes -/

/-- A name that can be looked up. -/
structure FitsName (name : String) : Prop where
  isName : IsName name
  short : name.utf8ByteSize ≤ Disk.nameLimit

instance (name : String) : Decidable (IsName name) :=
  inferInstanceAs (Decidable (_ ∧ _ ∧ _ ∧ _))

instance (name : String) : Decidable (FitsName name) :=
  decidable_of_iff (IsName name ∧ name.utf8ByteSize ≤ Disk.nameLimit)
    ⟨fun h => ⟨h.1, h.2⟩, fun h => ⟨h.isName, h.short⟩⟩

mutual

/-- Nothing beneath a node is a link, and no name is too long to be looked up. -/
def Plain : Node → Prop
  | .file _ => True
  | .link _ => False
  | .folder es => EntriesPlain es

/-- Each entry has a name that is not too long and a plain node. -/
def EntriesPlain : List (String × Node) → Prop
  | [] => True
  | (name, node) :: rest =>
    name.utf8ByteSize ≤ Disk.nameLimit ∧ node.Plain ∧ EntriesPlain rest

end

/-- A tree of folders and files that can all be looked up. -/
structure Regular (node : Node) : Prop where
  wellFormed : node.WellFormed
  plain : node.Plain

mutual

/-- Well-formedness is decided along the tree. -/
def decideWellFormed : (node : Node) → Decidable node.WellFormed
  | .file _ => isTrue trivial
  | .link _ => isTrue trivial
  | .folder es => @instDecidableAnd _ _ inferInstance (decideEntriesWellFormed es)

/-- Well-formedness of entries is decided one by one. -/
def decideEntriesWellFormed : (es : List (String × Node)) → Decidable (EntriesWellFormed es)
  | [] => isTrue trivial
  | (_, node) :: rest =>
    @instDecidableAnd _ _ inferInstance
      (@instDecidableAnd _ _ (decideWellFormed node) (decideEntriesWellFormed rest))

end

mutual

/-- Plainness is decided along the tree. -/
def decidePlain : (node : Node) → Decidable node.Plain
  | .file _ => isTrue trivial
  | .link _ => isFalse id
  | .folder es => decideEntriesPlain es

/-- Plainness of entries is decided one by one. -/
def decideEntriesPlain : (es : List (String × Node)) → Decidable (EntriesPlain es)
  | [] => isTrue trivial
  | (_, node) :: rest =>
    @instDecidableAnd _ _ inferInstance
      (@instDecidableAnd _ _ (decidePlain node) (decideEntriesPlain rest))

end

instance (node : Node) : Decidable node.WellFormed := decideWellFormed node

instance (node : Node) : Decidable node.Regular :=
  @decidable_of_iff _ (node.WellFormed ∧ node.Plain)
    ⟨fun h => ⟨h.1, h.2⟩, fun h => ⟨h.wellFormed, h.plain⟩⟩
    (@instDecidableAnd _ _ (decideWellFormed node) (decidePlain node))

theorem entriesWellFormed_iff {es : List (String × Node)} :
    EntriesWellFormed es ↔ ∀ e ∈ es, IsName e.1 ∧ e.2.WellFormed := by
  induction es with
  | nil => simp [EntriesWellFormed]
  | cons e rest ih => simp [EntriesWellFormed, ih, and_assoc]

theorem entriesPlain_iff {es : List (String × Node)} :
    EntriesPlain es ↔ ∀ e ∈ es, e.1.utf8ByteSize ≤ Disk.nameLimit ∧ e.2.Plain := by
  induction es with
  | nil => simp [EntriesPlain]
  | cons e rest ih => simp [EntriesPlain, ih, and_assoc]

theorem regular_file (content : ByteArray) : (file content).Regular := ⟨trivial, trivial⟩

theorem not_regular_link (target : String) : ¬ (link target).Regular := fun h => h.plain

theorem regular_folder_iff {es : List (String × Node)} :
    (folder es).Regular ↔
      (es.map Prod.fst).Nodup ∧ ∀ e ∈ es, FitsName e.1 ∧ e.2.Regular := by
  constructor
  · intro hgiven
    obtain ⟨⟨hnodup, hwf⟩, hplain⟩ := hgiven
    have hwf' := entriesWellFormed_iff.mp hwf
    have hplain' := entriesPlain_iff.mp hplain
    exact ⟨hnodup, fun e he =>
      ⟨⟨(hwf' e he).1, (hplain' e he).1⟩, ⟨(hwf' e he).2, (hplain' e he).2⟩⟩⟩
  · intro hgiven
    obtain ⟨hnodup, hall⟩ := hgiven
    refine ⟨⟨hnodup, entriesWellFormed_iff.mpr ?_⟩, entriesPlain_iff.mpr ?_⟩
    · exact fun e he => ⟨(hall e he).1.isName, (hall e he).2.wellFormed⟩
    · exact fun e he => ⟨(hall e he).1.short, (hall e he).2.plain⟩

/-! ### Entries of a folder -/

variable {es : List (String × Node)} {name : String} {node : Node}

theorem mem_of_lookup (h : lookup name es = some node) : (name, node) ∈ es := by
  induction es with
  | nil => simp [lookup] at h
  | cons e rest ih =>
      obtain ⟨n, old⟩ := e
      rw [lookup] at h
      split at h
      · rename_i hn
        obtain rfl := Option.some.inj h
        simp [hn]
      · exact List.mem_cons_of_mem _ (ih h)

/-- With distinct names, every entry is found under its name. -/
theorem lookup_of_mem (hnodup : (es.map Prod.fst).Nodup) (h : (name, node) ∈ es) :
    lookup name es = some node := by
  induction es with
  | nil => simp at h
  | cons e rest ih =>
      obtain ⟨n, old⟩ := e
      rw [List.map_cons, List.nodup_cons] at hnodup
      rw [lookup]
      rcases List.mem_cons.mp h with heq | hmem
      · obtain ⟨rfl, rfl⟩ := Prod.mk.inj heq
        rw [if_pos rfl]
      · have hne : n ≠ name := by
          intro heq
          obtain rfl := heq
          exact hnodup.1 (List.mem_map.mpr ⟨_, hmem, rfl⟩)
        rw [if_neg hne]
        exact ih hnodup.2 hmem

theorem lookup_setEntry_self : lookup name (setEntry name node es) = some node := by
  induction es with
  | nil => simp [setEntry, lookup]
  | cons e rest ih =>
      obtain ⟨n, old⟩ := e
      rw [setEntry]
      by_cases hn : n = name
      · rw [if_pos hn, lookup, if_pos hn]
      · rw [if_neg hn, lookup, if_neg hn]
        exact ih

theorem lookup_setEntry_of_ne {other : String} (h : other ≠ name) :
    lookup other (setEntry name node es) = lookup other es := by
  induction es with
  | nil => simp [setEntry, lookup, Ne.symm h]
  | cons e rest ih =>
      obtain ⟨n, old⟩ := e
      rw [setEntry]
      by_cases hn : n = name
      · have hno : n ≠ other := fun hc => h (hc.symm.trans hn)
        rw [if_pos hn, lookup, lookup, if_neg hno, if_neg hno]
      · rw [if_neg hn, lookup, lookup, ih]

theorem lookup_dropEntry_self : lookup name (dropEntry name es) = none := by
  cases h : lookup name (dropEntry name es) with
  | none => rfl
  | some found =>
      have hmem := mem_of_lookup h
      simp [dropEntry] at hmem

theorem lookup_dropEntry_of_ne {other : String} (h : other ≠ name) :
    lookup other (dropEntry name es) = lookup other es := by
  induction es with
  | nil => rfl
  | cons e rest ih =>
      obtain ⟨n, old⟩ := e
      rw [dropEntry] at ih ⊢
      by_cases hn : n = name
      · have hno : n ≠ other := fun hc => h (hc.symm.trans hn)
        rw [List.filter_cons_of_neg (by simp [hn]), ih, lookup, if_neg hno]
      · rw [List.filter_cons_of_pos (by simp [hn]), lookup, lookup, ih]

theorem mem_setEntry {e : String × Node} (h : e ∈ setEntry name node es) :
    e = (name, node) ∨ e ∈ es := by
  induction es with
  | nil => exact Or.inl (by simpa [setEntry] using h)
  | cons d rest ih =>
      obtain ⟨n, old⟩ := d
      rw [setEntry] at h
      split at h
      · rename_i hn
        rcases List.mem_cons.mp h with rfl | h
        · exact Or.inl (by rw [hn])
        · exact Or.inr (List.mem_cons_of_mem _ h)
      · rcases List.mem_cons.mp h with rfl | h
        · exact Or.inr (by simp)
        · exact (ih h).imp_right (List.mem_cons_of_mem _)

theorem nodup_setEntry (h : (es.map Prod.fst).Nodup) :
    ((setEntry name node es).map Prod.fst).Nodup := by
  induction es with
  | nil => simp [setEntry]
  | cons d rest ih =>
      obtain ⟨n, old⟩ := d
      rw [List.map_cons, List.nodup_cons] at h
      rw [setEntry]
      by_cases hn : n = name
      · rw [if_pos hn]
        simpa using h
      · rw [if_neg hn, List.map_cons, List.nodup_cons]
        refine ⟨fun hc => ?_, ih h.2⟩
        obtain ⟨e, he, heq⟩ := List.mem_map.mp hc
        rcases mem_setEntry he with rfl | he
        · exact hn heq.symm
        · exact h.1 (List.mem_map.mpr ⟨e, he, heq⟩)

theorem Regular.setEntry (h : (folder es).Regular) (hname : FitsName name)
    (hnode : node.Regular) : (folder (setEntry name node es)).Regular := by
  obtain ⟨hnodup, hall⟩ := regular_folder_iff.mp h
  refine regular_folder_iff.mpr ⟨nodup_setEntry hnodup, fun e he => ?_⟩
  rcases mem_setEntry he with rfl | he
  · exact ⟨hname, hnode⟩
  · exact hall e he

theorem Regular.dropEntry (h : (folder es).Regular) : (folder (dropEntry name es)).Regular := by
  obtain ⟨hnodup, hall⟩ := regular_folder_iff.mp h
  refine regular_folder_iff.mpr ⟨?_, fun e he => hall e (List.mem_of_mem_filter he)⟩
  exact hnodup.sublist (List.Sublist.map _ List.filter_sublist)

theorem Regular.of_lookup (h : (folder es).Regular) (hl : lookup name es = some node) :
    FitsName name ∧ node.Regular :=
  (regular_folder_iff.mp h).2 _ (mem_of_lookup hl)

theorem regular_empty : (folder []).Regular := regular_folder_iff.mpr ⟨by simp, by simp⟩

/-- The entry of a name, or the empty folder that is made where there is none. -/
theorem Regular.getD_lookup (h : (folder es).Regular) :
    ((lookup name es).getD (folder [])).Regular := by
  cases hl : lookup name es with
  | none => exact regular_empty
  | some old => exact (h.of_lookup hl).2

/-! ### Following names -/

variable {t leaf : Node} {names rest : List String}

theorem descend_append (names rest : List String) (t : Node) :
    t.descend (names ++ rest) = (t.descend names).bind (descend rest) := by
  induction names generalizing t with
  | nil => simp [descend]
  | cons n ns ih =>
      cases t with
      | folder es =>
          simp only [List.cons_append, descend]
          cases lookup n es with
          | none => rfl
          | some sub => exact ih sub
      | file _ => rfl
      | link _ => rfl

theorem Regular.of_descend (h : t.Regular) (hd : t.descend names = some node) :
    node.Regular := by
  induction names generalizing t with
  | nil =>
      obtain rfl := Option.some.inj hd
      exact h
  | cons n ns ih =>
      cases t with
      | folder es =>
          rw [descend] at hd
          split at hd
          · rename_i sub hl
            exact ih (h.of_lookup hl).2 hd
          · simp at hd
      | file _ => simp [descend] at hd
      | link _ => simp [descend] at hd

theorem Regular.fitsName_of_descend (h : t.Regular) (hd : t.descend names = some node) :
    ∀ n ∈ names, FitsName n := by
  induction names generalizing t with
  | nil => simp
  | cons n ns ih =>
      cases t with
      | folder es =>
          rw [descend] at hd
          split at hd
          · rename_i sub hl
            obtain ⟨hn, hsub⟩ := h.of_lookup hl
            intro m hm
            rcases List.mem_cons.mp hm with rfl | hm
            · exact hn
            · exact ih hsub hd m hm
          · simp at hd
      | file _ => simp [descend] at hd
      | link _ => simp [descend] at hd

/-- Beneath a file there is nothing. -/
theorem descend_append_of_file {content : ByteArray} (h : t.descend names = some (file content))
    (hrest : rest ≠ []) : t.descend (names ++ rest) = none := by
  obtain ⟨n, ns, rfl⟩ := List.exists_cons_of_ne_nil hrest
  rw [descend_append, h]
  rfl

/-! ### Writing and removing

A change below a folder is a change of that folder, so what happens to a tree that
lies somewhere on a disk can be said of the tree alone.
-/

theorem put_cons_folder (leaf : Node) (n : String) (ns : List String)
    (es : List (String × Node)) :
    put leaf (n :: ns) (folder es)
      = folder (setEntry n (put leaf ns ((lookup n es).getD (folder []))) es) := rfl

theorem descend_put_append (leaf : Node) (rest : List String) (h : t.descend names = some node) :
    (put leaf (names ++ rest) t).descend names = some (put leaf rest node) := by
  induction names generalizing t with
  | nil =>
      obtain rfl := Option.some.inj h
      rfl
  | cons n ns ih =>
      cases t with
      | folder es =>
          rw [descend] at h
          split at h
          · rename_i sub hl
            rw [List.cons_append, put_cons_folder, descend, lookup_setEntry_self, hl]
            exact ih h
          · simp at h
      | file _ => simp [descend] at h
      | link _ => simp [descend] at h

theorem Regular.put (h : t.Regular) (hnames : ∀ n ∈ names, FitsName n) (hleaf : leaf.Regular) :
    (put leaf names t).Regular := by
  induction names generalizing t with
  | nil => exact hleaf
  | cons n ns ih =>
      cases t with
      | folder es =>
          exact h.setEntry (hnames n (by simp))
            (ih h.getD_lookup fun m hm => hnames m (List.mem_cons_of_mem _ hm))
      | file _ => exact h
      | link _ => exact h

theorem remove_cons_folder {n m : String} {ns : List String} {sub : Node}
    (hl : lookup n es = some sub) :
    remove (n :: m :: ns) (folder es) = folder (setEntry n (remove (m :: ns) sub) es) := by
  rw [remove, hl]

/-- A removal beneath a folder leaves a folder. -/
theorem remove_folder (names : List String) (es : List (String × Node)) :
    ∃ es', remove names (folder es) = folder es' := by
  cases names with
  | nil => exact ⟨es, rfl⟩
  | cons n ns =>
      cases ns with
      | nil => exact ⟨_, rfl⟩
      | cons m ms =>
          rw [remove]
          split <;> exact ⟨_, rfl⟩

theorem descend_remove_append (h : t.descend names = some node) (hrest : rest ≠ []) :
    (remove (names ++ rest) t).descend names = some (remove rest node) := by
  induction names generalizing t with
  | nil =>
      obtain rfl := Option.some.inj h
      rfl
  | cons n ns ih =>
      cases t with
      | folder es =>
          rw [descend] at h
          split at h
          · rename_i sub hl
            obtain ⟨m, ms, hms⟩ : ∃ m ms, ns ++ rest = m :: ms :=
              List.exists_cons_of_ne_nil (by simp [hrest])
            rw [List.cons_append, hms, remove_cons_folder hl, descend, lookup_setEntry_self, ← hms]
            exact ih h
          · simp at h
      | file _ => simp [descend] at h
      | link _ => simp [descend] at h

theorem Regular.remove (names : List String) (h : t.Regular) : (remove names t).Regular := by
  induction names generalizing t with
  | nil => exact h
  | cons n ns ih =>
      cases t with
      | folder es =>
          cases ns with
          | nil => exact h.dropEntry
          | cons m ms =>
              cases hl : lookup n es with
              | none =>
                  rw [Node.remove, hl]
                  exact h
              | some sub =>
                  rw [remove_cons_folder hl]
                  exact h.setEntry (h.of_lookup hl).1 (ih (h.of_lookup hl).2)
      | file _ => cases ns <;> exact h
      | link _ => cases ns <;> exact h

/-! ### The files of a tree -/

/-- The bytes of the file that names lead to, if they lead to a file. -/
def fileAt? (names : List String) (t : Node) : Option ByteArray :=
  match t.descend names with
  | some (file content) => some content
  | _ => none

theorem fileAt?_eq_some_iff {content : ByteArray} :
    t.fileAt? names = some content ↔ t.descend names = some (file content) := by
  unfold fileAt?
  split <;> simp_all

/-- A file has no file beneath it. -/
theorem fileAt?_append_of_file {content : ByteArray} (h : t.fileAt? names = some content)
    (hrest : rest ≠ []) : t.fileAt? (names ++ rest) = none := by
  rw [fileAt?_eq_some_iff] at h
  simp [fileAt?, descend_append_of_file h hrest]

theorem fileAt?_cons_folder (n : String) (ns : List String) (es : List (String × Node)) :
    (folder es).fileAt? (n :: ns) = (lookup n es).bind (fileAt? ns) := by
  cases hl : lookup n es <;> simp [fileAt?, descend, hl]

theorem fileAt?_file {content bytes : ByteArray} :
    (file content).fileAt? names = some bytes ↔ names = [] ∧ content = bytes := by
  cases names <;> simp [fileAt?, descend]

/-- Writing a file over what is no folder changes that file only. -/
theorem fileAt?_put_of_ne {content : ByteArray} {other : List String}
    (hfolder : ∀ es, t.descend names ≠ some (folder es)) (hne : other ≠ names) :
    (put (file content) names t).fileAt? other = t.fileAt? other := by
  induction names generalizing t other with
  | nil =>
      obtain ⟨m, ms, rfl⟩ := List.exists_cons_of_ne_nil hne
      cases t with
      | folder es => exact absurd rfl (hfolder es)
      | file _ => rfl
      | link _ => rfl
  | cons n ns ih =>
      cases t with
      | file _ => rfl
      | link _ => rfl
      | folder es =>
          cases other with
          | nil => rfl
          | cons m ms =>
              rw [put_cons_folder, fileAt?_cons_folder, fileAt?_cons_folder]
              by_cases hmn : m = n
              · subst hmn
                have hms : ms ≠ ns := fun hc => hne (by rw [hc])
                rw [lookup_setEntry_self, Option.bind_some]
                cases hl : lookup m es with
                | some sub =>
                    refine ih (t := sub) (fun es' hc => hfolder es' ?_) hms
                    rw [descend, hl]
                    exact hc
                | none =>
                    -- The folders on the way are made, and hold no other file.
                    have hempty : (folder []).fileAt? ms = none := by
                      cases ms <;> rfl
                    cases ns with
                    | nil =>
                        obtain ⟨k, ks, rfl⟩ := List.exists_cons_of_ne_nil hms
                        rfl
                    | cons k ks =>
                        rw [Option.getD_none, ih (by simp [descend, lookup]) hms, hempty]
                        rfl
              · rw [lookup_setEntry_of_ne hmn]

/-- Writing over a file changes its bytes. -/
theorem fileAt?_put_self {content old : ByteArray} (h : t.fileAt? names = some old) :
    (put (file content) names t).fileAt? names = some content := by
  rw [fileAt?_eq_some_iff] at h ⊢
  have hput := descend_put_append (file content) [] h
  rw [List.append_nil] at hput
  exact hput

/-- Removing a file removes that file only. -/
theorem fileAt?_remove {content : ByteArray} {other : List String} (hnames : names ≠ [])
    (h : t.fileAt? names = some content) :
    (remove names t).fileAt? other = if other = names then none else t.fileAt? other := by
  induction names generalizing t other with
  | nil => exact absurd rfl hnames
  | cons n ns ih =>
      cases t with
      | file _ => simp [fileAt?, descend] at h
      | link _ => simp [fileAt?, descend] at h
      | folder es =>
          rw [fileAt?_cons_folder] at h
          obtain ⟨sub, hl, hsub⟩ := Option.bind_eq_some_iff.mp h
          cases ns with
          | nil =>
              cases other with
              | nil => rfl
              | cons m ms =>
                  rw [Node.remove, fileAt?_cons_folder, fileAt?_cons_folder]
                  by_cases hmn : m = n
                  · subst hmn
                    rw [lookup_dropEntry_self, hl, Option.bind_none, Option.bind_some]
                    by_cases hms : ms = []
                    · simp [hms]
                    · rw [if_neg (by simp [hms])]
                      exact (fileAt?_append_of_file hsub hms).symm
                  · rw [lookup_dropEntry_of_ne hmn, if_neg (by simp [hmn])]
          | cons k ks =>
              rw [remove_cons_folder hl]
              cases other with
              | nil => rfl
              | cons m ms =>
                  rw [fileAt?_cons_folder, fileAt?_cons_folder]
                  by_cases hmn : m = n
                  · subst hmn
                    rw [lookup_setEntry_self, hl, Option.bind_some, Option.bind_some,
                      ih (by simp) hsub]
                    simp
                  · rw [lookup_setEntry_of_ne hmn, if_neg (by simp [hmn])]

end SpokenIndex.Node
