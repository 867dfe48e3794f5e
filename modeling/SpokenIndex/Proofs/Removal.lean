/-
What is left of a disk after a removal.

A removal takes something away and adds nothing.  So every lookup that succeeds
afterwards has succeeded before, with the same outcome: it meets no entry that was not
there, follows the same links, and ends at the same place.  This holds on every disk,
links included, and it is all that is needed to see that a removed file does not come
back by the removal of another one.

That the removed path itself leads nowhere takes one thing more.  A removal takes away
what stands at the end of a path, be it the file or a link to it, and whoever gets through
to the file has met just that.
-/
import SpokenIndex.Proofs.Files

namespace SpokenIndex

open SpokenIndex.Node

/-- What a node is when its entries are not looked at. -/
def Node.bare : Node → Node
  | .folder _ => .folder []
  | node => node

theorem Node.isFolder_of_bare_eq {a b : Node} (h : a.bare = b.bare) : a.isFolder = b.isFolder := by
  cases a <;> cases b <;> simp_all [Node.bare, Node.isFolder]

theorem Node.eq_file_of_bare_eq {node : Node} {content : ByteArray}
    (h : node.bare = (Node.file content).bare) : node = .file content := by
  cases node with
  | file _ => exact h
  | link _ => simp [Node.bare] at h
  | folder _ => simp [Node.bare] at h

theorem Node.eq_link_of_bare_eq {node : Node} {target : String}
    (h : node.bare = (Node.link target).bare) : node = .link target := by
  cases node with
  | file _ => simp [Node.bare] at h
  | link _ => exact h
  | folder _ => simp [Node.bare] at h

/-- A removal leaves only what was there. -/
theorem Node.descend_of_descend_remove {t node : Node} {names way : List String}
    (h : (remove names t).descend way = some node) :
    ∃ before, t.descend way = some before ∧ before.bare = node.bare := by
  induction names generalizing t way with
  | nil => exact ⟨node, h, rfl⟩
  | cons n ns ih =>
      cases t with
      | file content => cases ns <;> exact ⟨node, h, rfl⟩
      | link target => cases ns <;> exact ⟨node, h, rfl⟩
      | folder es =>
          cases way with
          | nil =>
              obtain ⟨left, hleft⟩ := remove_folder (n :: ns) es
              rw [hleft] at h
              obtain rfl := Option.some.inj h
              exact ⟨.folder es, rfl, rfl⟩
          | cons m ms =>
              cases ns with
              | nil =>
                  rw [Node.remove, descend] at h
                  by_cases hm : m = n
                  · rw [hm, lookup_dropEntry_self] at h
                    exact absurd h (by simp)
                  · rw [lookup_dropEntry_of_ne hm] at h
                    exact ⟨node, h, rfl⟩
              | cons k ks =>
                  cases hl : lookup n es with
                  | none =>
                      rw [Node.remove, hl] at h
                      exact ⟨node, h, rfl⟩
                  | some sub =>
                      rw [remove_cons_folder hl, descend] at h
                      by_cases hm : m = n
                      · subst hm
                        rw [lookup_setEntry_self] at h
                        obtain ⟨before, hbefore, hsame⟩ := ih h
                        refine ⟨before, ?_, hsame⟩
                        rw [descend, hl]
                        exact hbefore
                      · rw [lookup_setEntry_of_ne hm] at h
                        exact ⟨node, h, rfl⟩

/-- What is removed is gone. -/
theorem Node.descend_remove_self {names : List String} (hnames : names ≠ []) (t : Node) :
    (remove names t).descend names = none := by
  induction names generalizing t with
  | nil => exact absurd rfl hnames
  | cons n ns ih =>
      cases t with
      | file content => cases ns <;> rfl
      | link target => cases ns <;> rfl
      | folder es =>
          cases ns with
          | nil => rw [Node.remove, descend, lookup_dropEntry_self]
          | cons k ks =>
              cases hl : lookup n es with
              | none => rw [Node.remove, hl, descend, hl]
              | some sub =>
                  rw [remove_cons_folder hl, descend, lookup_setEntry_self]
                  exact ih (List.cons_ne_nil k ks) sub

namespace Disk

variable {disk less : Disk} {place here todo : List String} {path other : String} {follow : Bool}
  {links : Nat}

/-! ### Less of a disk -/

/-- A disk holds only what another one holds, in the same places. -/
def Within (less disk : Disk) : Prop :=
  ∀ place node, less.at? place = some node →
    ∃ before, disk.at? place = some before ∧ before.bare = node.bare

theorem within_remove (disk : Disk) (path : String) : (disk.remove path).Within disk := by
  intro place node h
  rw [remove] at h
  cases hlocate : disk.locate false path with
  | error fault =>
      rw [hlocate] at h
      exact ⟨node, h, rfl⟩
  | ok target =>
      rw [hlocate] at h
      exact descend_of_descend_remove h

/-! ### One step of a lookup

What a lookup does at a folder, said of the place that the next name stands for.
-/

section Step

variable {name : String} {rest : List String} {node next : Node}

/-- A name that goes down from a folder. -/
structure GoesDown (name : String) : Prop where
  moves : ¬ (name = "" ∨ name = ".")
  not_up : name ≠ ".."
  short : ¬ name.utf8ByteSize > nameLimit

theorem locateFrom_stay (hat : disk.at? here = some node) (hfolder : node.isFolder = true)
    (hstays : name = "" ∨ name = ".") :
    disk.locateFrom follow links here (name :: rest) = disk.locateFrom follow links here rest := by
  rw [locateFrom, hat]
  simp only [hfolder, Bool.not_true, Bool.false_eq_true, ↓reduceIte, if_pos hstays]

theorem locateFrom_up (hat : disk.at? here = some node) (hfolder : node.isFolder = true) :
    disk.locateFrom follow links here (".." :: rest)
      = disk.locateFrom follow links here.tail rest := by
  have hmoves : ¬ (".." = "" ∨ ".." = ".") := by decide
  rw [locateFrom, hat]
  simp only [hfolder, Bool.not_true, Bool.false_eq_true, ↓reduceIte, if_neg hmoves]

/-- The entry that a name stands for is entered unless it is a link. -/
theorem locateFrom_enter (hat : disk.at? here = some node) (hfolder : node.isFolder = true)
    (hname : GoesDown name) (hnext : disk.at? (name :: here) = some next)
    (hlink : ∀ target, next ≠ .link target) :
    disk.locateFrom follow links here (name :: rest)
      = disk.locateFrom follow links (name :: here) rest := by
  rw [at?_cons hat] at hnext
  rw [locateFrom, hat]
  simp only [hfolder, Bool.not_true, Bool.false_eq_true, ↓reduceIte, if_neg hname.moves,
    if_neg hname.not_up, if_neg hname.short, hnext]

/-- A link at the very end is not followed unless that is asked for. -/
theorem locateFrom_link_end {target : String} (hat : disk.at? here = some node)
    (hfolder : node.isFolder = true) (hname : GoesDown name)
    (hnext : disk.at? (name :: here) = some (.link target))
    (hend : (rest.isEmpty && !follow) = true) :
    disk.locateFrom follow links here (name :: rest) = .ok (name :: here) := by
  rw [at?_cons hat] at hnext
  rw [locateFrom, hat]
  simp only [hfolder, Bool.not_true, Bool.false_eq_true, ↓reduceIte, if_neg hname.moves,
    if_neg hname.not_up, if_neg hname.short, hnext, hend]

/-- Any other link is followed. -/
theorem locateFrom_link {target : String} (hat : disk.at? here = some node)
    (hfolder : node.isFolder = true) (hname : GoesDown name)
    (hnext : disk.at? (name :: here) = some (.link target))
    (hend : ¬ (rest.isEmpty && !follow) = true) :
    disk.locateFrom follow (links + 1) here (name :: rest)
      = disk.locateFrom follow links (if Text.startsWith "/" target then [] else here)
          (steps target ++ rest) := by
  rw [at?_cons hat] at hnext
  rw [locateFrom, hat]
  simp only [hfolder, Bool.not_true, Bool.false_eq_true, ↓reduceIte, if_neg hname.moves,
    if_neg hname.not_up, if_neg hname.short, hnext, if_neg hend]

end Step

/-! ### Lookups on less of a disk -/

/-- A lookup that succeeds on less of a disk has the same outcome on all of it. -/
theorem Within.locateFrom_eq (h : less.Within disk)
    (hfound : less.locateFrom follow links here todo = .ok place) :
    disk.locateFrom follow links here todo = .ok place := by
  have hfolder : ∀ {here node}, less.at? here = some node → ¬ (!node.isFolder) = true →
      ∃ before, disk.at? here = some before ∧ before.isFolder = true := by
    intro here node hat hnode
    obtain ⟨before, hbefore, hsame⟩ := h _ _ hat
    refine ⟨before, hbefore, ?_⟩
    rw [Node.isFolder_of_bare_eq hsame]
    simpa using hnode
  fun_induction locateFrom less follow links here todo with
  | case1 links here => rw [locateFrom]; exact hfound
  | case2 => simp at hfound
  | case3 => simp at hfound
  | case4 links here name rest node hat hnode hstays ih =>
      obtain ⟨before, hbefore, hopen⟩ := hfolder hat hnode
      rw [locateFrom_stay hbefore hopen hstays]
      exact ih hfound
  | case5 links here rest node hat hnode hmoves ih =>
      obtain ⟨before, hbefore, hopen⟩ := hfolder hat hnode
      rw [locateFrom_up hbefore hopen]
      exact ih hfound
  | case6 => simp at hfound
  | case7 => simp at hfound
  | case8 links here name rest node hat hnode hmoves hup hshort target hentry hend =>
      obtain ⟨before, hbefore, hopen⟩ := hfolder hat hnode
      obtain ⟨next, hnext, hsame⟩ := h _ _ ((at?_cons hat).trans hentry)
      obtain rfl := Node.eq_link_of_bare_eq hsame
      rw [locateFrom_link_end hbefore hopen ⟨hmoves, hup, hshort⟩ hnext hend]
      exact hfound
  | case9 => simp at hfound
  | case10 here name rest node hat hnode hmoves hup hshort target hentry hend links start ih =>
      obtain ⟨before, hbefore, hopen⟩ := hfolder hat hnode
      obtain ⟨next, hnext, hsame⟩ := h _ _ ((at?_cons hat).trans hentry)
      obtain rfl := Node.eq_link_of_bare_eq hsame
      rw [locateFrom_link hbefore hopen ⟨hmoves, hup, hshort⟩ hnext hend]
      exact ih hfound
  | case11 links here name rest node hat hnode hmoves hup hshort found hlink hentry ih =>
      obtain ⟨before, hbefore, hopen⟩ := hfolder hat hnode
      obtain ⟨next, hnext, hsame⟩ := h _ _ ((at?_cons hat).trans hentry)
      have hnoLink : ∀ target, next ≠ .link target := by
        intro target heq
        obtain rfl := heq
        exact hlink target (Node.eq_link_of_bare_eq hsame.symm)
      rw [locateFrom_enter hbefore hopen ⟨hmoves, hup, hshort⟩ hnext hnoLink]
      exact ih hfound

theorem bytes?_eq_some_iff_locate {content : ByteArray} :
    disk.bytes? path = some content ↔
      ∃ place, disk.locate true path = .ok place ∧ disk.at? place = some (.file content) := by
  rw [bytes?_eq_some_iff, node?]
  cases hlocate : disk.locate true path with
  | error fault => simp
  | ok place => cases hat : disk.at? place <;> simp [hat]

/-- What is a file on less of a disk is the same file on all of it. -/
theorem Within.bytes?_eq {content : ByteArray} (h : less.Within disk)
    (hfile : less.bytes? path = some content) : disk.bytes? path = some content := by
  obtain ⟨place, hlocate, hat⟩ := bytes?_eq_some_iff_locate.mp hfile
  obtain ⟨before, hbefore, hsame⟩ := h _ _ hat
  rw [Node.eq_file_of_bare_eq hsame] at hbefore
  exact bytes?_eq_some_iff_locate.mpr ⟨place, h.locateFrom_eq hlocate, hbefore⟩

theorem Within.isFile (h : less.Within disk) (hfile : less.isFile path = true) :
    disk.isFile path = true := by
  obtain ⟨content, hcontent⟩ := isFile_iff.mp hfile
  exact isFile_iff.mpr ⟨content, h.bytes?_eq hcontent⟩

/-! ### The removed path -/

/-- A lookup that gets through a link at the end meets the link if it is not to follow it. -/
theorem locateFrom_unfollowed (hfound : disk.locateFrom true links here todo = .ok place) :
    disk.locateFrom false links here todo = .ok place ∨
      ∃ name above target, disk.locateFrom false links here todo = .ok (name :: above) ∧
        disk.at? (name :: above) = some (.link target) := by
  generalize hfollow : true = follow at hfound
  fun_induction locateFrom disk follow links here todo with
  | case1 links here => exact Or.inl (by rw [locateFrom]; exact hfound)
  | case2 => simp at hfound
  | case3 => simp at hfound
  | case4 links here name rest node hat hnode hstays ih =>
      rw [locateFrom_stay hat (by simpa using hnode) hstays]
      exact ih hfound
  | case5 links here rest node hat hnode hmoves ih =>
      rw [locateFrom_up hat (by simpa using hnode)]
      exact ih hfound
  | case6 => simp at hfound
  | case7 => simp at hfound
  | case8 links here name rest node hat hnode hmoves hup hshort target hentry hend =>
      simp [← hfollow] at hend
  | case9 => simp at hfound
  | case10 here name rest node hat hnode hmoves hup hshort target hentry hend links start ih =>
      have hnext := (at?_cons hat).trans hentry
      by_cases hrest : (rest.isEmpty && !false) = true
      · refine Or.inr ⟨name, here, target, ?_, hnext⟩
        exact locateFrom_link_end hat (by simpa using hnode) ⟨hmoves, hup, hshort⟩ hnext hrest
      · rw [locateFrom_link hat (by simpa using hnode) ⟨hmoves, hup, hshort⟩ hnext hrest]
        exact ih hfound
  | case11 links here name rest node hat hnode hmoves hup hshort found hlink hentry ih =>
      rw [locateFrom_enter hat (by simpa using hnode) ⟨hmoves, hup, hshort⟩
        ((at?_cons hat).trans hentry) (fun target heq => hlink target heq)]
      exact ih hfound

/-- The top folder is no file, so a path that leads to a file leads below it. -/
theorem ne_nil_of_locate {content : ByteArray} (hfound : disk.locate true path = .ok place)
    (hat : disk.at? place = some (.file content)) : place ≠ [] := by
  intro hnil
  obtain rfl := hnil
  obtain ⟨name, rest, hsteps⟩ : ∃ name rest, steps path = name :: rest := by
    refine List.exists_cons_of_ne_nil fun hnil => ?_
    exact Text.splitWhen_ne_nil _ _ (List.map_eq_nil_iff.mp hnil)
  rw [locate, hsteps, locateFrom, hat] at hfound
  simp [Node.isFolder] at hfound

/-- What stands at the end of the path of a file, the file or a link to it. -/
theorem exists_unfollowed (hfile : disk.isFile path = true) :
    ∃ place node, disk.locate false path = .ok place ∧ place ≠ [] ∧ disk.at? place = some node := by
  obtain ⟨content, hcontent⟩ := isFile_iff.mp hfile
  obtain ⟨place, hlocate, hat⟩ := bytes?_eq_some_iff_locate.mp hcontent
  rcases locateFrom_unfollowed hlocate with hsame | ⟨name, above, target, hlink, hnode⟩
  · exact ⟨place, _, hsame, ne_nil_of_locate hlocate hat, hat⟩
  · exact ⟨name :: above, _, hlink, List.cons_ne_nil name above, hnode⟩

/-- A file that was removed is none any more. -/
theorem isFile_remove_self (hfile : disk.isFile path = true) :
    (disk.remove path).isFile path = false := by
  obtain ⟨place, -, hplace, hne, -⟩ := exists_unfollowed hfile
  have hgone : (disk.remove path).at? place = none := by
    rw [remove, hplace]
    exact descend_remove_self (List.reverse_ne_nil_iff.mpr hne) disk.top
  by_contra hstill
  obtain ⟨again, node, hagain, -, hnode⟩ := exists_unfollowed (Bool.eq_true_of_not_eq_false hstill)
  -- What is met at the end of the path now was met there before, and that was removed.
  have hbefore : disk.locate false path = .ok again :=
    (within_remove disk path).locateFrom_eq hagain
  obtain rfl : place = again := Except.ok.inj (hplace.symm.trans hbefore)
  rw [hgone] at hnode
  exact absurd hnode (by simp)

end Disk

end SpokenIndex
