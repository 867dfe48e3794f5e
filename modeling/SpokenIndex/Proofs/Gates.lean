/-
What decides whether the symbols of a file are registered.

A created file is registered only if it is tracked, and its symbols only if it is a source file
besides; so are the files that an initialization lists.  A changed file has its symbols
registered if it is a source file, and whether it is tracked is not asked.  The extensions for
the two are set independently, so a file may be a source file and not be tracked.  Its symbols
are not there until it changes for the first time.

A change drops symbols before it registers any, those of the file and those of all that is
beneath its path.  Of a file that has no symbols yet, the latter are all that may be dropped, and
a creation drops none of them.
-/
import SpokenIndex.Proofs.Redelivery

namespace SpokenIndex

namespace OrderedMap

variable {κ ν : Type} [DecidableEq κ] {m : OrderedMap κ ν} {writes : List (κ × ν)}
  {owned : ν → Bool}

/-- A sequence of writes leads a key nowhere exactly if it does not write the key. -/
theorem lookup_reverse_eq_none_iff {key : κ} :
    writes.reverse.lookup key = none ↔ key ∉ writes.map Prod.fst := by
  rw [List.lookup_eq_none_iff, List.mem_map]
  constructor
  · intro hnone hgiven
    obtain ⟨w, hw, rfl⟩ := hgiven
    have hne := hnone w (List.mem_reverse.mpr hw)
    simp at hne
  · intro hfree w hw
    rw [bne_iff_ne]
    intro heq
    exact hfree ⟨w, List.mem_reverse.mp hw, heq.symm⟩

/-- A removal before writes is not noticed at any key exactly if each key that was removed is
written. -/
theorem get?_insertAll_eq_refresh_iff :
    (∀ key, (m.insertAll writes).get? key = (m.refresh owned writes).get? key) ↔
      ∀ e ∈ m.entries, owned e.2 = true → e.1 ∈ writes.map Prod.fst := by
  constructor
  · intro hsame e he howned
    by_contra hfree
    have hkey := hsame e.1
    rw [get?_insertAll, get?_refresh, lookup_reverse_eq_none_iff.mpr hfree,
      get?_eq_some_iff.mpr he] at hkey
    simp [Option.filter_some, howned] at hkey
  · intro hwritten key
    rw [get?_insertAll, get?_refresh]
    cases hlookup : writes.reverse.lookup key with
    | some value => rfl
    | none =>
        have hfree := lookup_reverse_eq_none_iff.mp hlookup
        cases hget : m.get? key with
        | none => rfl
        | some value =>
            have hkept : owned value = false := by
              rw [← Bool.not_eq_true]
              exact fun howned => hfree (hwritten (key, value) (get?_eq_some_iff.mp hget) howned)
            simp [Option.filter_some, hkept]

/-- Writes of which none is an entry already are noticed, with a removal before them or without. -/
theorem get?_eq_refresh_iff (hnew : ∀ w ∈ writes, w ∉ m.entries) :
    (∀ key, m.get? key = (m.refresh owned writes).get? key) ↔
      writes = [] ∧ ∀ e ∈ m.entries, owned e.2 = true → e.1 ∈ writes.map Prod.fst := by
  rcases List.eq_nil_or_concat' writes with rfl | ⟨front, w, rfl⟩
  · rw [and_iff_right rfl]
    exact @get?_insertAll_eq_refresh_iff κ ν _ m [] owned
  · refine iff_of_false (fun hsame => ?_) fun h => by simp at h
    have hlast : (m.refresh owned (front ++ [w])).get? w.1 = some w.2 := by
      rw [refresh, insertAll_concat, get?_insert, if_pos rfl]
    exact hnew w (by simp) (get?_eq_some_iff.mp ((hsame w.1).trans hlast))

end OrderedMap

namespace IndexPlan

variable {plan : IndexPlan} {world : Surroundings} {s : IndexState} {op : Operation}
  {ops : List Operation} {kind : SymbolKind} {path p name owner : String}

/-! ### One path -/

/-- A creation registers the symbols of a tracked source file, and no others. -/
theorem handleCreate_symbolsOf (hp : Path.canonical world.workDir path = p) :
    (plan.handleCreate world path s).1.mappings.symbolsOf kind
      = if plan.isTracked p = true ∧ plan.isSource p = true then
          (s.mappings.symbolsOf kind).insertAll (symbolWrites kind (plan.scan world.disk p).1)
        else s.mappings.symbolsOf kind := by
  by_cases htracked : plan.isTracked p = true
  · rw [handleCreate_of_tracked hp htracked, register_symbolsOf, scanIfSource]
    by_cases hsource : plan.isSource p = true
    · rw [if_pos hsource, if_pos ⟨htracked, hsource⟩]
    · rw [if_neg hsource, if_neg fun h => hsource h.2]
      rfl
  · rw [handleCreate_of_not_tracked hp htracked, if_neg fun h => htracked h.1]

/-- A file that declares nothing has no symbols to write, of either kind. -/
theorem symbolWrites_scan_eq_nil_iff {disk : Disk} :
    (∀ kind, symbolWrites kind (plan.scan disk p).1 = []) ↔ ∀ sym, ¬ plan.Declares disk p sym := by
  constructor
  · intro hnil sym hdeclares
    have hwrite := mem_scan_symbolWrites.mpr hdeclares
    rw [hnil] at hwrite
    exact List.not_mem_nil hwrite
  · intro hnone kind
    rw [List.eq_nil_iff_forall_not_mem]
    intro w hw
    exact hnone _ (mem_scan_symbolWrites.mp hw)

/-- A creation and a change lead each name the same way exactly if the path is no source file, or
both conditions hold: it is tracked or declares nothing, and it declares all that leads beneath
it. -/
theorem symbols_agree_iff (hp : Path.canonical world.workDir path = p)
    (hfree : ∀ kind, ∀ e ∈ (s.mappings.symbolsOf kind).entries, e.2 ≠ p) :
    (∀ kind name, ((plan.handleCreate world path s).1.mappings.symbolsOf kind).get? name
        = ((plan.handleChange world path s).1.mappings.symbolsOf kind).get? name) ↔
      (plan.isSource p = true →
        (plan.isTracked p = true ∨ ∀ sym, ¬ plan.Declares world.disk p sym) ∧
          ∀ kind, ∀ e ∈ (s.mappings.symbolsOf kind).entries, Path.isAtOrBeneath p e.2 = true →
            plan.Declares world.disk p ⟨e.1, kind, p⟩) := by
  subst hp
  by_cases hsource : plan.isSource (Path.canonical world.workDir path) = true
  · have hnew : ∀ kind, ∀ w ∈ symbolWrites kind
        (plan.scan world.disk (Path.canonical world.workDir path)).1,
        w ∉ (s.mappings.symbolsOf kind).entries :=
      fun kind w hw hmem => hfree kind w hmem (mem_scan_symbolWrites.mp hw).owner_eq
    rw [forall_prop_of_true hsource]
    simp only [handleCreate_symbolsOf rfl, handleChange_refresh hsource, ← mem_scan_names]
    by_cases htracked : plan.isTracked (Path.canonical world.workDir path) = true
    · simp only [if_pos (And.intro htracked hsource), OrderedMap.get?_insertAll_eq_refresh_iff]
      rw [and_iff_right (Or.inl htracked)]
    · simp only [if_neg fun h : _ ∧ _ => htracked h.1, OrderedMap.get?_eq_refresh_iff (hnew _)]
      rw [forall_and, symbolWrites_scan_eq_nil_iff, or_iff_right htracked]
  · refine iff_of_true (fun kind name => ?_) fun h => absurd h hsource
    rw [handleCreate_symbolsOf rfl, handleChange_of_not_source rfl hsource,
      if_neg fun h => hsource h.2]

/-- Where there is no symbol at or beneath the path, nor is there a difference in order. -/
theorem symbolsOf_eq_of_free (hp : Path.canonical world.workDir path = p)
    (hfree : ∀ e ∈ (s.mappings.symbolsOf kind).entries, Path.isAtOrBeneath p e.2 = false)
    (hgates : plan.isSource p = true → plan.isTracked p = true ∨
      ∀ sym, ¬ plan.Declares world.disk p sym) :
    (plan.handleCreate world path s).1.mappings.symbolsOf kind
      = (plan.handleChange world path s).1.mappings.symbolsOf kind := by
  rw [handleCreate_symbolsOf hp]
  by_cases hsource : plan.isSource p = true
  · rw [handleChange_symbolsOf hp hsource, OrderedMap.removeWhere_of_none hfree]
    rcases hgates hsource with htracked | hnone
    · rw [if_pos ⟨htracked, hsource⟩]
    · rw [symbolWrites_scan_eq_nil_iff.mpr hnone kind]
      exact ite_self _
  · rw [handleChange_of_not_source hp hsource, if_neg fun h => hsource h.2]

/-! ### A run -/

/-- A symbol of a file that is not tracked comes only from a change of the file. -/
theorem of_untracked_perform (huntracked : plan.isTracked owner = false)
    (h : (name, owner) ∈ ((plan.perform s op).mappings.symbolsOf kind).entries) :
    (name, owner) ∈ (s.mappings.symbolsOf kind).entries ∨
      plan.isSource owner = true ∧ ∃ world path, op = .call world ⟨.change, path⟩ ∧
        Path.canonical world.workDir path = owner := by
  by_cases hold : (name, owner) ∈ (s.mappings.symbolsOf kind).entries
  · exact Or.inl hold
  obtain ⟨hconcerns, hsource, -⟩ := (of_mem_symbolsOf_perform kind h).resolve_left hold
  refine Or.inr ⟨hsource, ?_⟩
  have hnot : ∀ path, owner = path → ¬ plan.isTracked path = true := by
    intro path heq
    rw [← heq, huntracked]
    decide
  cases op with
  | populate world bulk =>
      rcases of_mem_populate (·.symbolsOf kind) _ (by cases kind <;> rfl)
        (fun _ => addBulk_symbolsOf) h with h | ⟨path, -, htracked, hwrite⟩
      · exact absurd h hold
      · have howner : owner = path := (mem_scanIfSource_symbolWrites.mp hwrite).2.owner_eq
        exact absurd htracked (hnot path howner)
  | call world c =>
      have heq := (answerCall_state plan world c s).resolve_left fun hsame => hold (hsame ▸ h)
      rw [perform, heq] at h
      obtain ⟨callKind, path⟩ := c
      cases callKind with
      | create =>
          rw [handleCall_create, handleCreate_of_not_tracked rfl (hnot _ hconcerns)] at h
          exact absurd h hold
      | delete => exact absurd ((mem_symbolsOf_handleDelete rfl).mp h).1 hold
      | change => exact ⟨world, path, rfl, hconcerns.symm⟩
  | reset => exact absurd hconcerns id
  | dispose => exact absurd hconcerns id

theorem of_untracked_performAll (huntracked : plan.isTracked owner = false)
    (h : (name, owner) ∈ ((plan.performAll .fresh ops).mappings.symbolsOf kind).entries) :
    plan.isSource owner = true ∧ ∃ world path, .call world ⟨.change, path⟩ ∈ ops ∧
      Path.canonical world.workDir path = owner := by
  refine performAll_induction (fun m => (name, owner) ∈ (m.symbolsOf kind).entries →
    plan.isSource owner = true ∧ ∃ world path, .call world ⟨.change, path⟩ ∈ ops ∧
      Path.canonical world.workDir path = owner) ?_ ?_ h
  · intro hnone
    cases kind <;> exact absurd hnone List.not_mem_nil
  · intro s hs op hop hmem
    rcases of_untracked_perform huntracked hmem with hold | ⟨hsource, world, path, rfl, howner⟩
    · exact hs hold
    · exact ⟨hsource, world, path, hop, howner⟩

/-- **When a creation and a change leave the same symbols.**  A path without a symbol is reported
as created, or as changed, and either call comes to an end.  Each name leads to the same after
either exactly if the path is no source file, or meets two conditions: it is tracked or declares
nothing, and it declares every name that leads beneath it.  The names then stand in the same order
too, unless one leads beneath it.  And whatever is done with an index, the symbols of a path that is
not tracked come from a change of that path, never from a creation or an initialization. -/
theorem same_symbols_iff (plan : IndexPlan) (world : Surroundings) (path : String)
    {s created changed : IndexState}
    (hfree : ∀ kind, ∀ e ∈ (s.mappings.symbolsOf kind).entries,
      e.2 ≠ Path.canonical world.workDir path)
    (hcreate : plan.Handles world ⟨.create, path⟩ s created)
    (hchange : plan.Handles world ⟨.change, path⟩ s changed) :
    let p := Path.canonical world.workDir path
    let agree := ∀ kind name, (created.mappings.symbolsOf kind).get? name
      = (changed.mappings.symbolsOf kind).get? name
    (agree ↔ (plan.isSource p = true →
      (plan.isTracked p = true ∨ ∀ sym, ¬ plan.Declares world.disk p sym) ∧
        ∀ kind, ∀ e ∈ (s.mappings.symbolsOf kind).entries, Path.isAtOrBeneath p e.2 = true →
          plan.Declares world.disk p ⟨e.1, kind, p⟩)) ∧
    ((∀ kind, ∀ e ∈ (s.mappings.symbolsOf kind).entries, Path.isAtOrBeneath p e.2 = false) →
      agree → created.mappings.components = changed.mappings.components ∧
        created.mappings.functions = changed.mappings.functions) ∧
    ∀ ops kind name owner,
      (name, owner) ∈ ((plan.performAll .fresh ops).mappings.symbolsOf kind).entries →
      plan.isTracked owner = true ∨
        plan.isSource owner = true ∧ ∃ world path, .call world ⟨.change, path⟩ ∈ ops ∧
          Path.canonical world.workDir path = owner := by
  intro p agree
  obtain ⟨-, rfl⟩ := hcreate
  obtain ⟨-, rfl⟩ := hchange
  have hagree : agree ↔ _ := symbols_agree_iff rfl hfree
  refine ⟨hagree, fun hbeneath hsame => ?_, fun ops kind name owner h => ?_⟩
  · have horder : ∀ kind, (plan.handleCall world ⟨.create, path⟩ s).1.mappings.symbolsOf kind
        = (plan.handleCall world ⟨.change, path⟩ s).1.mappings.symbolsOf kind := fun kind =>
      symbolsOf_eq_of_free rfl (hbeneath kind) fun hsource => (hagree.mp hsame hsource).1
    exact ⟨horder .component, horder .function⟩
  · by_cases htracked : plan.isTracked owner = true
    · exact Or.inl htracked
    · exact Or.inr (of_untracked_performAll (Bool.not_eq_true _ ▸ htracked) h)

/-- A tracked source file is met for the first time, in an index that holds a symbol of another
file. -/
theorem same_symbols_iff_first :
    let world := Surroundings.calm (oneFile "f".toUTF8)
    let s : IndexState :=
      ⟨{ Mappings.empty with functions := .ofList [("g", "/r/b.ts")] }, true, true⟩
    let created := (wholeTextPlan.handleCall world ⟨.create, "/r/a.ts"⟩ s).1
    let changed := (wholeTextPlan.handleCall world ⟨.change, "/r/a.ts"⟩ s).1
    (∀ kind, ∀ e ∈ (s.mappings.symbolsOf kind).entries,
      e.2 ≠ Path.canonical world.workDir "/r/a.ts") ∧
    wholeTextPlan.Handles world ⟨.create, "/r/a.ts"⟩ s created ∧
    wholeTextPlan.Handles world ⟨.change, "/r/a.ts"⟩ s changed ∧
    created.mappings.components = changed.mappings.components ∧
    created.mappings.functions = changed.mappings.functions := by
  intro world s created changed
  have hbeneath : ∀ kind, ∀ e ∈ (s.mappings.symbolsOf kind).entries,
      Path.isAtOrBeneath (Path.canonical world.workDir "/r/a.ts") e.2 = false := by
    intro kind
    cases kind <;> decide
  have hfree : ∀ kind, ∀ e ∈ (s.mappings.symbolsOf kind).entries,
      e.2 ≠ Path.canonical world.workDir "/r/a.ts" :=
    fun kind e he => (Disk.ne_of_not_isAtOrBeneath (hbeneath kind e he)).symm
  have htracked : wholeTextPlan.isTracked (Path.canonical world.workDir "/r/a.ts") = true := by
    decide
  have hcanonical : Path.canonical world.workDir "/r/a.ts" = "/r/a.ts" := by decide
  have hwalk : Path.WalksUp wholeTextPlan.root "/r/a.ts" [] :=
    .inside (by decide) (.ended (by decide))
  have hcreate : wholeTextPlan.Handles world ⟨.create, "/r/a.ts"⟩ s created :=
    handles_create s (hcanonical.symm ▸ hwalk)
  have hchange : wholeTextPlan.Handles world ⟨.change, "/r/a.ts"⟩ s changed :=
    handles_change wholeTextPlan world "/r/a.ts" s
  obtain ⟨hagree, horder, -⟩ :=
    same_symbols_iff wholeTextPlan world "/r/a.ts" hfree hcreate hchange
  refine ⟨hfree, hcreate, hchange, horder hbeneath (hagree.mpr fun _ => ⟨Or.inl htracked, ?_⟩)⟩
  intro kind e he hin
  rw [hbeneath kind e he] at hin
  exact absurd hin Bool.false_ne_true

/-- A plan by which `.ts` files are scanned for symbols but not indexed by name. -/
def scanOnlyPlan : IndexPlan :=
  { wholeTextPlan with settings := ⟨"**/*.ts", none, [".js"], [".ts"], 1⟩ }

/-- A creation of a source file that is not tracked registers nothing, no more than an
initialization, and the first change of it registers its symbol. -/
theorem untracked_symbol_appears :
    let world := Surroundings.calm (oneFile "f".toUTF8)
    let s := scanOnlyPlan.performAll .fresh [.populate world (some ["/r/a.ts"])]
    let created := (scanOnlyPlan.handleCreate world "/r/a.ts" s).1.mappings
    let changed := (scanOnlyPlan.handleChange world "/r/a.ts" s).1.mappings
    scanOnlyPlan.isTracked "/r/a.ts" = false ∧ s.mappings = .empty ∧ created = .empty ∧
      changed.functions.entries = [("f", "/r/a.ts")] := by
  intro world s created changed
  have hcanonical : Path.canonical world.workDir "/r/a.ts" = "/r/a.ts" := by decide
  have huntracked : ¬ scanOnlyPlan.isTracked "/r/a.ts" = true := by decide
  have hempty : s.mappings = .empty := by
    have hok : ∃ after journal, scanOnlyPlan.populate world (some ["/r/a.ts"]) .fresh
        = (.ok (), after, journal) := populate_ok scanOnlyPlan _ rfl ⟨rfl, rfl⟩ rfl
    obtain ⟨after, journal, hpopulate⟩ := hok
    obtain ⟨paths, hpaths, hmappings⟩ := mappings_of_populate rfl hpopulate
    obtain rfl := Except.ok.inj hpaths
    have hadmitted : scanOnlyPlan.admitted world.disk
        (["/r/a.ts"].map (Path.canonical world.workDir)) = [] := by cbv
    simp only [s, performAll, List.foldl_cons, List.foldl_nil, perform]
    rw [establish_snd (by decide), hpopulate, hmappings, addBulk_fst, hadmitted]
    rfl
  have hscan : (scanOnlyPlan.scan world.disk "/r/a.ts").1 = [⟨"f", .function, "/r/a.ts"⟩] := by cbv
  have hcreated : created = s.mappings := handleCreate_of_not_tracked hcanonical huntracked
  have hchanged : changed = _ := handleChange_of_source hcanonical (by decide)
  refine ⟨Bool.not_eq_true _ ▸ huntracked, hempty, hcreated.trans hempty, ?_⟩
  rw [hchanged, hempty, hscan]
  decide

end IndexPlan

end SpokenIndex
