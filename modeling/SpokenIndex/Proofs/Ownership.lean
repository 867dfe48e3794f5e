/-
Whether the symbols of a file are those of its last scan.

A change of a file drops its symbols before it registers what the scan found, so what
remains is exactly what the file declares.  A creation only registers.  What it leaves
is what the file declares and, besides, what was registered for it before; that is the
same only if nothing registered before was stale.  A file that is saved by moving
another one over it is reported as created, and its old symbols stay.
-/
import SpokenIndex.Proofs.Watched

namespace SpokenIndex.IndexPlan

open Disk

variable {plan : IndexPlan} {world : Surroundings} {s : IndexState} {cwd path : String}
  {sym : Symbol}

theorem mem_namesOf {map : NameMap} {name : String} :
    name ∈ namesOf map path ↔ (name, path) ∈ map.entries := by
  simp only [namesOf, List.mem_map, List.mem_filter, beq_iff_eq]
  constructor
  · intro hgiven
    obtain ⟨⟨n, owner⟩, ⟨hmem, rfl⟩, rfl⟩ := hgiven
    exact hmem
  · exact fun hmem => ⟨_, ⟨hmem, rfl⟩, rfl⟩

/-- The symbols of a file are the entries whose value is its path. -/
theorem mem_symbolsFor :
    sym ∈ symbolsFor cwd path s ↔
      sym.owner = Path.canonical cwd path ∧
        (sym.name, sym.owner) ∈ (s.mappings.symbolsOf sym.kind).entries := by
  obtain ⟨name, kind, owner⟩ := sym
  simp only [symbolsFor, List.mem_append, List.mem_map, mem_namesOf, Symbol.mk.injEq]
  constructor
  · intro hgiven
    rcases hgiven with ⟨n, hmem, rfl, rfl, rfl⟩ | ⟨n, hmem, rfl, rfl, rfl⟩ <;> exact ⟨rfl, hmem⟩
  · intro hgiven
    obtain ⟨rfl, hmem⟩ := hgiven
    cases kind with
    | component => exact Or.inl ⟨name, hmem, rfl, rfl, rfl⟩
    | function => exact Or.inr ⟨name, hmem, rfl, rfl, rfl⟩

/-- After a change the symbols of a file are those it declares. -/
theorem mem_symbolsFor_handleChange
    (hsource : plan.isSource (Path.canonical world.workDir path) = true) :
    sym ∈ symbolsFor world.workDir path (plan.handleChange world path s).1 ↔
      plan.Declares world.disk (Path.canonical world.workDir path) sym := by
  rw [mem_symbolsFor]
  constructor
  · intro hgiven
    obtain ⟨howner, hmem⟩ := hgiven
    refine (of_mem_symbolsOf_handleChange rfl hsource hmem).resolve_right ?_
    intro hgiven
    obtain ⟨-, hout⟩ := hgiven
    exact ne_of_not_isAtOrBeneath hout howner.symm
  · intro hdeclares
    refine ⟨hdeclares.owner_eq, ?_⟩
    rw [mem_symbolsOf_handleChange rfl hsource fun other hother =>
      hother.owner_eq.trans hdeclares.owner_eq.symm]
    exact Or.inl hdeclares

/-- After a creation the symbols of a file are those it declares and those it had. -/
theorem mem_symbolsFor_handleCreate
    (htracked : plan.isTracked (Path.canonical world.workDir path) = true)
    (hsource : plan.isSource (Path.canonical world.workDir path) = true) :
    sym ∈ symbolsFor world.workDir path (plan.handleCreate world path s).1 ↔
      plan.Declares world.disk (Path.canonical world.workDir path) sym ∨
        sym ∈ symbolsFor world.workDir path s := by
  rw [mem_symbolsFor, mem_symbolsFor]
  by_cases howner : sym.owner = Path.canonical world.workDir path
  · rw [and_iff_right howner, and_iff_right howner,
      mem_symbolsOf_handleCreate rfl htracked fun other _ hother =>
        hother.owner_eq.trans howner.symm, and_iff_right hsource]
  · have hnot : ¬ plan.Declares world.disk (Path.canonical world.workDir path) sym :=
      fun hdeclares => howner hdeclares.owner_eq
    simp [howner, hnot]

/-- **Symbols and the last scan.**  For a tracked source file, in any state of the index: after a
change its symbols are exactly those it declares, and after a creation they are exactly if each
symbol that was registered for it before is one it declares. -/
theorem symbolsFor_last_scan
    (htracked : plan.isTracked (Path.canonical world.workDir path) = true)
    (hsource : plan.isSource (Path.canonical world.workDir path) = true) :
    (∀ sym, sym ∈ symbolsFor world.workDir path (plan.handleChange world path s).1 ↔
      plan.Declares world.disk (Path.canonical world.workDir path) sym) ∧
    ((∀ sym, sym ∈ symbolsFor world.workDir path (plan.handleCreate world path s).1 ↔
        plan.Declares world.disk (Path.canonical world.workDir path) sym) ↔
      ∀ sym ∈ symbolsFor world.workDir path s,
        plan.Declares world.disk (Path.canonical world.workDir path) sym) := by
  refine ⟨fun sym => mem_symbolsFor_handleChange hsource, fun hexact sym hsym => ?_,
    fun hfresh sym => ?_⟩
  · exact (hexact sym).mp ((mem_symbolsFor_handleCreate htracked hsource).mpr (Or.inr hsym))
  · rw [mem_symbolsFor_handleCreate htracked hsource]
    exact or_iff_left_of_imp (hfresh sym)

/-! ### A file that is saved by a move -/

/-- The only symbol that a small text declares in `wholeTextPlan` is the text itself. -/
theorem declares_oneFile {text : String} (hsize : text.toUTF8.size ≤ 1024)
    (htext : textOfBytes text.toUTF8 = .ok text) :
    wholeTextPlan.Declares (oneFile text.toUTF8) (placePath ["a.ts", "r"]) sym ↔
      sym = ⟨text, SymbolKind.ofName text, placePath ["a.ts", "r"]⟩ := by
  rw [declares_iff, bytes?_oneFile]
  constructor
  · intro hgiven
    obtain ⟨_, ⟨⟩, -, t, declarations, ht, hextract, d, hd, rfl⟩ := hgiven
    obtain rfl := Except.ok.inj (htext.symm.trans ht)
    obtain rfl := Except.ok.inj hextract
    obtain rfl := List.mem_singleton.mp hd
    rfl
  · intro heq
    obtain rfl := heq
    refine ⟨_, rfl, ?_, text, _, htext, rfl, _, List.mem_singleton_self _, rfl⟩
    change (text.toUTF8.size : Int) ≤ 1 * 1024
    omega

/-- The symbols of a file are those of its last scan when the file is met for the first time. -/
theorem symbolsFor_last_scan_fresh :
    let world := Surroundings.calm (oneFile "new".toUTF8)
    wholeTextPlan.isTracked (Path.canonical world.workDir "/r/a.ts") = true ∧
      wholeTextPlan.isSource (Path.canonical world.workDir "/r/a.ts") = true ∧
      ∀ sym, sym ∈ symbolsFor world.workDir "/r/a.ts"
          (wholeTextPlan.handleCreate world "/r/a.ts" .fresh).1 ↔
        wholeTextPlan.Declares world.disk (Path.canonical world.workDir "/r/a.ts") sym := by
  refine ⟨by decide, by decide, ?_⟩
  have hnone : ∀ sym, sym ∉ symbolsFor "/" "/r/a.ts" .fresh := by
    intro sym hsym
    obtain ⟨-, hmem⟩ := mem_symbolsFor.mp hsym
    cases hkind : sym.kind <;> rw [hkind] at hmem <;> exact List.not_mem_nil hmem
  exact (symbolsFor_last_scan (by decide) (by decide)).2.mpr
    fun sym hsym => absurd hsym (hnone sym)

/-- An index that was initialized with the one file holds the symbol that it declares. -/
theorem mem_symbolsFor_oneFile {text : String} {journal : Journal}
    (hsize : text.toUTF8.size ≤ 1024) (htext : textOfBytes text.toUTF8 = .ok text)
    (h : wholeTextPlan.populate (.calm (oneFile text.toUTF8)) (some ["/r/a.ts"]) .fresh
      = (.ok (), s, journal)) :
    ⟨text, SymbolKind.ofName text, "/r/a.ts"⟩ ∈ symbolsFor "/" "/r/a.ts" s := by
  have hpath : placePath ["a.ts", "r"] = "/r/a.ts" := by decide
  have hcanonical : Path.canonical "/" "/r/a.ts" = "/r/a.ts" := by decide
  have hsource : wholeTextPlan.isSource "/r/a.ts" = true := by decide
  obtain ⟨paths, hpaths, hfilled⟩ := filledWith_of_populate rfl rfl h
  obtain rfl := Except.ok.inj hpaths
  have hadmitted : ∀ p, p ∈ wholeTextPlan.admitted (oneFile text.toUTF8)
      (["/r/a.ts"].map (Path.canonical "/")) ↔ p = "/r/a.ts" := by
    intro p
    rw [mem_admitted, List.map_singleton, hcanonical, List.mem_singleton]
    refine and_iff_left_of_imp ?_
    intro heq
    obtain rfl := heq
    rw [Disk.isFile_eq_isSome, ← hpath, bytes?_oneFile]
    exact ⟨by decide, rfl⟩
  rw [mem_symbolsFor, hfilled.symbolsOf]
  refine ⟨hcanonical.symm, (OrderedMap.mem_ofList_iff ?_).mpr ?_⟩
  · intro w hwrite _
    obtain ⟨name, owner⟩ := w
    obtain ⟨p, hp, hwrite⟩ := List.mem_flatMap.mp hwrite
    obtain rfl := (hadmitted p).mp hp
    exact (mem_scanIfSource_symbolWrites.mp hwrite).2.owner_eq
  · refine List.mem_flatMap.mpr ⟨_, (hadmitted _).mpr rfl, ?_⟩
    refine mem_scanIfSource_symbolWrites.mpr ⟨hsource, ?_⟩
    rw [← hpath]
    exact (declares_oneFile hsize htext).mpr rfl

/-- A source file was indexed, and another one is moved over it.  Its creation is reported, and
after that its old symbol is still registered. -/
theorem old_symbol_survives_move :
    let saved := Surroundings.calm (oneFile "new".toUTF8)
    ∃ s journal,
      wholeTextPlan.populate (.calm (oneFile "old".toUTF8)) (some ["/r/a.ts"]) .fresh
        = (.ok (), s, journal) ∧
      wholeTextPlan.tracking.deliveries saved.disk (.moved "/r/a.tmp" "/r/a.ts" false)
        = [.call ⟨.create, "/r/a.ts"⟩] ∧
      ¬ ∀ sym, sym ∈ symbolsFor "/" "/r/a.ts" (wholeTextPlan.handleCreate saved "/r/a.ts" s).1 ↔
        wholeTextPlan.Declares saved.disk "/r/a.ts" sym := by
  have hpath : placePath ["a.ts", "r"] = "/r/a.ts" := by decide
  have hok : ∃ s journal,
      wholeTextPlan.populate (.calm (oneFile "old".toUTF8)) (some ["/r/a.ts"]) .fresh
        = (.ok (), s, journal) := populate_ok _ _ rfl ⟨rfl, rfl⟩ rfl
  obtain ⟨s, journal, hpopulate⟩ := hok
  have hold := mem_symbolsFor_oneFile (by decide) (by decide +kernel) hpopulate
  refine ⟨s, journal, hpopulate, by decide +kernel, fun hexact => ?_⟩
  have hkept : ⟨"old", SymbolKind.ofName "old", "/r/a.ts"⟩ ∈ symbolsFor
      (Surroundings.calm (oneFile "new".toUTF8)).workDir "/r/a.ts"
      (wholeTextPlan.handleCreate (.calm (oneFile "new".toUTF8)) "/r/a.ts" s).1 :=
    (mem_symbolsFor_handleCreate (by decide) (by decide)).mpr (Or.inr hold)
  have hnew := (hexact _).mp hkept
  rw [← hpath] at hnew
  exact absurd ((declares_oneFile (by decide) (by decide +kernel)).mp hnew)
    (by decide)

end SpokenIndex.IndexPlan
