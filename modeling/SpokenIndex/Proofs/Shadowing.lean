/-
What one file's event does to the names of the others.

A key leads to one path, that of the file registered last, and nothing remembers the file
that had the key before.  So an event at a path takes from an index the keys that lead to
the path or beneath it, all of them and no others, and a change gives back those that the
file still declares.  Whether another file has the same name is not asked.

A file can therefore lose a name by the event of another file, but only of one that shares
the name and was registered too.
-/
import SpokenIndex.Proofs.History
import SpokenIndex.Proofs.LastWrites
import SpokenIndex.Proofs.Watched

namespace SpokenIndex

/-- A key of a mapping leads to a path or to one beneath it. -/
def LeadsInto (map : NameMap) (path key : String) : Prop :=
  ∃ owner, (key, owner) ∈ map.entries ∧ Path.isAtOrBeneath path owner = true

/-- An operation that may bring in entries: an initialization, or the creation or change of a
file. -/
def Operation.Brings : Operation → Prop
  | .populate _ _ => True
  | .call _ c => c.kind ≠ .delete
  | .reset => False
  | .dispose => False

namespace IndexPlan

variable {plan : IndexPlan} {world : Surroundings} {path p key name owner : String}
  {s : IndexState} {op : Operation} {ops : List Operation} {kind : SymbolKind}
  {e : String × String}

/-! ### The event -/

section Event

variable (hp : Path.canonical world.workDir path = p)
include hp

theorem mem_files_keys_handleDelete (h : key ∈ s.mappings.files.keys) :
    key ∈ (plan.handleDelete world path s).1.mappings.files.keys ↔
      ¬ LeadsInto s.mappings.files p key := by
  rw [handleDelete_files hp]
  exact OrderedMap.mem_keys_removeWhere_iff_not h

theorem mem_symbolsOf_keys_handleDelete (h : name ∈ (s.mappings.symbolsOf kind).keys) :
    name ∈ ((plan.handleDelete world path s).1.mappings.symbolsOf kind).keys ↔
      ¬ LeadsInto (s.mappings.symbolsOf kind) p name := by
  rw [handleDelete_symbolsOf hp]
  exact OrderedMap.mem_keys_removeWhere_iff_not h

/-- A changed file takes the names that led to it, and gives back those that it declares. -/
theorem mem_symbolsOf_keys_handleChange (h : name ∈ (s.mappings.symbolsOf kind).keys) :
    name ∈ ((plan.handleChange world path s).1.mappings.symbolsOf kind).keys ↔
      (plan.isSource p = true → LeadsInto (s.mappings.symbolsOf kind) p name →
        plan.Declares world.disk p ⟨name, kind, p⟩) := by
  by_cases hsource : plan.isSource p = true
  · rw [handleChange_symbolsOf hp hsource, OrderedMap.mem_keys_insertAll, mem_scan_names,
      OrderedMap.mem_keys_removeWhere_iff_not h, forall_prop_of_true hsource, imp_iff_not_or]
    rfl
  · rw [handleChange_of_not_source hp hsource]
    exact iff_of_true h fun hc => absurd hc hsource

end Event

/-! ### The files that were registered -/

/-- An operation that brings in nothing leaves only what was there. -/
theorem of_mem_perform_of_not_brings (hnot : ¬ op.Brings) :
    (e ∈ (plan.perform s op).mappings.files.entries → e ∈ s.mappings.files.entries) ∧
      ∀ kind, e ∈ ((plan.perform s op).mappings.symbolsOf kind).entries →
        e ∈ (s.mappings.symbolsOf kind).entries := by
  cases op with
  | populate world bulk => exact absurd trivial hnot
  | call world c =>
      obtain ⟨callKind, path⟩ := c
      obtain rfl : callKind = .delete := not_not.mp hnot
      rcases answerCall_state plan world ⟨.delete, path⟩ s with heq | heq
      · rw [perform, heq]
        exact ⟨id, fun _ => id⟩
      · rw [perform, heq, handleCall_delete]
        exact ⟨fun he => ((mem_files_handleDelete rfl).mp he).1,
          fun kind he => ((mem_symbolsOf_handleDelete rfl).mp he).1⟩
  | reset =>
      refine ⟨fun he => absurd he List.not_mem_nil, fun kind he => ?_⟩
      cases kind <;> exact absurd he List.not_mem_nil
  | dispose =>
      refine ⟨fun he => absurd he List.not_mem_nil, fun kind he => ?_⟩
      cases kind <;> exact absurd he List.not_mem_nil

/-- Every name of a file was brought in by an operation about the path that it leads to. -/
theorem of_mem_files_performAll
    (h : e ∈ (plan.performAll .fresh ops).mappings.files.entries) :
    ∃ op ∈ ops, op.Brings ∧ plan.Concerns op e.2 ∧ e ∈ fileWrites e.2 := by
  refine performAll_induction (fun m => ∀ e ∈ m.files.entries,
    ∃ op ∈ ops, op.Brings ∧ plan.Concerns op e.2 ∧ e ∈ fileWrites e.2)
    (fun e he => absurd he List.not_mem_nil) ?_ e h
  intro s hs op hop e he
  by_cases hbrings : op.Brings
  · rcases of_mem_files_perform he with hold | ⟨path, hconcerns, -, hwrite⟩
    · exact hs e hold
    · obtain rfl := value_of_mem_fileWrites hwrite
      exact ⟨op, hop, hbrings, hconcerns, hwrite⟩
  · exact hs e ((of_mem_perform_of_not_brings hbrings).1 he)

/-- Every symbol was brought in by an operation about the path that it leads to, and the file
there declared it once. -/
theorem of_mem_symbolsOf_performAll (kind : SymbolKind)
    (h : e ∈ ((plan.performAll .fresh ops).mappings.symbolsOf kind).entries) :
    ∃ op ∈ ops, op.Brings ∧ plan.Concerns op e.2 ∧
      ∃ disk, plan.Declares disk e.2 ⟨e.1, kind, e.2⟩ := by
  refine performAll_induction (fun m => ∀ e ∈ (m.symbolsOf kind).entries,
    ∃ op ∈ ops, op.Brings ∧ plan.Concerns op e.2 ∧ ∃ disk, plan.Declares disk e.2 ⟨e.1, kind, e.2⟩)
    (fun e he => by cases kind <;> exact absurd he List.not_mem_nil) ?_ e h
  intro s hs op hop e he
  by_cases hbrings : op.Brings
  · rcases of_mem_symbolsOf_perform kind he with hold | ⟨hconcerns, -, hdeclares⟩
    · exact hs e hold
    · exact ⟨op, hop, hbrings, hconcerns, hdeclares⟩
  · exact hs e ((of_mem_perform_of_not_brings hbrings).2 kind he)

/-! ### Which names are lost -/

/-- **Which names an event takes.**  In every state that operations lead to, and for every key, be
it generated by whatever file: a deletion takes a file's name exactly if it led to the path or
beneath, and a change takes none.  A deletion takes a symbol's name exactly if it led there, and a
change exactly if it did and the changed file does not declare it.  A name leads there only if a
file with that name was brought in there.  So the names of another file are kept unless they are
shared with one that was.  What is beneath a path is told by its text and a slash; the paths `/`
and `//` end in one, so nothing counts as beneath them. -/
theorem names_after_event (plan : IndexPlan) (ops : List Operation) (world : Surroundings)
    (path : String) :
    let p := Path.canonical world.workDir path
    let s := plan.performAll .fresh ops
    let deleted := (plan.handleDelete world path s).1.mappings
    let changed := (plan.handleChange world path s).1.mappings
    (∀ key ∈ s.mappings.files.keys,
      (key ∈ deleted.files.keys ↔ ¬ LeadsInto s.mappings.files p key) ∧
      key ∈ changed.files.keys ∧
      (LeadsInto s.mappings.files p key → ∃ op ∈ ops, op.Brings ∧ ∃ other,
        plan.Concerns op other ∧ Path.isAtOrBeneath p other = true ∧
          (key, other) ∈ fileWrites other)) ∧
    ∀ kind, ∀ name ∈ (s.mappings.symbolsOf kind).keys,
      (name ∈ (deleted.symbolsOf kind).keys ↔ ¬ LeadsInto (s.mappings.symbolsOf kind) p name) ∧
      (name ∈ (changed.symbolsOf kind).keys ↔
        (plan.isSource p = true → LeadsInto (s.mappings.symbolsOf kind) p name →
          plan.Declares world.disk p ⟨name, kind, p⟩)) ∧
      (LeadsInto (s.mappings.symbolsOf kind) p name → ∃ op ∈ ops, op.Brings ∧ ∃ other,
        plan.Concerns op other ∧ Path.isAtOrBeneath p other = true ∧
          ∃ disk, plan.Declares disk other ⟨name, kind, other⟩) := by
  intro p s deleted changed
  refine ⟨fun key hkey => ⟨mem_files_keys_handleDelete rfl hkey, ?_, fun hleads => ?_⟩,
    fun kind name hname => ⟨mem_symbolsOf_keys_handleDelete rfl hname,
      mem_symbolsOf_keys_handleChange rfl hname, fun hleads => ?_⟩⟩
  · show key ∈ (plan.handleChange world path s).1.mappings.files.keys
    rwa [handleChange_files rfl]
  · obtain ⟨other, hentry, hbeneath⟩ := hleads
    obtain ⟨op, hop, hbrings, hconcerns, hwrite⟩ := of_mem_files_performAll hentry
    exact ⟨op, hop, hbrings, other, hconcerns, hbeneath, hwrite⟩
  · obtain ⟨other, hentry, hbeneath⟩ := hleads
    obtain ⟨op, hop, hbrings, hconcerns, hdeclares⟩ := of_mem_symbolsOf_performAll kind hentry
    exact ⟨op, hop, hbrings, other, hconcerns, hbeneath, hdeclares⟩

/-- Two files with the same name and the same text. -/
def twins : Disk where
  top := .folder [("r", .folder [("a", .folder [("h.ts", .file "f".toUTF8)]),
    ("b", .folder [("h.ts", .file "f".toUTF8)])])]

theorem performAll_twins :
    (wholeTextPlan.performAll .fresh
        [.populate (.calm twins) (some ["/r/a/h.ts", "/r/b/h.ts"])]).mappings
      = wholeTextPlan.register "/r/b/h.ts" [⟨"f", .function, "/r/b/h.ts"⟩]
          (wholeTextPlan.register "/r/a/h.ts" [⟨"f", .function, "/r/a/h.ts"⟩] .empty) := by
  have hfirst : (wholeTextPlan.scanIfSource twins "/r/a/h.ts").1
      = [⟨"f", .function, "/r/a/h.ts"⟩] := by cbv
  have hsecond : (wholeTextPlan.scanIfSource twins "/r/b/h.ts").1
      = [⟨"f", .function, "/r/b/h.ts"⟩] := by cbv
  rw [performAll, List.foldl_cons, List.foldl_nil, perform, establish_snd (by decide)]
  refine (mappings_populate_all (.calm _) rfl (by decide) (by cbv)).trans ?_
  rw [List.foldl_cons, List.foldl_cons, List.foldl_nil]
  exact congrArg₂ _ hsecond (congrArg₂ _ hfirst rfl)

/-- Both twins are indexed and the second one is deleted.  The first one still exists, is tracked
and declares its symbol, but is no longer found, by its name or by its symbol. -/
theorem twin_loses_names :
    let removed := Surroundings.calm (twins.remove "/r/b/h.ts")
    let s := wholeTextPlan.performAll .fresh
      [.populate (.calm twins) (some ["/r/a/h.ts", "/r/b/h.ts"])]
    let after := (wholeTextPlan.handleDelete removed "/r/b/h.ts" s).1.mappings
    (Path.isAtOrBeneath "/r/b/h.ts" "/r/a/h.ts" = false ∧
      wholeTextPlan.isTracked "/r/a/h.ts" = true ∧ removed.disk.isFile "/r/a/h.ts" = true ∧
      wholeTextPlan.Declares removed.disk "/r/a/h.ts" ⟨"f", .function, "/r/a/h.ts"⟩) ∧
    (("h.ts", "/r/a/h.ts") ∈ fileWrites "/r/a/h.ts" ∧ "h.ts" ∈ s.mappings.files.keys ∧
      "h.ts" ∉ after.files.keys) ∧
    "f" ∈ s.mappings.functions.keys ∧ "f" ∉ after.functions.keys := by
  intro removed s after
  have hcanonical : Path.canonical removed.workDir "/r/b/h.ts" = "/r/b/h.ts" := by decide
  have hs : s.mappings = _ := performAll_twins
  have hfiles : after.files = _ := handleDelete_files hcanonical
  have hfunctions : after.functions = _ :=
    show after.symbolsOf .function = _ from handleDelete_symbolsOf hcanonical
  refine ⟨⟨by decide, by decide, by cbv, mem_scan.mp ?_⟩, ?_⟩
  · have hscan : (wholeTextPlan.scan removed.disk "/r/a/h.ts").1
        = [⟨"f", .function, "/r/a/h.ts"⟩] := by cbv
    rw [hscan]
    exact List.mem_cons_self
  · rw [hfiles, hfunctions, hs]
    decide +kernel

end IndexPlan

end SpokenIndex
