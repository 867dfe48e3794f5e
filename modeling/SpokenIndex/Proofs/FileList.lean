/-
What the command for files prints.

A step of running a command either prints lines and goes on or ends the command.  A loop
over paths prints what its steps print, one after the other, and ends the command as soon
as one of them does; so a command that ends with code zero has shown every path.  Each
path makes a line at least.  Where there are no more lines than paths, each path made one,
and the lines are the paths themselves exactly if each of these is shown verbatim
(`Proofs/Verbatim`).

The number of files is told in a text of ordinary characters, behind a sign in a style of
its own.  It comes last, so it can be told from the paths whatever these are.
-/
import SpokenIndex.Command.Program
import SpokenIndex.Proofs.Lines
import SpokenIndex.Proofs.Walk

namespace SpokenIndex.Command

/-! ### Steps that print -/

namespace Act

/-- A step that prints lines and goes on. -/
def Prints (act : Act Unit) (lines : List String) : Prop :=
  ∀ printed : Printed, act.run.run printed
    = (.ok (), { printed with lines := printed.lines ++ lines })

/-- A step that ends the command with a fault that is not handled. -/
def Escapes (act : Act Unit) : Prop :=
  ∀ printed : Printed, ∃ fault after, act.run.run printed = (.error (.escape fault), after)

variable {act next : Act Unit} {lines more : List String}

theorem prints_pure : (pure () : Act Unit).Prints [] := by
  intro printed
  rw [List.append_nil]
  rfl

theorem prints_put (lines : List String) : (put lines).Prints lines := fun _ => rfl

theorem Prints.andThen (h : act.Prints lines) (hnext : next.Prints more) :
    (act >>= fun _ => next).Prints (lines ++ more) := by
  intro printed
  rw [ExceptT.run_bind, StateT.run_bind, h printed, ← List.append_assoc]
  exact hnext _

theorem Escapes.andThen (h : act.Escapes) (next : Act Unit) :
    (act >>= fun _ => next).Escapes := by
  intro printed
  obtain ⟨fault, after, hrun⟩ := h printed
  refine ⟨fault, after, ?_⟩
  rw [ExceptT.run_bind, StateT.run_bind, hrun]
  rfl

theorem Prints.thenEscapes (h : act.Prints lines) (hnext : next.Escapes) :
    (act >>= fun _ => next).Escapes := by
  intro printed
  rw [ExceptT.run_bind, StateT.run_bind, h printed]
  exact hnext _

theorem Prints.outcome_eq (h : act.Prints lines) : act.outcome = ⟨0, ⟨lines, []⟩, none⟩ := by
  rw [outcome, h .none]
  rfl

theorem Escapes.code_eq (h : act.Escapes) : act.outcome.code = 1 := by
  obtain ⟨fault, after, hrun⟩ := h .none
  rw [outcome, hrun]

/-- Steps for the items of a list print their lines one after the other. -/
theorem prints_forM {α : Type} {f : α → Act Unit} {g : α → List String} :
    ∀ xs : List α, (∀ x ∈ xs, (f x).Prints (g x)) → (xs.forM f).Prints (xs.flatMap g)
  | [], _ => prints_pure
  | x :: xs, h => by
    rw [List.flatMap_cons]
    exact (h x List.mem_cons_self).andThen
      (prints_forM xs fun y hy => h y (List.mem_cons_of_mem x hy))

/-- One item whose step ends the command is enough, if the steps before it go on or end it too. -/
theorem escapes_forM {α : Type} {f : α → Act Unit} {g : α → List String} {y : α}
    (hy : (f y).Escapes) :
    ∀ xs : List α, y ∈ xs → (∀ x ∈ xs, (f x).Prints (g x) ∨ (f x).Escapes) →
      (xs.forM f).Escapes
  | x :: xs, hmem, h => by
    rcases h x List.mem_cons_self with hx | hx
    · rcases List.mem_cons.mp hmem with rfl | hmem
      · exact hy.andThen (xs.forM f)
      · exact hx.thenEscapes
          (escapes_forM hy xs hmem fun z hz => h z (List.mem_cons_of_mem x hz))
    · exact hx.andThen (xs.forM f)

/-- Steps that do nothing do nothing one after the other. -/
theorem forM_eq_pure {α : Type} {f : α → Act Unit} :
    ∀ xs : List α, (∀ x, f x = pure ()) → xs.forM f = pure ()
  | [], _ => rfl
  | x :: xs, h => by
    show (f x >>= fun _ => xs.forM f) = pure ()
    rw [h x, pure_bind, forM_eq_pure xs h]

end Act

open Act

/-! ### Paths on the screen -/

/-- The lines that a path makes on a screen of a width. -/
def pathLines (width : Nat) (path : String) : List String :=
  match Display.shown path with
  | .ok s => (Display.wholeLines width s).map String.ofList
  | .error _ => []

theorem sayWhole_prints {path : String} {s : List Char} (width : Nat)
    (h : Display.shown path = .ok s) :
    (sayWhole width path).Prints (pathLines width path) := by
  rw [sayWhole, pathLines, h]
  exact prints_put _

theorem sayWhole_escapes {path : String} {fault : Display.MarkupFault} (width : Nat)
    (h : Display.shown path = .error fault) : (sayWhole width path).Escapes := by
  intro printed
  rw [sayWhole, h]
  exact ⟨.markup fault, printed, rfl⟩

theorem sayWhole_cases (width : Nat) (path : String) :
    (sayWhole width path).Prints (pathLines width path) ∨ (sayWhole width path).Escapes := by
  cases h : Display.shown path with
  | ok s => exact Or.inl (sayWhole_prints width h)
  | error fault => exact Or.inr (sayWhole_escapes width h)

theorem pathLines_eq_singleton_iff {path : String} {s : List Char} (width : Nat)
    (h : Display.shown path = .ok s) :
    pathLines width path = [path] ↔ Display.IsVerbatim width path.toList := by
  rw [← Display.wholeLines_shown_iff, pathLines, h]
  constructor
  · intro hlines
    obtain ⟨line, hwhole, hline⟩ := List.map_eq_singleton_iff.mp hlines
    refine ⟨s, rfl, ?_⟩
    rw [hwhole, ← hline, String.toList_ofList]
  · rintro ⟨r, hr, hwhole⟩
    obtain rfl : s = r := Except.ok.inj hr
    show (Display.wholeLines width s).map String.ofList = [path]
    rw [hwhole, List.map_singleton, String.ofList_toList]

theorem pathLines_ne_nil {path : String} {s : List Char} (width : Nat)
    (h : Display.shown path = .ok s) : pathLines width path ≠ [] := by
  rw [pathLines, h]
  show List.map _ (List.map _ _) ≠ []
  rw [ne_eq, List.map_eq_nil_iff, List.map_eq_nil_iff]
  exact Text.splitAt_ne_nil '\n' s

theorem length_le_length_flatMap {α : Type} {g : α → List α} {xs : List α}
    (h : ∀ x ∈ xs, g x ≠ []) : xs.length ≤ (xs.flatMap g).length := by
  rw [List.length_flatMap, ← List.length_map (f := fun x => (g x).length)]
  refine List.length_le_sum_of_one_le _ fun n hn => ?_
  obtain ⟨x, hx, rfl⟩ := List.mem_map.mp hn
  exact List.length_pos_iff.mpr (h x hx)

/-- Items of which each makes something make themselves together only if each makes itself. -/
theorem eq_singleton_of_flatMap_eq {α : Type} {g : α → List α} {xs : List α}
    (h : ∀ x ∈ xs, g x ≠ []) (heq : xs.flatMap g = xs) : ∀ x ∈ xs, g x = [x] := by
  induction xs with
  | nil => exact fun x hx => absurd hx List.not_mem_nil
  | cons x xs ih =>
    rw [List.forall_mem_cons] at h ⊢
    obtain ⟨hx, hxs⟩ := h
    obtain ⟨y, more, hy⟩ := List.exists_cons_of_ne_nil hx
    have hrest := length_le_length_flatMap hxs
    have hlength := congrArg List.length heq
    rw [List.flatMap_cons, hy, List.length_append, List.length_cons, List.length_cons] at hlength
    obtain rfl : more = [] := List.eq_nil_of_length_eq_zero (by omega)
    rw [List.flatMap_cons, hy] at heq
    obtain ⟨rfl, hflat⟩ := List.cons.inj heq
    exact ⟨hy, ih hxs hflat⟩

/-! ### Information -/

/-- Characters that take one cell, and that no display does anything with but show them. -/
def IsOrdinary (s : List Char) : Prop :=
  ∀ c ∈ s, (32 ≤ c.toNat ∧ c.toNat < 127) ∧ Display.isActive c = false

namespace IsOrdinary

variable {a b s : List Char}

theorem append (ha : IsOrdinary a) (hb : IsOrdinary b) : IsOrdinary (a ++ b) :=
  fun c hc => (List.mem_append.mp hc).elim (ha c) (hb c)

theorem active_eq_zero (h : IsOrdinary s) : Display.active s = 0 :=
  Display.active_eq_zero_iff.mpr fun c hc => (h c hc).2

theorem not_mem (h : IsOrdinary s) {c : Char} (hc : c.toNat < 32) : c ∉ s :=
  fun hmem => absurd (h c hmem).1.1 (Nat.not_le_of_lt hc)

theorem cells_eq (h : IsOrdinary s) : Display.cells s = s.length := by
  induction s with
  | nil => rfl
  | cons c rest ih =>
    have hc : Display.cellsOf c = 1 := by
      have hbounds := (h c List.mem_cons_self).1
      rw [Display.cellsOf, if_pos (by simpa using hbounds)]
    rw [Display.cells_cons, hc, ih fun d hd => h d (List.mem_cons_of_mem c hd), List.length_cons,
      Nat.add_comm]

theorem length_le_of_mem_linesOf (h : IsOrdinary s) {room : Nat}
    (hmem : s ∈ Display.linesOf .natural .fold room s) : s.length ≤ room := by
  rw [← h.cells_eq]
  exact Display.cells_le_of_mem_linesOf hmem

theorem linesOf_eq (h : IsOrdinary s) {room : Nat} (hlength : s.length ≤ room) :
    Display.linesOf .natural .fold room s = [s] :=
  Display.linesOf_of_fits (h.not_mem (by decide)) (h.not_mem (by decide)) hlength
    (h.cells_eq.trans_le hlength)

end IsOrdinary

theorem isOrdinary_toDigits (n : Nat) : IsOrdinary (Nat.toDigits 10 n) := by
  intro c hc
  have hdigit := Nat.isDigit_of_mem_toDigits (by decide) (by decide) hc
  have hbounds : 48 ≤ c.toNat ∧ c.toNat ≤ 57 := by
    simpa [Char.isDigit, UInt32.le_iff_toNat_le] using hdigit
  exact ⟨by omega, Display.isActive_eq_false (by omega)⟩

/-- What is told of a number of files. -/
def countText (n : Nat) : String := "Found " ++ toString n ++ " files"

/-- The line that tells a number of files. -/
def countLine (n : Nat) : String := "i " ++ countText n

theorem toList_countText (n : Nat) :
    (countText n).toList = "Found ".toList ++ Nat.toDigits 10 n ++ " files".toList := by
  simp [countText]

theorem toList_countLine (n : Nat) :
    (countLine n).toList = "i ".toList ++ (countText n).toList := by
  simp [countLine]

theorem isOrdinary_countText (n : Nat) : IsOrdinary (countText n).toList := by
  have hfront : IsOrdinary "Found ".toList := by simp [IsOrdinary]; decide
  have hback : IsOrdinary " files".toList := by simp [IsOrdinary]; decide
  rw [toList_countText]
  exact (hfront.append (isOrdinary_toDigits n)).append hback

theorem isOrdinary_countLine (n : Nat) : IsOrdinary (countLine n).toList := by
  have hsign : IsOrdinary "i ".toList := by simp [IsOrdinary]; decide
  rw [toList_countLine]
  exact hsign.append (isOrdinary_countText n)

/-- The lines that a text for information makes on a screen of a width. -/
def informLines (width : Nat) (text : String) : List String :=
  (Display.linesOf .natural .fold width ('i' :: ' ' :: text.toList)).map String.ofList

theorem inform_prints {text : String} (width : Nat) (htext : Display.active text.toList = 0) :
    (inform width text).Prints (informLines width text) := by
  have hlist : ("[bold blue]i[/bold blue] " ++ text).toList
      = '[' :: "bold blue".toList ++ ']' ::
        (['i'] ++ ('[' :: ('/' :: "bold blue".toList) ++ ']' :: (' ' :: text.toList))) := by
    simp
  have hstyle : Display.IsTag "bold blue".toList := by
    simp [Display.IsTag]
    decide
  have hbehind : Display.active (' ' :: text.toList) = 0 := by
    rwa [Display.active_cons_of_neg (by decide)]
  have hshown := Display.shown_styled hlist hstyle (by simp) (by simp) (by decide)
    (by decide) hbehind
  rw [inform, say, screenLines, hshown]
  exact prints_put _

theorem informLines_countText (width n : Nat) :
    informLines width (countText n)
      = (Display.linesOf .natural .fold width (countLine n).toList).map String.ofList := by
  rw [informLines, toList_countLine]
  simp

theorem length_le_of_mem_informLines {width n : Nat}
    (h : countLine n ∈ informLines width (countText n)) : (countLine n).length ≤ width := by
  rw [informLines_countText] at h
  obtain ⟨line, hmem, hline⟩ := List.mem_map.mp h
  obtain rfl : line = (countLine n).toList := by rw [← hline, String.toList_ofList]
  rw [← String.length_toList]
  exact (isOrdinary_countLine n).length_le_of_mem_linesOf hmem

/-- The number of files is told in one line if the screen is wide enough for it. -/
theorem informLines_eq_singleton {width n : Nat} (hroom : (countLine n).length ≤ width) :
    informLines width (countText n) = [countLine n] := by
  rw [← String.length_toList] at hroom
  rw [informLines_countText, (isOrdinary_countLine n).linesOf_eq hroom, List.map_singleton,
    String.ofList_toList]

theorem informLines_ne_nil (width : Nat) (text : String) : informLines width text ≠ [] := by
  rw [informLines, ne_eq, List.map_eq_nil_iff]
  exact Display.linesOf_ne_nil _ _ _ _

/-! ### The list -/

/-- The files whose names a pattern is found in; the pattern may be left out. -/
inductive Finds : String → (String → Bool) → Prop
  | all : Finds "" fun _ => true
  | pattern {text : String} {e : Pattern.Expression} (hne : text ≠ "")
      (hread : Pattern.read false text = .ok e) : Finds text e.occursIn

/-- The files of the project of settings whose names are found, in the order of the listing. -/
def foundFiles (scene : Scene) (settings : Settings) (finds : String → Bool) : List String :=
  ((listingOf scene settings).list scene.world.disk scene.world.clock true .none).1.filter
    fun path => finds (Path.baseName path)

/-- The files of a project whose root is a folder that can be read are those that a walk of the
folder finds. -/
theorem foundFiles_eq (scene : Scene) (settings : Settings) {place : List String}
    {entries : List (String × Node)} {root : String}
    (hroot : scene.world.disk.resolve settings.projectRoot = root)
    (hplace : scene.world.disk.locate true root = .ok place)
    (hfolder : scene.world.disk.at? place = some (.folder entries))
    (hreads : scene.world.disk.reads place = true) (finds : String → Bool) :
    let plan : ListingPlan :=
      ⟨[root], settings.listing.cacheSeconds, settings.listing.ignorePatterns⟩
    foundFiles scene settings finds
      = (scene.world.disk.walkNode (plan.walker root) (.folder entries) root place).filter
          fun path => finds (Path.baseName path) := by
  intro plan
  have hplan : listingOf scene settings = plan := by
    rw [listingOf, ListingPlan.forRoots, List.map_singleton, hroot]
  have hstale : plan.isFresh scene.world.clock .none = false := rfl
  have hwalk : (plan.filesBeneath scene.world.disk root).1
      = scene.world.disk.walkNode (plan.walker root) (.folder entries) root place := by
    rw [ListingPlan.filesBeneath, Disk.walk_eq _ hplace hfolder, if_pos hreads]
  rw [foundFiles, hplan, ListingPlan.list, hstale, Bool.and_false, if_neg Bool.false_ne_true,
    ListingPlan.allFiles]
  show List.filter _ (([] : List String) ++ (plan.filesBeneath scene.world.disk root).1) = _
  rw [hwalk, List.nil_append]

theorem runFileList_eq {pattern : String} {finds : String → Bool} (h : Finds pattern finds)
    (scene : Scene) (settings : Settings) :
    runFileList scene (listingOf scene settings) pattern
      = ((foundFiles scene settings finds).forM (sayWhole scene.screenWidth) >>= fun _ =>
        inform scene.screenWidth (countText (foundFiles scene settings finds).length)) := by
  cases h with
  | all =>
    rw [runFileList, if_pos (by simp), pure_bind, foundFiles,
      List.filter_eq_self.mpr fun _ _ => rfl]
    rfl
  | pattern hne hread =>
    rw [runFileList, if_neg (by simpa using hne), filesFound, hread]
    rfl

/-- Paths that are shown are printed, and their number behind them. -/
theorem list_prints {paths : List String} (width : Nat)
    (hshown : ∀ path ∈ paths, ∃ s, Display.shown path = .ok s) :
    (paths.forM (sayWhole width) >>= fun _ => inform width (countText paths.length)).Prints
      (paths.flatMap (pathLines width) ++ informLines width (countText paths.length)) := by
  refine (prints_forM paths fun path hpath => ?_).andThen
    (inform_prints width (isOrdinary_countText paths.length).active_eq_zero)
  obtain ⟨s, hs⟩ := hshown path hpath
  exact sayWhole_prints width hs

/-- Paths and their number are printed as they are if each path is, and there is room for the
number. -/
theorem list_lines_eq_iff {paths : List String} (width : Nat)
    (hshown : ∀ path ∈ paths, ∃ s, Display.shown path = .ok s) :
    paths.flatMap (pathLines width) ++ informLines width (countText paths.length)
        = paths ++ [countLine paths.length] ↔
      (∀ path ∈ paths, Display.IsVerbatim width path.toList) ∧
        (countLine paths.length).length ≤ width := by
  have hsingle : (∀ path ∈ paths, pathLines width path = [path]) ↔
      ∀ path ∈ paths, Display.IsVerbatim width path.toList := by
    refine forall₂_congr fun path hpath => ?_
    obtain ⟨s, hs⟩ := hshown path hpath
    exact pathLines_eq_singleton_iff width hs
  rw [← hsingle]
  constructor
  · intro hlines
    have hlast := congrArg List.getLast? hlines
    rw [List.getLast?_append_of_ne_nil _ (informLines_ne_nil width _), List.getLast?_concat]
      at hlast
    have hroom := length_le_of_mem_informLines (List.mem_of_getLast? hlast)
    rw [informLines_eq_singleton hroom] at hlines
    refine ⟨eq_singleton_of_flatMap_eq (fun path hpath => ?_) (List.append_cancel_right hlines),
      hroom⟩
    obtain ⟨s, hs⟩ := hshown path hpath
    exact pathLines_ne_nil width hs
  · rintro ⟨hpaths, hroom⟩
    rw [informLines_eq_singleton hroom, List.flatMap_congr hpaths, List.flatMap_singleton']

/-! ### Command lines for files -/

/-- A command line that asks for the files of the project whose names a pattern is found in. -/
structure AsksForFiles (scene : Scene) (args rest : List String) (outer inner : LineReading)
    (settings : Settings) (pattern : String) : Prop where
  outer_read : readLine programOptions true none args = .ok outer
  outer_pages : ∀ o ∈ outer.order, o ≠ .help ∧ o ≠ .version
  config_there : ∀ path, outer.value? .config = some path →
    path ≠ "" ∧ scene.world.disk.exists? (scene.site.absolute path) = true
  project_there : ∀ path, outer.value? .project = some path →
    path ≠ "" ∧ scene.world.disk.exists? (scene.site.absolute path) = true ∧
      scene.world.disk.isFile (scene.site.absolute path) = false
  outer_words : outer.words = Verb.files.label :: rest
  loaded : scene.site.load (outer.value? .config) (outer.value? .project) = .ok settings
  inner_read : readLine Verb.files.options false none rest = .ok inner
  inner_pages : ∀ o ∈ inner.order, o ≠ .help ∧ o ≠ .version
  inner_words : inner.words = []
  /-- No name is looked for. -/
  unnamed : (inner.value? .name).getD "" = ""
  /-- The pattern is empty if there is none. -/
  searched : (inner.value? .pattern).getD "" = pattern

theorem lineOf_eq_pure {form : CommandForm} {isOuter : Bool} {args : List String}
    {line : LineReading} (h : readLine form.options isOuter none args = .ok line) :
    lineOf form isOuter args = pure line := by
  rw [lineOf, h]

theorem showPages_eq_pure {line : LineReading} (h : ∀ o ∈ line.order, o ≠ .help ∧ o ≠ .version)
    (form : CommandForm) : showPages form line = pure () := by
  have hnone : line.order.find? (fun o => o = .help ∨ o = .version) = none := by
    simpa [List.find?_eq_none] using h
  rw [showPages, hnone]

theorem checkPath_eq_pure {scene : Scene} {path : String} {isFolder : Bool} (hne : path ≠ "")
    (hthere : scene.world.disk.exists? (scene.site.absolute path) = true)
    (hfolder : isFolder = true → scene.world.disk.isFile (scene.site.absolute path) = false)
    (form : OptionForm) (noun : String) :
    checkPath scene form noun isFolder path = pure () := by
  have hpath : path.isEmpty = false := by simpa using hne
  have hfile : (isFolder && scene.world.disk.isFile (scene.site.absolute path)) = false := by
    cases isFolder
    · rfl
    · exact hfolder rfl
  simp [checkPath, hpath, hthere, hfile]

namespace AsksForFiles

variable {scene : Scene} {args rest : List String} {outer inner : LineReading}
  {settings : Settings} {pattern : String}

theorem checkPaths_eq (h : AsksForFiles scene args rest outer inner settings pattern) :
    checkPaths scene outer = pure () := by
  refine forM_eq_pure outer.order fun o => ?_
  split
  · rename_i path hpath
    obtain ⟨hne, hthere⟩ := h.config_there path hpath
    exact checkPath_eq_pure hne hthere (fun hfolder => Bool.noConfusion hfolder) _ _
  · rename_i path hpath
    obtain ⟨hne, hthere, hfolder⟩ := h.project_there path hpath
    exact checkPath_eq_pure hne hthere (fun _ => hfolder) _ _
  · rfl

theorem program_eq (h : AsksForFiles scene args rest outer inner settings pattern) :
    program scene args = runFileList scene (listingOf scene settings) pattern := by
  have hargs : args.isEmpty = false := by
    rw [List.isEmpty_eq_false_iff]
    rintro rfl
    obtain rfl : (⟨[], []⟩ : LineReading) = outer := Except.ok.inj h.outer_read
    exact List.cons_ne_nil _ _ h.outer_words.symm
  have hverb : Verb.all.find? (·.label == Verb.files.label) = some Verb.files := by decide
  have hunnamed : ((inner.value? .name).getD "").isEmpty = true := by
    rw [h.unnamed]
    rfl
  have houter : lineOf programForm true args = pure outer := lineOf_eq_pure h.outer_read
  have hinner : lineOf Verb.files.form false rest = pure inner := lineOf_eq_pure h.inner_read
  have hrun : runVerb scene settings .files rest
      = runFileList scene (listingOf scene settings) pattern := by
    simp only [runVerb, hinner, showPages_eq_pure h.inner_pages, h.inner_words, runFiles,
      hunnamed, h.searched, pure_bind]
    rfl
  simp only [program, hargs, houter, showPages_eq_pure h.outer_pages, h.checkPaths_eq,
    h.outer_words, hverb, h.loaded, pure_bind, hrun]
  rfl

end AsksForFiles

/-- **What the command for files prints.**  A command line that asks for the files of the project,
all or those whose names a pattern is found in, ends with code zero and prints the paths of the
listing as they are, one in each line and in order, and their number behind them, exactly if the
display shows every one of these paths verbatim (and there is room for the number).

So of printable paths the ones with tags, names of emoji or brackets behind a backslash in
them are not printed as they are, and neither are those that end in blanks beyond the width of the
screen. -/
theorem prints_foundFiles_iff {scene : Scene} {args rest : List String}
    {outer inner : LineReading} {settings : Settings} {pattern : String}
    {finds : String → Bool} (h : AsksForFiles scene args rest outer inner settings pattern)
    (hfinds : Finds pattern finds) :
    let paths := foundFiles scene settings finds
    ((run scene args).code = 0 ∧
        (run scene args).printed.lines = paths ++ [countLine paths.length]) ↔
      (∀ path ∈ paths, Display.IsVerbatim scene.screenWidth path.toList) ∧
        (countLine paths.length).length ≤ scene.screenWidth := by
  intro paths
  let width := scene.screenWidth
  have hrun : run scene args = (paths.forM (sayWhole width) >>= fun _ =>
      inform width (countText paths.length)).outcome := by
    rw [run, h.program_eq, runFileList_eq hfinds]
  rw [hrun]
  by_cases hshown : ∀ path ∈ paths, ∃ s, Display.shown path = .ok s
  · rw [(list_prints width hshown).outcome_eq, ← list_lines_eq_iff width hshown]
    exact and_iff_right rfl
  · have hescapes : (paths.forM (sayWhole width)).Escapes := by
      simp only [not_forall, not_exists] at hshown
      obtain ⟨path, hpath, hfails⟩ := hshown
      refine escapes_forM ?_ paths hpath fun x _ => sayWhole_cases width x
      cases hs : Display.shown path with
      | ok s => exact absurd hs (hfails s)
      | error fault => exact sayWhole_escapes width hs
    refine iff_of_false (fun hprinted => ?_) fun hverbatim => hshown fun path hpath => ?_
    · rw [(hescapes.andThen _).code_eq] at hprinted
      exact absurd hprinted.1 Nat.one_ne_zero
    · exact ⟨path.toList, Display.shown_of_isPlain (hverbatim.1 path hpath).toIsPlain⟩

/-! ### A project with brackets in its names -/

/-- Without a file of settings and without variables the settings are the standard ones. -/
theorem load_eq_standard {site : Settings.Site} {root : Option String} (henv : site.env = [])
    (hfile : site.projectFile? none (site.resolve (root.getD "")) = none) :
    site.load none root = .ok (.standard (site.resolve (site.resolve (root.getD "")))) := by
  rw [Settings.Site.load, hfile, Settings.Site.settings, Settings.ofSources, henv]
  rfl

/-- What is in the root of a project with brackets in its names. -/
def bracketedEntries : List (String × Node) :=
  [("[id].ts", .file .empty), ("a[0].ts", .file .empty)]

/-- A scene at the root of this project. -/
def bracketedScene : Scene where
  world := {
    disk := { top := .folder [("r", .folder bracketedEntries)] }
    workDir := "/r"
    clock := .zero }
  env := []
  input := ""
  screenWidth := 80

theorem load_bracketedScene {root : Option String}
    (hroot : bracketedScene.site.resolve (root.getD "") = "/r") :
    bracketedScene.site.load none root = .ok (.standard "/r") := by
  have hagain : bracketedScene.site.resolve "/r" = "/r" := by cbv
  have hfile : bracketedScene.site.projectFile? none "/r" = none := by cbv
  rw [load_eq_standard rfl (hroot ▸ hfile), hroot, hagain]

theorem foundFiles_bracketedScene (finds : String → Bool) :
    foundFiles bracketedScene (.standard "/r") finds
      = ["/r/[id].ts", "/r/a[0].ts"].filter fun path => finds (Path.baseName path) := by
  have hroot : bracketedScene.world.disk.resolve "/r" = "/r" := by cbv
  have hplace : bracketedScene.world.disk.locate true "/r" = .ok ["r"] := by cbv
  have hfolder : bracketedScene.world.disk.at? ["r"] = some (.folder bracketedEntries) := by rfl
  rw [foundFiles_eq bracketedScene (.standard "/r") hroot hplace hfolder rfl]
  congr 1
  decide +kernel

/-- The pattern that is found in the names that begin with `a`. -/
def beginsWithA : Pattern.Expression :=
  .sequence [.place .textStart, .char ⟨false, false, false, false, false⟩ false [.code 97]]

theorem prints_foundFiles_iff_bracketed :
    AsksForFiles bracketedScene ["--project", "/r", "files", "-r", "^a"] ["-r", "^a"]
        ⟨[(.project, some "/r")], ["files", "-r", "^a"]⟩ ⟨[(.pattern, some "^a")], []⟩
        (.standard "/r") "^a" ∧
      Finds "^a" beginsWithA.occursIn ∧
      (run bracketedScene ["--project", "/r", "files", "-r", "^a"]).code = 0 ∧
      (run bracketedScene ["--project", "/r", "files", "-r", "^a"]).printed.lines
        = ["/r/a[0].ts", "i Found 1 files"] := by
  have hasks : AsksForFiles bracketedScene ["--project", "/r", "files", "-r", "^a"] ["-r", "^a"]
      ⟨[(.project, some "/r")], ["files", "-r", "^a"]⟩ ⟨[(.pattern, some "^a")], []⟩
      (.standard "/r") "^a" := by
    refine ⟨by cbv, by decide, fun path h => ?_, fun path h => ?_, rfl, ?_, by cbv, by decide, rfl,
      rfl, by decide⟩
    · cases h
    · obtain rfl : "/r" = path := Option.some.inj h
      exact ⟨by decide, by cbv, by cbv⟩
    · exact load_bracketedScene (by cbv)
  have hfinds : Finds "^a" beginsWithA.occursIn := .pattern (by decide) (by cbv)
  have hpaths : foundFiles bracketedScene (.standard "/r") beginsWithA.occursIn
      = ["/r/a[0].ts"] := by
    rw [foundFiles_bracketedScene]
    cbv
  have hverbatim : Display.IsVerbatim bracketedScene.screenWidth "/r/a[0].ts".toList :=
    (Display.wholeLines_shown_iff _ _).mp ⟨"/r/a[0].ts".toList, by cbv, by cbv⟩
  have hall : ∀ path ∈ foundFiles bracketedScene (.standard "/r") beginsWithA.occursIn,
      Display.IsVerbatim bracketedScene.screenWidth path.toList := by
    rw [hpaths, List.forall_mem_singleton]
    exact hverbatim
  have hroom : (countLine (foundFiles bracketedScene (.standard "/r")
      beginsWithA.occursIn).length).length ≤ bracketedScene.screenWidth := by
    rw [hpaths]
    decide
  obtain ⟨hcode, hlines⟩ := (prints_foundFiles_iff hasks hfinds).mpr ⟨hall, hroom⟩
  rw [hpaths] at hlines
  exact ⟨hasks, hfinds, hcode, hlines⟩

/-- A path that is printed otherwise: what is between brackets does not show if it begins with a
small letter. -/
theorem bracketed_name_vanishes :
    AsksForFiles bracketedScene ["files"] [] ⟨[], ["files"]⟩ ⟨[], []⟩ (.standard "/r") "" ∧
      foundFiles bracketedScene (.standard "/r") (fun _ => true)
        = ["/r/[id].ts", "/r/a[0].ts"] ∧
      (∀ path ∈ ["/r/[id].ts", "/r/a[0].ts"], ∀ c ∈ path.toList,
        32 ≤ c.toNat ∧ c.toNat < 127) ∧
      (run bracketedScene ["files"]).printed.lines
        = ["/r/.ts", "/r/a[0].ts", "i Found 2 files"] ∧
      (run bracketedScene ["files"]).printed.lines
        ≠ ["/r/[id].ts", "/r/a[0].ts"] ++ [countLine 2] := by
  have hasks : AsksForFiles bracketedScene ["files"] [] ⟨[], ["files"]⟩ ⟨[], []⟩
      (.standard "/r") "" := by
    refine ⟨by cbv, by decide, fun path h => ?_, fun path h => ?_, rfl, ?_, rfl, by decide, rfl,
      rfl, rfl⟩
    · cases h
    · cases h
    · exact load_bracketedScene (by cbv)
  have hpaths : foundFiles bracketedScene (.standard "/r") (fun _ => true)
      = ["/r/[id].ts", "/r/a[0].ts"] := by
    rw [foundFiles_bracketedScene]
    rfl
  have hid : Display.shown "/r/[id].ts" = .ok "/r/.ts".toList := by decide
  have hzero : Display.shown "/r/a[0].ts" = .ok "/r/a[0].ts".toList := by decide
  have hshown : ∀ path ∈ ["/r/[id].ts", "/r/a[0].ts"], ∃ s, Display.shown path = .ok s := by
    rw [List.forall_mem_cons, List.forall_mem_singleton]
    exact ⟨⟨_, hid⟩, ⟨_, hzero⟩⟩
  have hlines : (run bracketedScene ["files"]).printed.lines
      = ["/r/.ts", "/r/a[0].ts", "i Found 2 files"] := by
    have hfirst : pathLines 80 "/r/[id].ts" = ["/r/.ts"] := by decide
    have hsecond : pathLines 80 "/r/a[0].ts" = ["/r/a[0].ts"] := by decide
    have hcount : informLines 80 (countText 2) = ["i Found 2 files"] :=
      informLines_eq_singleton (by decide)
    rw [run, hasks.program_eq, runFileList_eq .all, hpaths, (list_prints _ hshown).outcome_eq]
    show pathLines 80 _ ++ (pathLines 80 _ ++ []) ++ informLines 80 (countText 2) = _
    rw [hfirst, hsecond, hcount]
    rfl
  refine ⟨hasks, hpaths, by simp, hlines, ?_⟩
  rw [hlines]
  decide

end SpokenIndex.Command
