/-
How long a listing is kept.

A listing is asked for, or a question is put that is decided on one, while the tree
changes, the clock goes on and what is kept is thrown away now and then.  What is kept is
always the listing of the last walk, with the reading of the clock at that walk, or
nothing if it was thrown away since.  That one fact is preserved by every step, and an
answer is then read off it: whether the last walk will do is decided by the clock alone.

The program takes the difference of two readings as numbers of 64 bits, so it is rounded.
A walk that was the lifetime ago or longer never counts as recent for that.  One that was
less than the lifetime ago counts as recent unless no number lies between the time that
passed and the lifetime (`Proofs/Rounding`).
-/
import SpokenIndex.Listing
import SpokenIndex.Proofs.Rounding
import SpokenIndex.Proofs.Walk

namespace SpokenIndex

/-! ### Requests -/

/-- What can be asked.  A search whose pattern cannot be read asks for nothing. -/
inductive ListingRequest where
  | list (useCache : Bool)
  | hasFile (name : String)
  | search (finds : String → Bool)

/-- What is answered. -/
inductive ListingAnswer where
  | paths (paths : List String)
  | isThere (found : Bool)
  deriving DecidableEq

namespace ListingRequest

variable {plan : ListingPlan} {disk : Disk} {now : Binary64} {cache : ListingCache}

/-- Whether a listing that was kept will do. -/
def mayUseCache : ListingRequest → Bool
  | .list useCache => useCache
  | .hasFile _ => true
  | .search _ => true

/-- The answer that a listing gives. -/
def answerFrom (listing : List String) : ListingRequest → ListingAnswer
  | .list _ => .paths listing
  | .hasFile name => .isThere (listing.any fun path => Path.baseName path == name)
  | .search finds => .paths (listing.filter fun path => finds (Path.baseName path))

/-- The answer to a request, and what is kept after it. -/
def ask (plan : ListingPlan) (disk : Disk) (now : Binary64) (cache : ListingCache) :
    ListingRequest → ListingAnswer × ListingCache
  | .list useCache =>
    let (paths, cache, _) := plan.list disk now useCache cache
    (.paths paths, cache)
  | .hasFile name =>
    let (found, cache, _) := plan.hasFile disk now name cache
    (.isThere found, cache)
  | .search finds =>
    let (paths, cache, _) := plan.search disk now finds cache
    (.paths paths, cache)

/-- Every request is decided on one listing. -/
theorem ask_eq (request : ListingRequest) :
    request.ask plan disk now cache
      = (request.answerFrom (plan.list disk now request.mayUseCache cache).1,
        (plan.list disk now request.mayUseCache cache).2.1) := by
  cases request <;> rfl

end ListingRequest

namespace ListingPlan

variable {plan : ListingPlan} {disk : Disk} {now : Binary64} {cache : ListingCache}
  {useCache : Bool}

/-- Whether a listing is made by a walk, and not the one that was kept. -/
def walks (plan : ListingPlan) (now : Binary64) (useCache : Bool) (cache : ListingCache) : Bool :=
  !(useCache && plan.isFresh now cache)

theorem list_of_walks (h : plan.walks now useCache cache = true) :
    plan.list disk now useCache cache
      = ((plan.allFiles disk).1, ⟨(plan.allFiles disk).1, now⟩, (plan.allFiles disk).2) := by
  rw [walks, Bool.not_eq_eq_eq_not, Bool.not_true] at h
  rw [list, if_neg (Bool.eq_false_iff.mp h)]

theorem list_of_not_walks (h : plan.walks now useCache cache = false) :
    plan.list disk now useCache cache = (cache.paths, cache, []) := by
  rw [walks, Bool.not_eq_eq_eq_not, Bool.not_false] at h
  rw [list, if_pos h]

/-- Whether a walk was made less than the lifetime ago, in the numbers of the clock. -/
def isRecent (plan : ListingPlan) (madeAt now : Binary64) : Bool :=
  numeralBelow (now.sub madeAt) plan.lifetime

theorem isFresh_iff :
    plan.isFresh now cache = true ↔
      .zero < cache.madeAt ∧ plan.isRecent cache.madeAt now = true := by
  rw [isFresh, Bool.and_eq_true, decide_eq_true_eq]
  exact Iff.rfl

theorem not_isFresh_none : plan.isFresh now .none = false := rfl

end ListingPlan

/-! ### Runs -/

/-- A walk: the disk that was walked, and the reading of the clock. -/
structure ListingWalk where
  disk : Disk
  madeAt : Binary64

/-- What can happen to the listing that is kept. -/
inductive ListingEvent where
  | walked (walk : ListingWalk)
  | cleared

/-- A moment of a run: the disk, the clock, what is kept, and what happened to it so far. -/
structure ListingRun where
  disk : Disk
  clock : Binary64
  cache : ListingCache
  log : List ListingEvent

/-- One step of a run.  The clock only goes forward. -/
inductive ListingStep where
  | change (disk : Disk)
  | wait (later : Binary64)
  | ask (request : ListingRequest)
  | clear

namespace ListingRun

variable {plan : ListingPlan} {s : ListingRun} {request : ListingRequest}

/-- The beginning, when nothing is kept. -/
def start (disk : Disk) (clock : Binary64) : ListingRun := ⟨disk, clock, .none, []⟩

/-- The walk that was made last, if nothing was cleared since. -/
def lastWalk (s : ListingRun) : Option ListingWalk :=
  match s.log.getLast? with
  | some (.walked walk) => some walk
  | some .cleared => none
  | none => none

/-- Whether a request leads to a walk. -/
def walks (plan : ListingPlan) (s : ListingRun) (request : ListingRequest) : Bool :=
  plan.walks s.clock request.mayUseCache s.cache

/-- The answer to a request. -/
def answer (plan : ListingPlan) (s : ListingRun) (request : ListingRequest) : ListingAnswer :=
  (request.ask plan s.disk s.clock s.cache).1

/-- The moment after a step. -/
def step (plan : ListingPlan) (s : ListingRun) : ListingStep → ListingRun
  | .change disk => { s with disk := disk }
  | .wait later => { s with clock := if s.clock ≤ later then later else s.clock }
  | .ask request =>
    { s with
      cache := (request.ask plan s.disk s.clock s.cache).2
      log := if s.walks plan request then s.log ++ [.walked ⟨s.disk, s.clock⟩] else s.log }
  | .clear => { s with cache := .none, log := s.log ++ [.cleared] }

/-- The moment after some steps. -/
def run (plan : ListingPlan) (s : ListingRun) (steps : List ListingStep) : ListingRun :=
  steps.foldl (step plan) s

theorem lastWalk_start (disk : Disk) (clock : Binary64) : (start disk clock).lastWalk = none := rfl

theorem lastWalk_clear : (s.step plan .clear).lastWalk = none := by
  simp [lastWalk, step]

theorem lastWalk_ask_of_walks (h : s.walks plan request = true) :
    (s.step plan (.ask request)).lastWalk = some ⟨s.disk, s.clock⟩ := by
  simp [lastWalk, step, h]

theorem lastWalk_ask_of_not_walks (h : s.walks plan request = false) :
    (s.step plan (.ask request)).lastWalk = s.lastWalk := by
  simp [lastWalk, step, h]

/-- What is kept at every moment of a run. -/
structure Keeps (plan : ListingPlan) (s : ListingRun) : Prop where
  /-- The listing of the last walk, and when it was made, which is not in the future. -/
  walked : ∀ walk, s.lastWalk = some walk →
    s.cache = ⟨(plan.allFiles walk.disk).1, walk.madeAt⟩ ∧ walk.madeAt ≤ s.clock
  /-- Nothing, if nothing was walked since the last clear. -/
  cleared : s.lastWalk = none → s.cache = .none

/-! ### What every step preserves -/

theorem keeps_start (plan : ListingPlan) (disk : Disk) (clock : Binary64) :
    (start disk clock).Keeps plan where
  walked walk hwalk := by simp [lastWalk_start] at hwalk
  cleared _ := rfl

theorem Keeps.ask (h : s.Keeps plan) (request : ListingRequest) :
    (s.step plan (.ask request)).Keeps plan := by
  cases hwalks : s.walks plan request with
  | true =>
      have hcache : (s.step plan (.ask request)).cache
          = ⟨(plan.allFiles s.disk).1, s.clock⟩ := by
        show (request.ask plan s.disk s.clock s.cache).2 = _
        rw [ListingRequest.ask_eq, ListingPlan.list_of_walks hwalks]
      have hlast := lastWalk_ask_of_walks hwalks
      refine ⟨fun walk hwalk => ?_, fun hnone => ?_⟩
      · obtain rfl := Option.some.inj (hlast.symm.trans hwalk)
        exact ⟨hcache, Binary64.le_refl s.clock⟩
      · rw [hlast] at hnone
        exact absurd hnone (by simp)
  | false =>
      have hcache : (s.step plan (.ask request)).cache = s.cache := by
        show (request.ask plan s.disk s.clock s.cache).2 = _
        rw [ListingRequest.ask_eq, ListingPlan.list_of_not_walks hwalks]
      have hlast := lastWalk_ask_of_not_walks hwalks
      refine ⟨fun walk hwalk => ?_, fun hnone => ?_⟩
      · rw [hcache]
        exact h.walked walk (hlast.symm.trans hwalk)
      · rw [hcache]
        exact h.cleared (hlast.symm.trans hnone)

theorem Keeps.step (h : s.Keeps plan) (step : ListingStep) : (s.step plan step).Keeps plan := by
  cases step with
  | change disk => exact ⟨h.walked, h.cleared⟩
  | wait later =>
      refine ⟨fun walk hwalk => ?_, h.cleared⟩
      obtain ⟨hcache, hbefore⟩ := h.walked walk hwalk
      refine ⟨hcache, ?_⟩
      show walk.madeAt ≤ if s.clock ≤ later then later else s.clock
      split
      · exact Binary64.le_trans hbefore ‹_›
      · exact hbefore
  | ask request => exact h.ask request
  | clear =>
      refine ⟨fun walk hwalk => ?_, fun _ => rfl⟩
      rw [lastWalk_clear] at hwalk
      exact absurd hwalk (by simp)

theorem Keeps.run (h : s.Keeps plan) (steps : List ListingStep) :
    (s.run plan steps).Keeps plan := by
  induction steps generalizing s with
  | nil => exact h
  | cons step rest ih => exact ih (h.step step)

/-! ### Answers -/

theorem answer_of_walks (h : s.walks plan request = true) :
    s.answer plan request = request.answerFrom (plan.allFiles s.disk).1 := by
  rw [answer, ListingRequest.ask_eq, ListingPlan.list_of_walks h]

/-- A request leads to no walk exactly if the last one will do. -/
theorem Keeps.walks_eq_false_iff (h : s.Keeps plan) (request : ListingRequest) :
    s.walks plan request = false ↔ request.mayUseCache = true ∧
      ∃ walk, s.lastWalk = some walk ∧ .zero < walk.madeAt ∧
        plan.isRecent walk.madeAt s.clock = true := by
  rw [walks, ListingPlan.walks, Bool.not_eq_eq_eq_not, Bool.not_false, Bool.and_eq_true]
  refine and_congr_right fun _ => ?_
  cases hlast : s.lastWalk with
  | none => simp [h.cleared hlast, ListingPlan.not_isFresh_none]
  | some walk =>
      rw [(h.walked walk hlast).1, ListingPlan.isFresh_iff]
      simp

/-- Where nothing was walked since the last clear, a request leads to a walk. -/
theorem Keeps.answer_of_lastWalk_eq_none (h : s.Keeps plan) (hnone : s.lastWalk = none)
    (request : ListingRequest) :
    s.answer plan request = request.answerFrom (plan.allFiles s.disk).1 := by
  refine answer_of_walks ?_
  by_contra hwalks
  obtain ⟨-, walk, hlast, -⟩ := (h.walks_eq_false_iff request).mp (Bool.eq_false_iff.mpr hwalks)
  rw [hnone] at hlast
  exact absurd hlast (by simp)

theorem Keeps.answer_of_not_walks (h : s.Keeps plan) {walk : ListingWalk}
    (hlast : s.lastWalk = some walk) (hwalks : s.walks plan request = false) :
    s.answer plan request = request.answerFrom (plan.allFiles walk.disk).1 := by
  rw [answer, ListingRequest.ask_eq, ListingPlan.list_of_not_walks hwalks, (h.walked walk hlast).1]

end ListingRun

/-- **Which tree an answer is about.**  After any steps from any clock, a request is answered from
the current tree or from the tree of the last walk, and from the latter only if the request allows
it, nothing was cleared since that walk, and less than the lifetime has passed.  It is answered
from the current tree if the request does not allow for less, if the lifetime is zero, if nothing
was walked since the last clear, and so right after a clear.  It is answered from the tree of the
last walk, whatever has happened to the disk, if the request allows it and that walk was made at a
positive time less than the lifetime ago, in the numbers of the clock or by some number below the
lifetime. -/
theorem listing_freshness (plan : ListingPlan) (disk : Disk) (clock : Binary64)
    (steps : List ListingStep) (request : ListingRequest) :
    let s := (ListingRun.start disk clock).run plan steps
    let answer := s.answer plan request
    let current := request.answerFrom (plan.allFiles s.disk).1
    let elapsed := fun walk : ListingWalk => s.clock.signedUnits - walk.madeAt.signedUnits
    (answer = current ∨ request.mayUseCache = true ∧ ∃ walk, s.lastWalk = some walk ∧
      answer = request.answerFrom (plan.allFiles walk.disk).1 ∧
        plan.isRecent walk.madeAt s.clock = true ∧
          elapsed walk < plan.lifetime.signedUnits) ∧
    (request.mayUseCache = false ∨ plan.lifetime ≤ .zero ∨ s.lastWalk = none → answer = current) ∧
    (s.step plan .clear).answer plan request = current ∧
    ∀ walk, s.lastWalk = some walk → request.mayUseCache = true → .zero < walk.madeAt →
      (plan.isRecent walk.madeAt s.clock = true ∨
        ∃ x : Binary64, x < plan.lifetime ∧ elapsed walk ≤ x.signedUnits) →
      answer = request.answerFrom (plan.allFiles walk.disk).1 := by
  intro s answer current elapsed
  have hkeeps : s.Keeps plan := (ListingRun.keeps_start plan disk clock).run steps
  have hwalks_iff := hkeeps.walks_eq_false_iff request
  have hkept : s.walks plan request = false → request.mayUseCache = true ∧
      ∃ walk, s.lastWalk = some walk ∧ answer = request.answerFrom (plan.allFiles walk.disk).1 ∧
        plan.isRecent walk.madeAt s.clock = true ∧
          0 ≤ elapsed walk ∧ elapsed walk < plan.lifetime.signedUnits := by
    intro hno
    obtain ⟨hmay, walk, hlast, -, hrecent⟩ := hwalks_iff.mp hno
    obtain ⟨-, hbefore⟩ := hkeeps.walked walk hlast
    exact ⟨hmay, walk, hlast, hkeeps.answer_of_not_walks hlast hno, hrecent,
      Int.sub_nonneg.mpr hbefore, Binary64.sub_lt_of_numeralBelow hbefore hrecent⟩
  refine ⟨?_, ?_, ?_, ?_⟩
  · cases hwalks : s.walks plan request with
    | true => exact Or.inl (ListingRun.answer_of_walks hwalks)
    | false =>
        obtain ⟨hmay, walk, hlast, hanswer, hrecent, -, hless⟩ := hkept hwalks
        exact Or.inr ⟨hmay, walk, hlast, hanswer, hrecent, hless⟩
  · rintro (hnever | hzero | hnone)
    · refine ListingRun.answer_of_walks ?_
      rw [ListingRun.walks, ListingPlan.walks, hnever]
      rfl
    · refine ListingRun.answer_of_walks ?_
      by_contra hwalks
      obtain ⟨-, walk, -, -, -, hnonneg, hless⟩ := hkept (Bool.eq_false_iff.mpr hwalks)
      -- no time is less than none
      have hlifetime : plan.lifetime.signedUnits ≤ 0 := hzero
      omega
    · exact hkeeps.answer_of_lastWalk_eq_none hnone request
  · exact (hkeeps.step .clear).answer_of_lastWalk_eq_none ListingRun.lastWalk_clear request
  · intro walk hlast hmay hpositive hpassed
    have hrecent : plan.isRecent walk.madeAt s.clock = true := by
      rcases hpassed with hrecent | ⟨x, hx, hle⟩
      · exact hrecent
      · exact Binary64.numeralBelow_of_sub_le (hkeeps.walked walk hlast).2 hx hle
    exact hkeeps.answer_of_not_walks hlast (hwalks_iff.mpr ⟨hmay, walk, hlast, hpositive, hrecent⟩)

namespace ListingRun

/-- A disk with files in a folder `r`. -/
def folderOf (names : List String) : Disk where
  top := .folder [("r", .folder (names.map fun name => (name, .file .empty)))]

/-- The listing of this folder, kept for as long as the settings have it by default. -/
def folderPlan : ListingPlan := ⟨["/r"], ListingSettings.standard.cacheSeconds, []⟩

/-- The reading of the clock when the folder is listed: 12.7 seconds. -/
def listedAt : Binary64 := decimalSetting 127 (-1)

/-- The folder is listed, a file is added, and time passes. -/
def fileAdded (later : Binary64) : List ListingStep :=
  [.ask (.list true), .change (folderOf ["a.ts", "b.ts"]), .wait later]

theorem run_fileAdded (plan : ListingPlan) (disk : Disk) {clock later : Binary64}
    (h : clock ≤ later) :
    let s := (start disk clock).run plan (fileAdded later)
    s.lastWalk = some ⟨disk, clock⟩ ∧ s.clock = later ∧ s.disk = folderOf ["a.ts", "b.ts"] := by
  have hwalks : (start disk clock).walks plan (.list true) = true := by
    rw [walks, ListingPlan.walks]
    exact congrArg (fun fresh => !(true && fresh)) ListingPlan.not_isFresh_none
  exact ⟨lastWalk_ask_of_walks hwalks, if_pos h, rfl⟩

theorem allFiles_folderOf :
    (folderPlan.allFiles (folderOf ["a.ts"])).1 = ["/r/a.ts"] ∧
      (folderPlan.allFiles (folderOf ["a.ts", "b.ts"])).1 = ["/r/a.ts", "/r/b.ts"] := by
  have hlisted : ∀ names, (folderOf names).locate true "/r" = .ok ["r"] →
      (folderPlan.allFiles (folderOf names)).1 = (folderOf names).walkNode (folderPlan.walker "/r")
        (.folder (names.map fun name => (name, .file .empty))) "/r" ["r"] := by
    intro names hplace
    show ([] : List String) ++ (folderPlan.filesBeneath (folderOf names) "/r").1 = _
    rw [ListingPlan.filesBeneath, Disk.walk_eq _ hplace rfl, if_pos (by rfl), List.nil_append]
  exact ⟨(hlisted _ (by cbv)).trans (by decide),
    (hlisted _ (by cbv)).trans (by decide)⟩

end ListingRun

open ListingRun

/-- After 299 seconds the old listing is returned, and after a clear the new one. -/
theorem listing_freshness_fileAdded :
    let s := (start (folderOf ["a.ts"]) listedAt).run folderPlan
      (fileAdded (decimalSetting 3117 (-1)))
    s.answer folderPlan (.list true) = .paths ["/r/a.ts"] ∧
      (s.step folderPlan .clear).answer folderPlan (.list true)
        = .paths ["/r/a.ts", "/r/b.ts"] := by
  intro s
  obtain ⟨hlast, hclock, hdisk⟩ := run_fileAdded folderPlan (folderOf ["a.ts"])
    (by decide +kernel : listedAt ≤ decimalSetting 3117 (-1))
  have hpositive : Binary64.zero < listedAt := by decide +kernel
  have hrecent : folderPlan.isRecent listedAt (decimalSetting 3117 (-1)) = true := by decide +kernel
  obtain ⟨hold, hnew⟩ := allFiles_folderOf
  obtain ⟨-, -, hclear, hkept⟩ := listing_freshness folderPlan (folderOf ["a.ts"]) listedAt
    (fileAdded (decimalSetting 3117 (-1))) (.list true)
  rw [hclock] at hkept
  rw [hdisk] at hclear
  have hanswer := hkept _ hlast rfl
  dsimp only at hanswer
  exact ⟨(hanswer hpositive (Or.inl hrecent)).trans (congrArg ListingAnswer.paths hold),
    hclear.trans (congrArg ListingAnswer.paths hnew)⟩

/-- Between readings of 12.7 and 312.7 less than 300 seconds pass, as numbers of 64 bits these are.
But their difference is rounded to 300, and the folder is walked anew. -/
theorem elapsed_rounded_up :
    let s := (start (folderOf ["a.ts"]) listedAt).run folderPlan
      (fileAdded (decimalSetting 3127 (-1)))
    ∃ walk, s.lastWalk = some walk ∧ .zero < walk.madeAt ∧
      s.clock.signedUnits - walk.madeAt.signedUnits < folderPlan.lifetime.signedUnits ∧
      s.answer folderPlan (.list true)
        ≠ (ListingRequest.list true).answerFrom (folderPlan.allFiles walk.disk).1 := by
  intro s
  obtain ⟨hlast, hclock, hdisk⟩ := run_fileAdded folderPlan (folderOf ["a.ts"])
    (by decide +kernel : listedAt ≤ decimalSetting 3127 (-1))
  obtain ⟨hold, hnew⟩ := allFiles_folderOf
  have hkeeps : s.Keeps folderPlan := (keeps_start folderPlan _ listedAt).run _
  have hwalks : s.walks folderPlan (.list true) = true := by
    by_contra hno
    obtain ⟨-, walk, hwalk, -, hrecent⟩ :=
      (hkeeps.walks_eq_false_iff (.list true)).mp (Bool.eq_false_iff.mpr hno)
    obtain rfl := Option.some.inj (hlast.symm.trans hwalk)
    rw [hclock] at hrecent
    exact absurd hrecent (by decide +kernel)
  refine ⟨_, hlast, by decide +kernel, by rw [hclock]; decide +kernel, ?_⟩
  rw [answer_of_walks hwalks, hdisk]
  intro heq
  have hsame := hnew.symm.trans ((ListingAnswer.paths.inj heq).trans hold)
  simp at hsame

end SpokenIndex
