/-
What an index does with observers.

An observer is scheduled and started, and later stopped and joined; the journal says so
in order.  What may happen between two moments depends on what is watched at each of
them (`WatchRun`): a root begins to be watched only when none is, and is watched until
its observer is stopped.  An observer that was scheduled may refuse to start; nothing
takes that back, and nothing is watched then.  From a moment at which nothing is watched,
the log is so a sequence of complete blocks, with a lone `schedule` for each start that
was refused, and at most one block that is still open (`watchLog`).

Only two things that an index does concern observers, an initialization and a release.  Work
on files does not, whatever becomes of it.
-/
import Mathlib
import SpokenIndex.Proofs.Initialization

namespace SpokenIndex

/-- What was done with observers, first to last. -/
abbrev WatchLog := List (WatchAction × String)

/-! ### Logs -/

/-- What can be done with observers between two moments, given which root is watched at each.  A
start may be refused only if `refuses` holds. -/
inductive WatchRun (refuses : Prop) (before : Option String) : Option String → WatchLog → Prop where
  | still : WatchRun refuses before before []
  | opened {root : String} {log : WatchLog} (h : WatchRun refuses before none log) :
    WatchRun refuses before (some root) (log ++ (watchEntries root).watches)
  | refused {root : String} {log : WatchLog} (h : WatchRun refuses before none log)
    (hrefuses : refuses) : WatchRun refuses before none (log ++ [(.schedule, root)])
  | closed {root : String} {log : WatchLog} (h : WatchRun refuses before (some root) log) :
    WatchRun refuses before none (log ++ (unwatchEntries root).watches)

/-- A root that was to be watched: it was, until its observer was stopped, or its observer refused
to start. -/
inductive PastWatch where
  | ended (root : String)
  | refused (root : String)

/-- What was done with the observer of such a root. -/
def PastWatch.log : PastWatch → WatchLog
  | ended root => (watchEntries root).watches ++ (unwatchEntries root).watches
  | refused root => [(.schedule, root)]

/-- The log of roots that were to be watched one after another, the last of them watched until now
if there is one that is `current`. -/
def watchLog (past : List PastWatch) (current : Option String) : WatchLog :=
  past.flatMap PastWatch.log ++ current.toList.flatMap fun root => (watchEntries root).watches

namespace WatchRun

variable {refuses : Prop} {before between after : Option String} {log more : WatchLog}
  {root : String}

theorem trans (h : WatchRun refuses before between log) (h' : WatchRun refuses between after more) :
    WatchRun refuses before after (log ++ more) := by
  induction h' with
  | still => rwa [List.append_nil]
  | opened _ ih =>
      rw [← List.append_assoc]
      exact ih.opened
  | refused _ hrefuses ih =>
      rw [← List.append_assoc]
      exact ih.refused hrefuses
  | closed _ ih =>
      rw [← List.append_assoc]
      exact ih.closed

theorem mono {refuses' : Prop} (hmore : refuses → refuses')
    (h : WatchRun refuses before after log) : WatchRun refuses' before after log := by
  induction h with
  | still => exact .still
  | opened _ ih => exact ih.opened
  | refused _ hrefuses ih => exact ih.refused (hmore hrefuses)
  | closed _ ih => exact ih.closed

theorem opening (root : String) : WatchRun refuses none (some root) (watchEntries root).watches :=
  still.opened

theorem closing (root : String) : WatchRun refuses (some root) none (unwatchEntries root).watches :=
  still.closed

/-- From a moment at which nothing is watched, the log is one of roots watched one after another,
and a start was refused only if there was reason to. -/
theorem exists_watchLog (h : WatchRun refuses none after log) :
    ∃ past, log = watchLog past after ∧ ((∃ root, .refused root ∈ past) → refuses) := by
  induction h with
  | still => exact ⟨[], rfl, by simp⟩
  | opened _ ih =>
      obtain ⟨past, rfl, hpast⟩ := ih
      exact ⟨past, by simp [watchLog], hpast⟩
  | @refused root _ _ hrefuses ih =>
      obtain ⟨past, rfl, -⟩ := ih
      exact ⟨past ++ [.refused root], by simp [watchLog, PastWatch.log], fun _ => hrefuses⟩
  | @closed root _ _ ih =>
      obtain ⟨past, rfl, hpast⟩ := ih
      refine ⟨past ++ [.ended root], by simp [watchLog, PastWatch.log], fun hgiven => ?_⟩
      obtain ⟨other, hother⟩ := hgiven
      exact hpast ⟨other, by simpa using hother⟩

end WatchRun

/-! ### Journals -/

@[simp] theorem Journal.watches_nil : Journal.watches [] = [] := rfl

@[simp] theorem Journal.watches_append (a b : Journal) :
    Journal.watches (a ++ b) = a.watches ++ b.watches := by
  simp [Journal.watches]

@[simp] theorem Journal.watches_notice (n : Notice) (j : Journal) :
    Journal.watches (.notice n :: j) = j.watches := rfl

@[simp] theorem Journal.watches_map_notice (ns : List Notice) :
    Journal.watches (ns.map .notice) = [] := by
  induction ns with
  | nil => rfl
  | cons n rest ih => exact ih

/-- An observer that was scheduled would refuse to start. -/
def Surroundings.StartRefused (world : Surroundings) : Prop :=
  ∃ reason, world.startRefusal = some reason

namespace IndexPlan

variable {plan : IndexPlan} {world : Surroundings} {disk : Disk} {m : Mappings} {s : IndexState}
  {path : String} {refuses : Prop}

/-! ### Work on files -/

@[simp] theorem watches_scan (plan : IndexPlan) (disk : Disk) (path : String) :
    (plan.scan disk path).2.watches = [] := by
  unfold scan
  split
  · rfl
  · simp only
    split <;> rfl

@[simp] theorem watches_scanIfSource (plan : IndexPlan) (disk : Disk) (path : String) :
    (plan.scanIfSource disk path).2.watches = [] := by
  unfold scanIfSource
  split
  · exact watches_scan plan disk path
  · rfl

theorem watches_addListed (plan : IndexPlan) (disk : Disk) (path : String) (m : Mappings) :
    (plan.addListed disk path m).2.watches = [] := by
  unfold addListed
  split
  · exact watches_scanIfSource plan disk path
  · rfl

theorem watches_addBulk (plan : IndexPlan) (disk : Disk) (paths : List String) (m : Mappings) :
    (plan.addBulk disk paths m).2.watches = [] := by
  unfold addBulk
  refine List.foldlRecOn (motive := fun r : Mappings × Journal => r.2.watches = []) paths _ rfl ?_
  intro r hr path _
  simp only [Journal.watches_append, hr, watches_addListed, List.append_nil]

@[simp] theorem watches_listReports (plan : IndexPlan) (world : Surroundings) :
    (plan.listReports world).watches = [] := by
  unfold listReports
  split
  · rfl
  · exact Journal.watches_map_notice _

@[simp] theorem watches_bulkReports (plan : IndexPlan) (world : Surroundings)
    (bulk : Option (List String)) : (plan.bulkReports world bulk).watches = [] := by
  cases bulk with
  | none => exact watches_listReports plan world
  | some paths => rfl

theorem watches_handleCall (plan : IndexPlan) (world : Surroundings) (c : Call) (s : IndexState) :
    (plan.handleCall world c s).2.watches = [] := by
  obtain ⟨kind, path⟩ := c
  cases kind with
  | create =>
      rw [handleCall_create]
      simp only [handleCreate, addCreated]
      split
      · exact watches_scanIfSource plan world.disk _
      · rfl
  | delete =>
      rw [handleCall_delete]
      simp only [handleDelete, rebuildFolders]
      split
      · exact watches_listReports plan world
      · rfl
  | change =>
      rw [handleCall_change]
      simp only [handleChange]
      split
      · exact watches_scan plan world.disk _
      · rfl

/-- A call changes neither whether the index is initialized nor whether it is subscribed. -/
theorem handleCall_flags (plan : IndexPlan) (world : Surroundings) (c : Call) (s : IndexState) :
    (plan.handleCall world c s).1.initialized = s.initialized ∧
      (plan.handleCall world c s).1.subscribed = s.subscribed := by
  obtain ⟨kind, path⟩ := c
  cases kind with
  | create => exact ⟨rfl, rfl⟩
  | delete => exact ⟨rfl, rfl⟩
  | change =>
      rw [handleCall_change]
      simp only [handleChange]
      split <;> exact ⟨rfl, rfl⟩

/-- The same holds of a call whose path may have no canonical form, and observers are left alone. -/
theorem answerCall_flags (plan : IndexPlan) (world : Surroundings) (c : Call) (s : IndexState) :
    (plan.answerCall world c s).2.1.initialized = s.initialized ∧
      (plan.answerCall world c s).2.1.subscribed = s.subscribed ∧
      (plan.answerCall world c s).2.2.watches = [] := by
  rcases answerCall_cases plan world c s with
    ⟨-, heq⟩ | ⟨reason, -, ⟨-, heq⟩ | ⟨-, heq⟩⟩ <;> rw [heq]
  · obtain ⟨hinitialized, hsubscribed⟩ := handleCall_flags plan world c s
    exact ⟨hinitialized, hsubscribed, watches_handleCall plan world c s⟩
  · exact ⟨rfl, rfl, rfl⟩
  · exact ⟨rfl, rfl, rfl⟩

/-- What a change of the tree leads to keeps the flags as well, and leaves observers alone. -/
theorem handleDelivery_flags (plan : IndexPlan) (world : Surroundings) (s : IndexState)
    (d : Delivery) :
    (plan.handleDelivery world s d).1.initialized = s.initialized ∧
      (plan.handleDelivery world s d).1.subscribed = s.subscribed ∧
      (plan.handleDelivery world s d).2.watches = [] := by
  cases d with
  | call c =>
      have hflags := answerCall_flags plan world c s
      rw [handleDelivery]
      generalize plan.answerCall world c s = result at hflags
      obtain ⟨answer, after, journal⟩ := result
      obtain ⟨hinitialized, hsubscribed, hwatches⟩ := hflags
      cases answer with
      | ok => exact ⟨hinitialized, hsubscribed, hwatches⟩
      | error reason =>
          refine ⟨hinitialized, hsubscribed, ?_⟩
          rw [Journal.watches_append, hwatches]
          rfl
  | notice n => exact ⟨rfl, rfl, rfl⟩

/-- So does a change of the tree. -/
theorem observe_flags (plan : IndexPlan) (world : Surroundings) (event : TreeEvent)
    (s : IndexState) :
    (plan.observe world event s).1.initialized = s.initialized ∧
      (plan.observe world event s).1.subscribed = s.subscribed ∧
      (plan.observe world event s).2.watches = [] := by
  unfold observe
  split
  · unfold handleDeliveries
    refine List.foldlRecOn (motive := fun r : IndexState × Journal =>
      r.1.initialized = s.initialized ∧ r.1.subscribed = s.subscribed ∧ r.2.watches = [])
      _ _ ⟨rfl, rfl, rfl⟩ ?_
    intro r hr d _
    obtain ⟨hinitialized, hsubscribed, hwatches⟩ := hr
    obtain ⟨hkept, hkept', hmore⟩ := handleDelivery_flags plan world r.1 d
    refine ⟨hkept.trans hinitialized, hkept'.trans hsubscribed, ?_⟩
    simp only [Journal.watches_append, hwatches, hmore, List.append_nil]
  · exact ⟨rfl, rfl, rfl⟩

/-! ### What is watched -/

/-- The root that an index watches, if it is subscribed. -/
def watched (plan : IndexPlan) (s : IndexState) : Option String :=
  if s.subscribed then some plan.watchRoot else none

theorem watched_congr {s' : IndexState} (h : s'.subscribed = s.subscribed) :
    plan.watched s' = plan.watched s := by
  rw [watched, watched, h]

theorem dispose_watchRun (plan : IndexPlan) (s : IndexState) :
    WatchRun refuses (plan.watched s) none (plan.dispose s).2.watches := by
  unfold watched dispose
  by_cases hsubscribed : s.subscribed = true
  · simp only [hsubscribed, ↓reduceIte]
    exact .closing plan.watchRoot
  · simp only [hsubscribed, Bool.false_eq_true, ↓reduceIte]
    exact .still

/-- An attempt to watch that fails leaves nothing watched, and an observer that was scheduled if
that one refused to start. -/
theorem WatchFails.watchRun {reason : String} {tried : Journal}
    (h : plan.WatchFails world reason tried) (hnot : s.subscribed = false) :
    WatchRun world.StartRefused (plan.watched s) (plan.watched s) tried.watches := by
  rw [watched, if_neg (by simp [hnot])]
  rcases h with ⟨-, rfl⟩ | ⟨-, hstart, rfl⟩
  · exact .still
  · exact .refused .still ⟨reason, hstart⟩

/-- An index that gives up watches nothing any more. -/
theorem abandon_watchRun (plan : IndexPlan) (reason : String) (s : IndexState)
    {before : Option String} {journal : Journal}
    (h : WatchRun refuses before (plan.watched s) journal.watches) :
    WatchRun refuses before none (plan.abandon reason s journal).2.2.watches := by
  have hjournal : (plan.abandon reason s journal).2.2.watches
      = journal.watches ++ (plan.dispose s).2.watches := by
    simp only [abandon, Journal.watches_append, Journal.watches_notice]
  rw [hjournal]
  exact h.trans (dispose_watchRun plan s)

theorem populate_watchRun (plan : IndexPlan) (world : Surroundings) (bulk : Option (List String))
    (s : IndexState) :
    WatchRun world.StartRefused (plan.watched s) (plan.watched (plan.populate world bulk s).2.1)
      (plan.populate world bulk s).2.2.watches := by
  -- An initialization may find the subscription of an earlier one.
  have hsubscribing : WatchRun world.StartRefused (plan.watched s) (some plan.watchRoot)
      (Journal.watches (if s.subscribed then [] else watchEntries plan.watchRoot)) := by
    unfold watched
    by_cases hsubscribed : s.subscribed = true
    · simp only [hsubscribed, ↓reduceIte]
      exact .still
    · simp only [hsubscribed, Bool.false_eq_true, ↓reduceIte]
      exact .opening plan.watchRoot
  rcases populate_cases plan world bulk s with
    ⟨-, heq⟩ | ⟨-, hnot, reason, tried, hfails, heq⟩ |
      ⟨-, -, ⟨reason, -, heq⟩ | ⟨paths, -, heq⟩⟩
  · rw [heq]
    exact .still
  · rw [heq]
    exact abandon_watchRun plan reason s (hfails.watchRun hnot)
  · rw [heq]
    exact abandon_watchRun plan reason _ hsubscribing
  · rw [heq]
    simp only [Journal.watches_append, watches_addBulk, watches_bulkReports, List.append_nil]
    exact hsubscribing

/-- A bulk that is not taken to its end concerns observers no more than another. -/
theorem establish_watchRun (plan : IndexPlan) (world : Surroundings) (bulk : Option (List String))
    (s : IndexState) :
    WatchRun world.StartRefused (plan.watched s) (plan.watched (plan.establish world bulk s).2.1)
      (plan.establish world bulk s).2.2.watches := by
  rcases establish_cases plan world bulk s with
    ⟨-, heq⟩ | ⟨-, paths, before, reason, -, -, -, ⟨message, after, hpopulate, heq⟩ |
      ⟨after, journal, hpopulate, heq⟩⟩
  · rw [heq]
    exact populate_watchRun plan world bulk s
  all_goals
    have hrun := populate_watchRun plan world (some before) s
    rw [hpopulate] at hrun
    rw [heq]
    exact hrun

end IndexPlan

end SpokenIndex
