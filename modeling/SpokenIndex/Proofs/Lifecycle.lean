/-
The life of an index: one subscription at a time, and none that is lost.

An index subscribes when it is initialized and stays subscribed through a reset, so an
initialization may or may not find a subscription, and it may fail with or without one.
What holds at every moment is that all earlier subscriptions were disposed, each once,
and that one more is live exactly if the index is subscribed.  The argument is the shape
of the log (`Proofs/Observers`): a subscription is made only when none is live, and only
the live one is ever disposed.  An observer that refuses to start makes none.

An initialization that fails leaves an index that is as good as new.  A call can fail in
one way only: the path of a deletion or a change is relative, and there is no working
directory to make it absolute with.
-/
import SpokenIndex.Proofs.History
import SpokenIndex.Proofs.Observers
import SpokenIndex.Proofs.Watched

namespace SpokenIndex

/-! ### How often each subscription was disposed -/

/-- Takes one more action into account: a started observer is a new subscription, and a stop
disposes the newest. -/
def countDisposal (times : List Nat) (entry : WatchAction × String) : List Nat :=
  match entry.1 with
  | .schedule => times
  | .start => times ++ [0]
  | .stop => times.modifyLast (· + 1)
  | .join => times

/-- How often each subscription was disposed, in the order in which they were made. -/
def disposals (log : WatchLog) : List Nat :=
  log.foldl countDisposal []

/-- All subscriptions were disposed once, or all but the newest, which was not disposed. -/
def InTurn (times : List Nat) : Prop :=
  ∃ n, times = List.replicate n 1 ∨ times = List.replicate n 1 ++ [0]

theorem disposals_concat (log : WatchLog) (entry : WatchAction × String) :
    disposals (log ++ [entry]) = countDisposal (disposals log) entry := by
  rw [disposals, List.foldl_append]
  rfl

theorem InTurn.count_zero_le {times : List Nat} (h : InTurn times) : times.count 0 ≤ 1 := by
  obtain ⟨n, rfl | rfl⟩ := h
  · simp [List.count_replicate]
  · simp [List.count_append, List.count_replicate]

theorem InTurn.le_one {times : List Nat} (h : InTurn times) : ∀ t ∈ times, t ≤ 1 := by
  obtain ⟨n, rfl | rfl⟩ := h
  · intro t ht
    exact (List.eq_of_mem_replicate ht).le
  · intro t ht
    rcases List.mem_append.mp ht with ht | ht
    · exact (List.eq_of_mem_replicate ht).le
    · rw [List.mem_singleton.mp ht]
      exact Nat.zero_le 1

/-- Subscriptions stay in turn over two more actions if they do after each of them. -/
theorem inTurn_concat_concat {log : WatchLog} {a b : WatchAction × String}
    (hlog : ∀ earlier, earlier <+: log → InTurn (disposals earlier))
    (ha : InTurn (disposals (log ++ [a]))) (hb : InTurn (disposals (log ++ [a] ++ [b]))) :
    ∀ earlier, earlier <+: log ++ [a] ++ [b] → InTurn (disposals earlier) := by
  intro earlier hearlier
  rcases List.prefix_concat_iff.mp hearlier with rfl | hearlier
  · exact hb
  · rcases List.prefix_concat_iff.mp hearlier with rfl | hearlier
    · exact ha
    · exact hlog earlier hearlier

/-- The subscriptions that a log tells of, at its end and at every moment before. -/
theorem WatchRun.inTurn {refuses : Prop} {after : Option String} {log : WatchLog}
    (h : WatchRun refuses none after log) :
    (∃ n, disposals log = List.replicate n 1 ++ after.toList.map fun _ => 0) ∧
      ∀ earlier, earlier <+: log → InTurn (disposals earlier) := by
  induction h with
  | still =>
      refine ⟨⟨0, rfl⟩, fun earlier hearlier => ?_⟩
      rw [List.prefix_nil.mp hearlier]
      exact ⟨0, Or.inl rfl⟩
  -- Between the two actions of a block the counts are those of before or of after it.
  | @opened root log _ ih =>
      obtain ⟨⟨n, hn⟩, hlog⟩ := ih
      have hscheduled : disposals (log ++ [(.schedule, root)]) = List.replicate n 1 := by
        rw [disposals_concat, hn]
        exact List.append_nil _
      have hstarted : disposals (log ++ [(.schedule, root)] ++ [(.start, root)])
          = List.replicate n 1 ++ [0] := by
        rw [disposals_concat, hscheduled]
        rfl
      rw [show log ++ (watchEntries root).watches
        = log ++ [(.schedule, root)] ++ [(.start, root)] by rw [List.append_assoc]; rfl]
      exact ⟨⟨n, hstarted⟩, inTurn_concat_concat hlog ⟨n, Or.inl hscheduled⟩ ⟨n, Or.inr hstarted⟩⟩
  | @refused root log _ _ ih =>
      obtain ⟨⟨n, hn⟩, hlog⟩ := ih
      have hscheduled : disposals (log ++ [(.schedule, root)]) = List.replicate n 1 := by
        rw [disposals_concat, hn]
        exact List.append_nil _
      refine ⟨⟨n, hscheduled.trans (List.append_nil _).symm⟩, fun earlier hearlier => ?_⟩
      rcases List.prefix_concat_iff.mp hearlier with rfl | hearlier
      · exact ⟨n, Or.inl hscheduled⟩
      · exact hlog earlier hearlier
  | @closed root log _ ih =>
      obtain ⟨⟨n, hn⟩, hlog⟩ := ih
      have hstopped : disposals (log ++ [(.stop, root)]) = List.replicate (n + 1) 1 := by
        rw [disposals_concat, hn, List.replicate_succ']
        exact List.modifyLast_concat _ _ _
      have hjoined : disposals (log ++ [(.stop, root)] ++ [(.join, root)])
          = List.replicate (n + 1) 1 := by
        rw [disposals_concat, hstopped]
        rfl
      rw [show log ++ (unwatchEntries root).watches
        = log ++ [(.stop, root)] ++ [(.join, root)] by rw [List.append_assoc]; rfl]
      refine ⟨⟨n + 1, ?_⟩, inTurn_concat_concat hlog ⟨_, Or.inl hstopped⟩ ⟨_, Or.inl hjoined⟩⟩
      rw [hjoined]
      exact (List.append_nil _).symm

namespace IndexPlan

variable {plan : IndexPlan} {world : Surroundings} {s : IndexState} {op : Operation}

/-! ### What a run reports -/

/-- What an operation reports. -/
def journalOf (plan : IndexPlan) (s : IndexState) : Operation → Journal
  | .populate world bulk => (plan.establish world bulk s).2.2
  | .call world c => (plan.answerCall world c s).2.2
  | .reset => []
  | .dispose => (plan.dispose s).2

/-- What operations report, first to last. -/
def journalOfAll (plan : IndexPlan) (s : IndexState) : List Operation → Journal
  | [] => []
  | op :: rest => plan.journalOf s op ++ plan.journalOfAll (plan.perform s op) rest

theorem perform_watchRun (plan : IndexPlan) (s : IndexState) (op : Operation) :
    WatchRun True (plan.watched s) (plan.watched (plan.perform s op))
      (plan.journalOf s op).watches := by
  cases op with
  | populate world bulk => exact (establish_watchRun plan world bulk s).mono fun _ => trivial
  | call world c =>
      obtain ⟨-, hsubscribed, hwatches⟩ := answerCall_flags plan world c s
      rw [journalOf, hwatches, perform, watched_congr hsubscribed]
      exact .still
  | reset => exact .still
  | dispose => exact dispose_watchRun plan s

theorem performAll_watchRun (plan : IndexPlan) (s : IndexState) (ops : List Operation) :
    WatchRun True (plan.watched s) (plan.watched (plan.performAll s ops))
      (plan.journalOfAll s ops).watches := by
  induction ops generalizing s with
  | nil => exact .still
  | cons op rest ih =>
      rw [journalOfAll, Journal.watches_append]
      exact (perform_watchRun plan s op).trans (ih (plan.perform s op))

/-! ### Initialized means subscribed -/

theorem subscribed_populate (plan : IndexPlan) (world : Surroundings) (bulk : Option (List String))
    (h : s.initialized = true → s.subscribed = true) :
    (plan.populate world bulk s).2.1.initialized = true →
      (plan.populate world bulk s).2.1.subscribed = true := by
  rcases populate_cases plan world bulk s with
    ⟨-, heq⟩ | ⟨-, -, reason, tried, -, heq⟩ | ⟨-, -, ⟨reason, -, heq⟩ | ⟨paths, -, heq⟩⟩
  · rw [heq]
    exact h
  · rw [heq]
    exact fun hinitialized => Bool.noConfusion hinitialized
  · rw [heq]
    exact fun hinitialized => Bool.noConfusion hinitialized
  · rw [heq]
    exact fun _ => rfl

theorem subscribed_perform (h : s.initialized = true → s.subscribed = true) :
    (plan.perform s op).initialized = true → (plan.perform s op).subscribed = true := by
  cases op with
  | populate world bulk =>
      rw [perform]
      rcases establish_cases plan world bulk s with
        ⟨-, heq⟩ | ⟨-, paths, before, reason, -, -, -, ⟨message, after, hpopulate, heq⟩ |
          ⟨after, journal, hpopulate, heq⟩⟩
      · rw [heq]
        exact plan.subscribed_populate world bulk h
      · have hbefore := plan.subscribed_populate world (some before) h
        rw [hpopulate] at hbefore
        rw [heq]
        exact hbefore
      · rw [heq]
        exact fun hinitialized => Bool.noConfusion hinitialized
  | call world c =>
      obtain ⟨hinitialized, hsubscribed, -⟩ := answerCall_flags plan world c s
      rw [perform, hinitialized, hsubscribed]
      exact h
  | reset => exact fun hinitialized => Bool.noConfusion hinitialized
  | dispose => exact fun hinitialized => Bool.noConfusion hinitialized

theorem subscribed_performAll (ops : List Operation)
    (h : s.initialized = true → s.subscribed = true) :
    (plan.performAll s ops).initialized = true → (plan.performAll s ops).subscribed = true := by
  induction ops generalizing s with
  | nil => exact h
  | cons op rest ih => exact ih (subscribed_perform h)

/-! ### Initializations that do nothing or fail -/

theorem establish_of_initialized (world : Surroundings) (bulk : Option (List String))
    (h : s.initialized = true) : plan.establish world bulk s = (.ok (), s, []) := by
  unfold establish
  rw [if_pos h]

/-- An initialization that fails leaves an index as if it were fresh. -/
theorem populate_error {bulk : Option (List String)} {reason : String} {after : IndexState}
    {journal : Journal} (h : plan.populate world bulk s = (.error reason, after, journal)) :
    after = .fresh := by
  rcases populate_cases plan world bulk s with
    ⟨-, heq⟩ | ⟨-, -, cause, tried, -, heq⟩ | ⟨-, -, ⟨cause, -, heq⟩ | ⟨paths, -, heq⟩⟩
  · simp [heq] at h
  · rw [heq] at h
    exact (Prod.mk.inj (Prod.mk.inj h).2).1.symm
  · rw [heq] at h
    exact (Prod.mk.inj (Prod.mk.inj h).2).1.symm
  · simp [heq] at h

/-- So does one that also minds paths without a canonical form, if it fails to index. -/
theorem establish_error {bulk : Option (List String)} {message : String} {after : IndexState}
    {journal : Journal}
    (h : plan.establish world bulk s = (.error (.notIndexed message), after, journal)) :
    after = .fresh := by
  rcases establish_cases plan world bulk s with
    ⟨-, heq⟩ | ⟨-, paths, before, reason, -, -, -, ⟨cause, failed, hpopulate, heq⟩ |
      ⟨failed, more, -, heq⟩⟩
  · rw [heq] at h
    rcases hpopulate : plan.populate world bulk s with ⟨answer, failed, more⟩
    rw [hpopulate] at h
    cases answer with
    | ok => simp [Except.mapError] at h
    | error cause =>
        rw [← (Prod.mk.inj (Prod.mk.inj h).2).1]
        exact populate_error hpopulate
  · obtain ⟨-, rfl⟩ := Prod.mk.inj (heq.symm.trans h)
    exact populate_error hpopulate
  · simp [heq] at h

/-- An initialization that succeeds leaves an index that is initialized and subscribed. -/
theorem populate_flags {bulk : Option (List String)} {after : IndexState} {journal : Journal}
    (hs : s.initialized = true → s.subscribed = true)
    (h : plan.populate world bulk s = (.ok (), after, journal)) :
    after.initialized = true ∧ after.subscribed = true := by
  rcases populate_cases plan world bulk s with
    ⟨hinitialized, heq⟩ | ⟨-, -, cause, tried, -, heq⟩ |
      ⟨-, -, ⟨cause, -, heq⟩ | ⟨paths, -, heq⟩⟩
  · rw [heq] at h
    obtain rfl := (Prod.mk.inj (Prod.mk.inj h).2).1
    exact ⟨hinitialized, hs hinitialized⟩
  · simp [heq, abandon] at h
  · simp [heq, abandon] at h
  · rw [heq] at h
    obtain rfl := (Prod.mk.inj (Prod.mk.inj h).2).1
    exact ⟨rfl, rfl⟩

/-- How the subscriptions of an index stand, given the log of its observers. -/
structure OneSubscription (s : IndexState) (log : WatchLog) : Prop where
  /-- At no moment two subscriptions are undisposed. -/
  undisposed_le : ∀ earlier, earlier <+: log → (disposals earlier).count 0 ≤ 1
  /-- No subscription is disposed twice. -/
  disposed_le : ∀ times ∈ disposals log, times ≤ 1
  /-- One is undisposed exactly if the index is subscribed. -/
  undisposed_iff : (disposals log).count 0 = 1 ↔ s.subscribed = true
  subscribed : s.initialized = true → s.subscribed = true

theorem oneSubscription_performAll (plan : IndexPlan) (ops : List Operation) :
    OneSubscription (plan.performAll .fresh ops) (plan.journalOfAll .fresh ops).watches := by
  have hrun := performAll_watchRun plan .fresh ops
  obtain ⟨⟨n, hn⟩, hinTurn⟩ := hrun.inTurn
  refine ⟨fun earlier hearlier => (hinTurn earlier hearlier).count_zero_le,
    (hinTurn _ (List.prefix_refl _)).le_one, ?_,
    subscribed_performAll ops fun hinitialized => Bool.noConfusion hinitialized⟩
  rw [hn, watched]
  cases (plan.performAll .fresh ops).subscribed <;> simp [List.count_replicate]

/-- A call fails exactly if it is a deletion or a change of a relative path and there is no working
directory, and then it changes nothing. -/
theorem answerCall_error_iff (plan : IndexPlan) (world : Surroundings) (c : Call) (s : IndexState)
    (reason : String) :
    (plan.answerCall world c s).1 = .error reason ↔
      c.kind ≠ .create ∧ Text.startsWith "/" c.path = false ∧
        world.workDirRefusal = some reason := by
  have hrefusal : world.pathRefusal c.path = some reason ↔
      Text.startsWith "/" c.path = false ∧ world.workDirRefusal = some reason := by
    rw [Surroundings.pathRefusal]
    split <;> simp_all
  rw [← hrefusal]
  rcases answerCall_cases plan world c s with
    ⟨hnone, heq⟩ | ⟨other, hsome, ⟨hkind, heq⟩ | ⟨hkind, heq⟩⟩
  · simp [heq, hnone]
  · simp [heq, hkind]
  · simp [heq, hkind, hsome]

/-- **The life of an index.**  Whatever is done with an index, at most one of its subscriptions is
undisposed at any moment, and one is exactly if the index is subscribed, as it is whenever it is
initialized.  An initialization of an initialized index does nothing, whatever it would meet.  One
that fails to index leaves a fresh index and every subscription disposed once.  A call keeps the
flags and leaves observers alone.  It fails exactly if it is a deletion or a change of a relative
path and there is no working directory, and then it changes nothing at all. -/
theorem lifecycle (plan : IndexPlan) (ops : List Operation) :
    let s := plan.performAll .fresh ops
    let log := (plan.journalOfAll .fresh ops).watches
    OneSubscription s log ∧
    (s.initialized = true →
      ∀ world bulk, plan.establish world bulk s = (.ok (), s, [])) ∧
    (∀ world bulk message after journal,
      plan.establish world bulk s = (.error (.notIndexed message), after, journal) →
        after = .fresh ∧ ∀ times ∈ disposals (log ++ journal.watches), times = 1) ∧
    ∀ world c, let taken := plan.answerCall world c s
      taken.2.1.initialized = s.initialized ∧ taken.2.1.subscribed = s.subscribed ∧
      taken.2.2.watches = [] ∧
      ∀ reason, (taken.1 = .error reason ↔ c.kind ≠ .create ∧
          Text.startsWith "/" c.path = false ∧ world.workDirRefusal = some reason) ∧
        (taken.1 = .error reason → taken.2 = (s, [])) := by
  intro s log
  refine ⟨oneSubscription_performAll plan ops, fun hinitialized world bulk =>
    establish_of_initialized world bulk hinitialized, ?_, fun world c => ?_⟩
  · intro world bulk message after journal hfails
    obtain rfl := establish_error hfails
    -- The run and the failed initialization together end with nothing watched.
    have hrun : WatchRun True none none (log ++ journal.watches) := by
      have hlast := (establish_watchRun plan world bulk s).mono fun _ => trivial
      rw [hfails] at hlast
      exact (performAll_watchRun plan .fresh ops).trans hlast
    obtain ⟨⟨n, hn⟩, -⟩ := hrun.inTurn
    refine ⟨rfl, fun times htimes => ?_⟩
    rw [hn] at htimes
    exact List.eq_of_mem_replicate (by simpa using htimes)
  · obtain ⟨hinitialized, hsubscribed, hwatches⟩ := answerCall_flags plan world c s
    refine ⟨hinitialized, hsubscribed, hwatches, fun reason =>
      ⟨answerCall_error_iff plan world c s reason, fun hfails => ?_⟩⟩
    rcases answerCall_cases plan world c s with
      ⟨-, heq⟩ | ⟨other, -, ⟨-, heq⟩ | ⟨-, heq⟩⟩
    · simp [heq] at hfails
    · simp [heq] at hfails
    · rw [heq]

/-- An index whose tree could not be watched at first, because no observer could be scheduled and
then because the one that was scheduled did not start, was initialized then and is cleared now. -/
def clearedIndex : List Operation :=
  [.populate { Surroundings.calm (oneFile .empty) with watchRefusal := some "limit" } none,
    .populate { Surroundings.calm (oneFile .empty) with startRefusal := some "limit" } none,
    .populate (.calm (oneFile .empty)) (some []), .reset]

/-- The index is initialized once more, which fails for want of a listing, or succeeds and is then
told to initialize again. -/
theorem lifecycle_clearedIndex :
    (∃ message after journal,
      wholeTextPlan.establish { Surroundings.calm (oneFile .empty) with listRefusal := some "gone" }
          none (wholeTextPlan.performAll .fresh clearedIndex)
        = (.error (.notIndexed message), after, journal) ∧
        after = .fresh ∧ ∀ times ∈ disposals ((wholeTextPlan.journalOfAll .fresh
          clearedIndex).watches ++ journal.watches), times = 1) ∧
    let again := clearedIndex ++ [.populate (.calm (oneFile .empty)) (some [])]
    (wholeTextPlan.performAll .fresh again).initialized = true ∧
      ∀ world bulk, wholeTextPlan.establish world bulk (wholeTextPlan.performAll .fresh again)
        = (.ok (), wholeTextPlan.performAll .fresh again, []) := by
  obtain ⟨-, -, hfailed, -⟩ := lifecycle wholeTextPlan clearedIndex
  have hfails : ∃ message after journal,
      wholeTextPlan.establish { Surroundings.calm (oneFile .empty) with listRefusal := some "gone" }
          none (wholeTextPlan.performAll .fresh clearedIndex)
        = (.error (.notIndexed message), after, journal) := ⟨_, _, _, rfl⟩
  obtain ⟨message, after, journal, hestablish⟩ := hfails
  refine ⟨⟨message, after, journal, hestablish, hfailed _ _ _ _ _ hestablish⟩, rfl, ?_⟩
  exact (lifecycle wholeTextPlan _).2.1 rfl

/-- Once the working directory was removed, a deletion and a change of a relative path fail.  The
creation of one is reported. -/
theorem relative_call_fails :
    let world := { Surroundings.calm (oneFile .empty) with
      workDirRefusal := some "[Errno 2] No such file or directory" }
    (wholeTextPlan.answerCall world ⟨.delete, "a.ts"⟩ .fresh).1
      = .error "[Errno 2] No such file or directory" ∧
    (wholeTextPlan.answerCall world ⟨.change, "a.ts"⟩ .fresh).1
      = .error "[Errno 2] No such file or directory" ∧
    (wholeTextPlan.answerCall world ⟨.create, "a.ts"⟩ .fresh).1 = .ok () := by
  decide

end IndexPlan

end SpokenIndex
