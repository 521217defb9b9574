/-
SyntaxCorpus.Proofs.Batch.Tally — every file is counted once, and the log says
how many are.

A wait takes files that are done out of those in flight, and the dispatcher
counts them one after the other. A file that ends the batch is not counted, and
neither are those that the same wait has taken and that come after it.

* `Tallied` — the states that a batch can come to, with the files counted so
  far, in order.
* `LeftOver` — the files that are handed out and not counted: no more than there
  are workers, and either in flight or returned by the last wait.
* `Tallied.dispatched` — that is so in every state.
* `progressLog`, `Tallied.progress` — the progress entries are due after every
  so many files, in order.
* `Accounted` — what the dispatcher has done in a state.
* `runBatch_accountsFor` — that is so in every state, and a batch that returns
  has counted every file.
-/
import SyntaxCorpus.Proofs.Batch.Isolation
import SyntaxCorpus.Proofs.Batch.Pairing

namespace SyntaxCorpus.Batch

open FileSystem (Frame)

/-! ## States with the files that are counted -/

/-- The states that a batch can come to from a state, with the files that were
counted on the way, in the order in which they were counted. A step that changes
the tally counts a file. -/
inductive Tallied (setup : Setup) (start : State) : List Nat → State → Prop
  | start : Tallied setup start [] start
  | count {counted s job rest accepted} (h : Tallied setup start counted s)
      (hpicked : s.picked = job :: rest)
      (hdone : s.stage? job = some (.done (.ok accepted))) :
      Tallied setup start (counted ++ [job])
        ({ s with tally := s.tally.add accepted, picked := rest }.note
          (((s.tally.add accepted).progress setup.options.progressInterval).map .log))
  | other {counted s s'} (h : Tallied setup start counted s) (hstep : Step setup s s')
      (hsame : s'.tally = s.tally) : Tallied setup start counted s'

section

variable {setup : Setup} {start s s' : State} {counted pending : List Nat} {paths : List Path}

theorem tally_stopAt (s : State) (stop : FileStop) : (stopAt s stop).tally = s.tally := by
  obtain ⟨jobs, events, heq, -⟩ := stopAt_eq s stop
  rw [heq]

theorem Tallied.step (h : Tallied setup start counted s) (hstep : Step setup s s') :
    ∃ counted', Tallied setup start counted' s' := by
  cases hstep with
  | worker hjob hworker =>
    exact ⟨_, h.other (.worker hjob hworker) hworker.sameDispatch.tally⟩
  | submit hphase hwaiting hpicked hroom =>
    exact ⟨_, h.other (.submit hphase hwaiting hpicked hroom) rfl⟩
  | pickSome hphase hpicked hwaiting hfull hpick =>
    exact ⟨_, h.other (.pickSome hphase hpicked hwaiting hfull hpick) rfl⟩
  | pickAll hphase hpicked hwaiting hall hpick =>
    exact ⟨_, h.other (.pickAll hphase hpicked hwaiting hall hpick) rfl⟩
  | count hpicked hdone => exact ⟨_, h.count hpicked hdone⟩
  | stop hpicked hdone => exact ⟨_, h.other (.stop hpicked hdone) (tally_stopAt s _)⟩
  | finish hover hresult => exact ⟨_, h.other (.finish hover hresult) rfl⟩

/-- Every schedule leads to such a state, and so does its end. -/
theorem exists_tallied_complete (setup : Setup) (start : State) (schedule : List Move) :
    ∃ counted, Tallied setup start counted (complete setup (run setup start schedule)) := by
  have hstep : ∀ s s', (∃ counted, Tallied setup start counted s) → Step setup s s' →
      ∃ counted, Tallied setup start counted s' := by
    rintro s s' ⟨counted, h⟩ hstep
    exact h.step hstep
  have hrun := run_induction hstep schedule ⟨[], Tallied.start⟩
  exact completeWithin_induction hstep _ hrun

theorem add_ne (t : Tally) (accepted : Bool) : t.add accepted ≠ t := by
  intro h
  cases accepted with
  | false => simpa [Tally.add] using congrArg Tally.rejected h
  | true => simpa [Tally.add] using congrArg Tally.accepted h

/-! ## Files that are handed out and not counted -/

/-- The files that are handed out and not counted are no more than there are
workers. A file that ends the batch leaves those behind that its wait has
returned. -/
structure LeftOver (setup : Setup) (pending : List Nat) (s : State) : Prop where
  length : pending.length ≤ setup.options.workers
  stopped : ∀ stop, s.phase = .stopping stop ∨ s.phase = .ended (.error stop) →
    ∃ returned, (pending.Perm (s.inFlight ++ returned) ∨ s.waiting = [] ∧ pending.Perm returned) ∧
      (∀ i ∈ returned, s.isDone i = true) ∧
      ∃ i ∈ returned, s.stage? i = some (.done (.error stop))

theorem length_jobs_stopAt (s : State) (stop : FileStop) :
    (stopAt s stop).jobs.length = s.jobs.length := by
  obtain ⟨jobs, events, heq, rfl | rfl⟩ := stopAt_eq s stop
  · rw [heq]
  · rw [heq]
    simp [cancelQueued]

/-- A file that is done is done when the batch has stopped. -/
theorem stage?_stopAt_of_done {i : Nat} {r : Except FileStop Bool}
    (h : s.stage? i = some (.done r)) (stop : FileStop) :
    (stopAt s stop).stage? i = some (.done r) :=
  ((undisturbed_stopAt s stop).stage i _ rfl).mpr h

theorem not_stopped (h : s.phase = .dispatching ∨ s.phase = .draining) {stop : FileStop} :
    ¬ (s.phase = .stopping stop ∨ s.phase = .ended (.error stop)) := by
  rcases h with h | h <;> rw [h] <;> simp

namespace LeftOver

theorem of_dispatching (hlength : pending.length ≤ setup.options.workers)
    (hphase : s.phase = .dispatching ∨ s.phase = .draining) : LeftOver setup pending s :=
  ⟨hlength, fun _ hstop => absurd hstop (not_stopped hphase)⟩

theorem submit (hd : Dispatched setup paths counted pending s)
    (hphase : s.phase = .dispatching) (hpicked : s.picked = [])
    (hroom : s.inFlight.length < setup.options.workers) (hphase' : s'.phase = .dispatching) :
    LeftOver setup (pending ++ [s.jobs.length]) s' := by
  obtain ⟨hpending, -⟩ := hd.dispatching hphase
  rw [hpicked, List.append_nil] at hpending
  refine of_dispatching ?_ (.inl hphase')
  rw [List.length_append, List.length_singleton, hpending.length_eq]
  exact hroom

theorem worker (h : LeftOver setup pending s) {job : Nat} {path : Path} {before after : Stage}
    {s₁ : State} (hjob : s.jobs[job]? = some ⟨path, before⟩)
    (hstep : WorkerStep setup s job path before after s₁) :
    LeftOver setup pending (s₁.setStage job after) := by
  have hsame := hstep.sameDispatch
  refine ⟨h.length, fun stop hstop => ?_⟩
  have hphase : (s₁.setStage job after).phase = s.phase := hsame.phase
  have hinFlight : (s₁.setStage job after).inFlight = s.inFlight := hsame.inFlight
  have hwaiting : (s₁.setStage job after).waiting = s.waiting := hsame.waiting
  rw [hphase] at hstop
  rw [hinFlight, hwaiting]
  obtain ⟨returned, hperm, hdone, i, hi, hstage⟩ := h.stopped stop hstop
  refine ⟨returned, hperm, fun i hi => ?_, i, hi, hstep.stage?_of_over hjob hstage rfl⟩
  obtain ⟨r, hr⟩ := exists_of_isDone (hdone i hi)
  exact isDone_of_stage? (hstep.stage?_of_over hjob hr rfl)

theorem count (hd : Dispatched setup paths counted pending s) (h : LeftOver setup pending s)
    {job : Nat} {rest : List Nat} (hpicked : s.picked = job :: rest)
    (hphase : s'.phase = s.phase) : LeftOver setup (pending.erase job) s' := by
  refine of_dispatching (Nat.le_trans List.length_erase_le h.length) ?_
  rw [hphase]
  exact hd.phase_of_picked hpicked

theorem stop (hd : Dispatched setup paths counted pending s) (h : LeftOver setup pending s)
    {job : Nat} {rest : List Nat} {stop : FileStop} (hpicked : s.picked = job :: rest)
    (hdone : s.stage? job = some (.done (.error stop))) :
    LeftOver setup pending (stopAt s stop) := by
  obtain ⟨jobs, events, heq, -⟩ := stopAt_eq s stop
  have hinFlight : (stopAt s stop).inFlight = s.inFlight := by rw [heq]
  have hwaiting : (stopAt s stop).waiting = s.waiting := by rw [heq]
  have hstopping : (stopAt s stop).phase = .stopping stop := by rw [heq]
  refine ⟨h.length, fun other hother => ⟨s.picked, ?_, fun i hi => ?_, job,
    by rw [hpicked]; exact List.mem_cons_self .., ?_⟩⟩
  · rw [hinFlight, hwaiting]
    rcases hd.phase_of_picked hpicked with hphase | hphase
    · exact .inl (hd.dispatching hphase).1
    · exact .inr (hd.draining hphase).symm
  · obtain ⟨r, hr⟩ := exists_of_isDone (hd.pickedDone i hi)
    exact isDone_of_stage? (stage?_stopAt_of_done hr stop)
  · have hsame : stop = other := by simpa [hstopping] using hother
    rw [← hsame]
    exact stage?_stopAt_of_done hdone stop

theorem finish (h : LeftOver setup pending s) {r : Except FileStop Unit}
    (hresult : result? s = some r) (files : FileSystem) :
    LeftOver setup pending { s with files := files, phase := .ended r } := by
  refine ⟨h.length, fun stop hstop => ?_⟩
  have hr : r = .error stop := by simpa using hstop
  subst hr
  refine h.stopped stop (.inl ?_)
  unfold result? at hresult
  split at hresult
  · split at hresult <;> cases hresult
  · rename_i hphase
    cases hresult
    exact hphase
  · cases hresult

end LeftOver

/-- A step that counts no file keeps those that are counted. -/
theorem Dispatched.other (hd : Dispatched setup paths counted pending s)
    (hleft : LeftOver setup pending s) (hstep : Step setup s s') (hsame : s'.tally = s.tally) :
    ∃ pending', Dispatched setup paths counted pending' s' ∧ LeftOver setup pending' s' := by
  cases hstep with
  | worker hjob hworker => exact ⟨pending, hd.worker hjob hworker, hleft.worker hjob hworker⟩
  | submit hphase hwaiting hpicked hroom =>
    exact ⟨_, hd.submit hphase hwaiting hroom, .submit hd hphase hpicked hroom hphase⟩
  | pickSome hphase hpicked hwaiting _ hpick =>
    exact ⟨pending, hd.pickSome hphase hpicked hwaiting hpick,
      .of_dispatching hleft.length (.inl hphase)⟩
  | pickAll hphase hpicked hwaiting hall hpick =>
    exact ⟨pending, hd.pickAll hphase hpicked hwaiting hall hpick,
      .of_dispatching hleft.length (.inr rfl)⟩
  | count _ _ => exact absurd hsame (add_ne _ _)
  | stop hpicked hdone => exact ⟨pending, hd.stop hdone, hleft.stop hd hpicked hdone⟩
  | finish hover hresult =>
    exact ⟨pending, hd.finish hover hresult _, hleft.finish hresult _⟩

/-- What the dispatcher keeps up holds in every state, for the files that were
counted on the way. -/
theorem Tallied.dispatched {files : FileSystem} {sinks : Sinks} (hne : paths ≠ [])
    (h : Tallied setup (initial files sinks paths) counted s) :
    ∃ pending, Dispatched setup paths counted pending s ∧ LeftOver setup pending s := by
  induction h with
  | start =>
    exact ⟨[], dispatched_initial files sinks hne,
      .of_dispatching (Nat.zero_le _) (.inl rfl)⟩
  | count _ hpicked hdone ih =>
    obtain ⟨pending, hd, hleft⟩ := ih
    exact ⟨_, hd.count hpicked hdone _, .count hd hleft hpicked rfl⟩
  | other _ hstep hsame ih =>
    obtain ⟨pending, hd, hleft⟩ := ih
    exact hd.other hleft hstep hsame

/-- Without files, nothing can be done. -/
theorem not_step_initial_nil {files : FileSystem} {sinks : Sinks} :
    ¬ Step setup (initial files sinks []) s' := by
  generalize hs : initial files sinks [] = s
  intro hstep
  have hjobs : s.jobs = [] := by rw [← hs]; rfl
  have hpicked : s.picked = [] := by rw [← hs]; rfl
  have hinFlight : s.inFlight = [] := by rw [← hs]; rfl
  have hpick : ∀ jobs, ¬ Pickable s jobs := by
    intro jobs h
    obtain ⟨job, hjob⟩ := List.exists_mem_of_ne_nil jobs h.ne_nil
    have hmem := h.inFlight job hjob
    rw [hinFlight] at hmem
    exact absurd hmem List.not_mem_nil
  cases hstep with
  | worker hjob _ => simp [hjobs] at hjob
  | submit _ hwaiting _ _ =>
    rw [← hs] at hwaiting
    cases hwaiting
  | pickSome _ _ _ _ h => exact hpick _ h
  | pickAll _ _ _ _ h => exact hpick _ h
  | count h _ => simp [hpicked] at h
  | stop h _ => simp [hpicked] at h
  | finish _ hresult =>
    rw [← hs] at hresult
    cases hresult

theorem Tallied.of_nil {files : FileSystem} {sinks : Sinks}
    (h : Tallied setup (initial files sinks []) counted s) :
    counted = [] ∧ s = initial files sinks [] := by
  induction h with
  | start => exact ⟨rfl, rfl⟩
  | count _ hpicked hdone ih =>
    obtain ⟨-, rfl⟩ := ih
    cases hpicked
  | other _ hstep _ ih =>
    obtain ⟨-, rfl⟩ := ih
    exact absurd hstep not_step_initial_nil

end

/-! ## The progress log -/

/-- How every progress entry begins. -/
def progressBeginning : String := "progress: "

/-- Whether an event is a progress entry: information of the dispatcher. -/
def isProgress : Event → Bool
  | .log e => e.origin == .main && e.level == .info &&
      progressBeginning.toList.isPrefixOf e.message.toList
  | .parse _ => false

/-- The progress entry after some of all files. -/
def progressEvent (total processed : Nat) : Event :=
  logged .info s!"progress: {processed}/{total}"

/-- The progress entries that are due after some of all files: one after every
`interval` files. -/
def progressLog (interval total processed : Nat) : List Event :=
  (List.range (processed / interval)).map fun k => progressEvent total ((k + 1) * interval)

theorem isProgress_progressEvent (total processed : Nat) :
    isProgress (progressEvent total processed) = true := by
  simp only [isProgress, progressEvent, logged, progressBeginning, String.toList_append,
    List.append_assoc, List.isPrefixOf_iff_prefix, Bool.and_eq_true]
  exact ⟨⟨rfl, rfl⟩, List.prefix_append _ _⟩

theorem progressLog_succ (interval total processed : Nat) :
    progressLog interval total (processed + 1) = progressLog interval total processed ++
      if (processed + 1) % interval = 0 then [progressEvent total (processed + 1)] else [] := by
  rw [progressLog, progressLog, Nat.succ_div]
  by_cases hdvd : interval ∣ processed + 1
  · have hdiv : (processed / interval + 1) * interval = processed + 1 := by
      have hcancel := Nat.div_mul_cancel hdvd
      rwa [Nat.succ_div, if_pos hdvd] at hcancel
    rw [if_pos hdvd, if_pos (Nat.mod_eq_zero_of_dvd hdvd), List.range_succ, List.map_append,
      List.map_singleton, hdiv]
  · rw [if_neg hdvd, if_neg fun hmod => hdvd (Nat.dvd_of_mod_eq_zero hmod), Nat.add_zero,
      List.append_nil]

theorem progress_eq (t : Tally) (interval : Nat) :
    (t.progress interval).map Event.log =
      if t.processed % interval = 0 then [progressEvent t.total t.processed] else [] := by
  unfold Tally.progress
  by_cases hdue : t.processed % interval = 0
  · rw [if_pos (beq_iff_eq.mpr hdue), if_pos hdue]
    rfl
  · rw [if_neg (by simpa using hdue), if_neg hdue]
    rfl

theorem processed_add (t : Tally) (accepted : Bool) :
    (t.add accepted).processed = t.processed + 1 := by
  cases accepted with
  | false => simp [Tally.add, Tally.processed, Nat.add_assoc]
  | true =>
    simp only [Tally.add, Tally.processed, if_true]
    omega

theorem total_add (t : Tally) (accepted : Bool) : (t.add accepted).total = t.total := by
  cases accepted <;> rfl

/-- What is done for a file, the progress log apart. -/
theorem isProgress_workOut (setup : Setup) (fs : FileSystem) (p : Path) :
    ∀ event ∈ (workOut setup fs p).2, isProgress event = false := by
  have hparse : ∀ event ∈ (parseFile fs setup.parser .worker setup.options.settings p.text).2,
      isProgress event = false := by
    unfold parseFile
    split
    · simp
    · split
      · simp
      · unfold parseSource
        split <;> simp [isProgress, crashEntry]
  have hentry : ∀ outcome, ∀ event ∈ (entryOf setup.serialize outcome).2,
      isProgress event = false := by
    intro outcome
    cases outcome with
    | rejected r => simp [entryOf, rejectedEntry, isProgress, rejectionEntry]
    | accepted path records =>
      cases hserialize : setup.serialize records with
      | ok document => simp [entryOf, hserialize]
      | error e =>
        simp [entryOf, hserialize, rejectedEntry, isProgress, rejectionEntry, skipEntry]
  have hprocess : ∀ event ∈
      (processFile fs setup.parser .worker setup.options setup.root p).2,
      isProgress event = false := by
    unfold processFile
    dsimp only
    split
    · simp
    · exact hparse
  unfold workOut
  generalize processFile fs setup.parser .worker setup.options setup.root p = result at hprocess
  obtain ⟨_ | outcome, events⟩ := result
  · exact hprocess
  · intro event hevent
    rcases List.mem_append.mp hevent with hevent | hevent
    · exact hprocess event hevent
    · exact hentry outcome event hevent

section

variable {setup : Setup} {start s s' s₁ : State} {counted pending : List Nat} {paths : List Path}
  {job : Nat} {path : Path} {before after : Stage}

/-- The progress entries that were made so far. -/
def progressSoFar (s : State) : List Event := s.events.toList.filter isProgress

theorem progressSoFar_note (s : State) (events : List Event) :
    progressSoFar (s.note events) = progressSoFar s ++ events.filter isProgress := by
  simp [progressSoFar, State.note]

theorem WorkerStep.progressSoFar (h : WorkerStep setup s job path before after s₁) :
    progressSoFar (s₁.setStage job after) = progressSoFar s := by
  have hlock : ∀ e holder, (s.setLock e holder).events = s.events := by
    intro e holder
    unfold State.setLock
    split <;> rfl
  have hnote : ∀ {r events}, workOut setup s.files path = (r, events) →
      Batch.progressSoFar (s.note events) = Batch.progressSoFar s := by
    intro r events hwork
    have hquiet := isProgress_workOut setup s.files path
    rw [hwork] at hquiet
    rw [progressSoFar_note, List.filter_eq_nil_iff.mpr (by simpa using hquiet), List.append_nil]
  have hs₁ : Batch.progressSoFar s₁ = Batch.progressSoFar s := by
    cases h with
    | start _ _ => rfl
    | work hwork => exact hnote hwork
    | fail hwork => exact hnote hwork
    | lock _ => rw [Batch.progressSoFar, hlock]; rfl
    | writeDocument _ _ => rfl
    | writePath _ _ => rfl
    | writeFailure _ _ => rfl
    | unlock e => rw [Batch.progressSoFar, hlock]; rfl
  exact hs₁

theorem progressSoFar_stopAt (s : State) (stop : FileStop) :
    progressSoFar (stopAt s stop) = progressSoFar s := by
  cases stop with
  | interrupted text =>
    have hquiet : isProgress (.log (interruptEntry s.inFlight.length)) = false := rfl
    simp [progressSoFar, stopAt, State.note, hquiet]
  | invalidTree ps => rfl
  | nullCharacter => rfl
  | escaped raised => rfl

/-- A step makes no progress entry but when it counts a file. -/
theorem Step.progressSoFar (h : Step setup s s') (hsame : s'.tally = s.tally) :
    progressSoFar s' = progressSoFar s := by
  cases h with
  | worker _ hworker => exact hworker.progressSoFar
  | submit _ _ _ _ => rfl
  | pickSome _ _ _ _ _ => rfl
  | pickAll _ _ _ _ _ => rfl
  | count _ _ => exact absurd hsame (add_ne _ _)
  | stop _ _ => exact progressSoFar_stopAt s _
  | finish _ _ => rfl

/-- The progress entries are those that are due, in order. -/
theorem Tallied.progress {files : FileSystem} {sinks : Sinks}
    (h : Tallied setup (initial files sinks paths) counted s) :
    s.tally.total = paths.length ∧ s.tally.processed = counted.length ∧
      progressSoFar s
        = progressLog setup.options.progressInterval paths.length counted.length := by
  induction h with
  | start => exact ⟨rfl, rfl, by simp [progressSoFar, progressLog, initial]⟩
  | @count counted s job rest accepted _ _ _ ih =>
    obtain ⟨htotal, hprocessed, hlog⟩ := ih
    refine ⟨(total_add _ _).trans htotal, ?_, ?_⟩
    · rw [List.length_append, List.length_singleton, ← hprocessed]
      exact processed_add s.tally accepted
    · have hbefore : progressSoFar { s with tally := s.tally.add accepted, picked := rest }
          = progressSoFar s := rfl
      rw [progressSoFar_note, hbefore, hlog, progress_eq, processed_add, total_add, htotal,
        hprocessed, List.length_append, List.length_singleton,
        progressLog_succ]
      congr 1
      split
      · simp [isProgress_progressEvent]
      · rfl
  | other _ hstep hsame ih =>
    rw [hsame, hstep.progressSoFar hsame]
    exact ih

end

/-! ## What the dispatcher has done -/

/-- The files that are handed out and not counted, phase by phase. -/
structure Left (setup : Setup) (left : List Nat) (s : State) : Prop
    extends LeftOver setup left s where
  dispatching : s.phase = .dispatching → left.Perm (s.inFlight ++ s.picked)
  draining : s.phase = .draining → s.waiting = [] ∧ left.Perm s.picked
  returned : s.phase = .ended (.ok ()) → s.waiting = [] ∧ left = []

/-- What the dispatcher has done at a moment: `counted` are the files in the
tally. -/
structure Accounted (setup : Setup) (paths : List Path) (counted : List Nat) (s : State) :
    Prop where
  /-- The files are handed out in the order of the list. -/
  handedOut : s.jobs.map (·.path) ++ s.waiting = paths
  room : s.inFlight.length ≤ setup.options.workers
  /-- Every file that is handed out is counted once, or it is left. -/
  once : ∃ left, (counted ++ left).Perm (List.range s.jobs.length) ∧ Left setup left s
  countedDone : ∀ i ∈ counted, ∃ accepted, s.stage? i = some (.done (.ok accepted))
  tally : s.tally = ⟨paths.length, counted.countP s.isAccepted,
    counted.countP fun i => !s.isAccepted i⟩
  progress : progressSoFar s
    = progressLog setup.options.progressInterval paths.length counted.length

/-- What a batch ends with when it has come to a state. -/
structure Concluded (setup : Setup) (found : List Path) (counted : List Nat) (s : State)
    (report : Report) : Prop where
  result : report.result = s.outcome
  progress : report.events.filter isProgress
    = progressLog setup.options.progressInterval found.length counted.length
  /-- A batch that returns has counted every file. -/
  returns : ∀ t, report.result = .ok t → s.tally = t ∧
    counted.Perm (List.range found.length) ∧ t.total = found.length ∧
    t.accepted + t.rejected = t.total ∧ report.events.filter isProgress
      = progressLog setup.options.progressInterval t.total t.total

/-- The files of a batch are counted once. -/
structure AccountsFor (setup : Setup) (found : List Path) (start : State)
    (report : List Move → Report) : Prop where
  /-- The files are sorted, each of them once. -/
  sorted : (found.mergeSort Path.le).Perm found ∧ (found.mergeSort Path.le).Nodup ∧
    (found.mergeSort Path.le).Pairwise fun p q => p.sortKey ≤ q.sortKey
  always : ∀ counted s, Tallied setup start counted s →
    Accounted setup (found.mergeSort Path.le) counted s
  ends : ∀ schedule, ∃ counted s, Tallied setup start counted s ∧
    Concluded setup found counted s (report schedule)

section

variable {setup : Setup} {s : State} {counted : List Nat} {paths : List Path}

theorem Dispatched.left {pending : List Nat} (hd : Dispatched setup paths counted pending s)
    (hleft : LeftOver setup pending s) : Left setup pending s where
  toLeftOver := hleft
  dispatching hphase := (hd.dispatching hphase).1
  draining hphase := (hd.draining hphase).symm
  returned hphase := (hd.ended _ hphase).2.2.symm

theorem accounted_of_nil {files : FileSystem} {sinks : Sinks}
    (h : Tallied setup (initial files sinks []) counted s) : Accounted setup [] counted s := by
  obtain ⟨-, -, hprogress⟩ := h.progress
  obtain ⟨rfl, rfl⟩ := h.of_nil
  refine ⟨rfl, Nat.zero_le _, ⟨[], .refl _, ?_⟩, by simp, rfl, hprogress⟩
  exact {
    toLeftOver := .of_dispatching (Nat.zero_le _) (.inl rfl)
    dispatching := fun _ => .refl _
    draining := by
      intro hphase
      cases hphase
    returned := by
      intro hphase
      cases hphase
  }

/-- What the dispatcher has done in any state that a batch can come to. -/
theorem Tallied.accounted {files : FileSystem} {sinks : Sinks}
    (h : Tallied setup (initial files sinks paths) counted s) :
    Accounted setup paths counted s := by
  by_cases hne : paths = []
  · subst hne
    exact accounted_of_nil h
  · obtain ⟨pending, hd, hleft⟩ := h.dispatched hne
    refine ⟨hd.handedOut, hd.room, ⟨pending, hd.once, hd.left hleft⟩, hd.countedDone, ?_,
      h.progress.2.2⟩
    rw [← hd.total, ← hd.accepted, ← hd.rejected]

/-- In a state in which nothing is left, every file is counted. -/
theorem Accounted.counted_perm (h : Accounted setup paths counted s)
    (hphase : s.phase = .ended (.ok ())) : counted.Perm (List.range paths.length) := by
  obtain ⟨left, honce, hleft⟩ := h.once
  obtain ⟨hwaiting, rfl⟩ := hleft.returned hphase
  have hlength : s.jobs.length = paths.length := by
    rw [← h.handedOut, hwaiting, List.append_nil, List.length_map]
  rwa [List.append_nil, hlength] at honce

theorem isProgress_startEvent (total : Nat) : isProgress (startEvent total) = false := by
  simp [isProgress, startEvent, logged, progressBeginning, toString, List.isPrefixOf]

theorem isProgress_endEvent (t : Tally) : isProgress (endEvent t) = false := by
  simp [isProgress, endEvent, logged, progressBeginning, toString, List.isPrefixOf]

end

section

variable {files opened : FileSystem} {parser : SourceParser} {serialize : Serializer}
  {options : BatchOptions} {input outputs : String} {found : List Path} {sinks : Sinks}

/-- What a batch without files does. -/
theorem runBatch_events_nil (parser : SourceParser) (serialize : Serializer)
    (options : BatchOptions) (hfound : findFiles files input = .ok [])
    (hopen : Sinks.open_ files (.of outputs) = (.ok sinks, opened)) (schedule : List Move) :
    (runBatch files parser serialize options schedule input outputs).events
      = [.log (searchEntry input 0), startEvent 0, noFilesEvent input, endEvent {}] := by
  delta runBatch
  rw [hfound]
  delta processFiles
  simp only [hopen, List.mergeSort_nil]
  rfl

/-- What a batch does: the search and the start, what is done for its files, and
the end if it returns. -/
theorem runBatch_events (parser : SourceParser) (serialize : Serializer) (options : BatchOptions)
    (hfound : findFiles files input = .ok found)
    (hopen : Sinks.open_ files (.of outputs) = (.ok sinks, opened)) (hne : found ≠ [])
    (schedule : List Move) :
    ∃ ending, (runBatch files parser serialize options schedule input outputs).events
        = .log (searchEntry input found.length) :: startEvent found.length ::
          ((endState (setupOf files parser serialize options) opened sinks
            (found.mergeSort Path.le) schedule).events.toList ++ ending) ∧
      (ending = [] ∨ ∃ t, ending = [endEvent t]) := by
  have hsorted := List.isEmpty_eq_false_iff.mpr (mergeSort_ne_nil hne)
  delta runBatch
  rw [hfound]
  delta processFiles
  simp only [hopen, hsorted, Bool.false_eq_true, if_false, List.length_mergeSort]
  split
  · exact ⟨_, rfl, .inr ⟨_, rfl⟩⟩
  · exact ⟨[], by rw [List.append_nil]; rfl, .inl rfl⟩

/-- The progress entries of a batch are those of its dispatcher. -/
theorem progress_runBatch (parser : SourceParser) (serialize : Serializer) (options : BatchOptions)
    (hfound : findFiles files input = .ok found)
    (hopen : Sinks.open_ files (.of outputs) = (.ok sinks, opened)) (hne : found ≠ [])
    (schedule : List Move) :
    (runBatch files parser serialize options schedule input outputs).events.filter isProgress
      = progressSoFar (endState (setupOf files parser serialize options) opened sinks
          (found.mergeSort Path.le) schedule) := by
  have hsearch : isProgress (.log (searchEntry input found.length)) = false := rfl
  obtain ⟨ending, hevents, hending⟩ :=
    runBatch_events parser serialize options hfound hopen hne schedule
  have hnone : ending.filter isProgress = [] := by
    rcases hending with rfl | ⟨t, rfl⟩
    · rfl
    · simp [isProgress_endEvent]
  rw [hevents, List.filter_cons, List.filter_cons, hsearch, isProgress_startEvent,
    List.filter_append, hnone, List.append_nil]
  rfl

theorem concluded_of_nil {report : Report} (setup : Setup) (hresult : report.result = .ok {})
    (hprogress : report.events.filter isProgress = []) :
    Concluded setup [] [] (initial opened sinks []) report := by
  have hlog : progressLog setup.options.progressInterval 0 0 = [] := by simp [progressLog]
  refine ⟨hresult, by rw [hprogress]; exact hlog.symm, fun t ht => ?_⟩
  rw [hresult] at ht
  obtain rfl := Except.ok.inj ht
  exact ⟨rfl, .refl _, rfl, rfl, by rw [hprogress]; exact hlog.symm⟩

theorem Accounted.concluded {setup : Setup} {counted : List Nat} {s : State} {report : Report}
    {r : Except FileStop Unit} (h : Accounted setup (found.mergeSort Path.le) counted s)
    (hended : s.phase = .ended r) (hresult : report.result = s.outcome)
    (hprogress : report.events.filter isProgress = progressSoFar s) :
    Concluded setup found counted s report := by
  have hlog := hprogress.trans h.progress
  rw [List.length_mergeSort] at hlog
  refine ⟨hresult, hlog, fun t ht => ?_⟩
  rw [hresult, State.outcome, hended] at ht
  cases r with
  | error stop => cases ht
  | ok _ =>
    obtain rfl : s.tally = t := Except.ok.inj ht
    have hperm := h.counted_perm hended
    rw [List.length_mergeSort] at hperm
    have hcounted : counted.length = found.length := by simpa using hperm.length_eq
    have htotal : s.tally.total = found.length := by rw [h.tally, List.length_mergeSort]
    refine ⟨rfl, hperm, htotal, ?_, ?_⟩
    · rw [htotal, ← hcounted, List.length_eq_countP_add_countP s.isAccepted, h.tally]
      simp
    · rw [hlog, hcounted, htotal]

/-- **The files of a batch are counted once.** -/
theorem runBatch_accountsFor (hfound : findFiles files input = .ok found)
    (hopen : Sinks.open_ files (.of outputs) = (.ok sinks, opened)) :
    AccountsFor (setupOf files parser serialize options) found
      (initial opened sinks (found.mergeSort Path.le))
      fun schedule => runBatch files parser serialize options schedule input outputs where
  sorted := by
    have hperm := List.mergeSort_perm found Path.le
    exact ⟨hperm, hperm.nodup_iff.mpr (findFiles_nodup hfound), Path.pairwise_mergeSort found⟩
  always _ _ h := h.accounted
  ends := by
    intro schedule
    by_cases hne : found = []
    · subst hne
      have hprogress :
          (runBatch files parser serialize options schedule input outputs).events.filter isProgress
            = [] := by
        rw [runBatch_events_nil parser serialize options hfound hopen schedule]
        simp [isProgress_startEvent, isProgress_endEvent]
        exact ⟨rfl, rfl⟩
      rw [List.mergeSort_nil]
      exact ⟨[], _, .start, concluded_of_nil _ (runBatch_of_nil hfound hopen schedule).1
        hprogress⟩
    · obtain ⟨counted, htallied⟩ := exists_tallied_complete
        (setupOf files parser serialize options) (initial opened sinks (found.mergeSort Path.le))
        schedule
      obtain ⟨r, hr⟩ := complete_ended (setupOf files parser serialize options) opened sinks
        (mergeSort_ne_nil hne) schedule
      exact ⟨counted, _, htallied, htallied.accounted.concluded hr
        (runBatch_of_ne_nil hfound hopen hne schedule).1
        (progress_runBatch parser serialize options hfound hopen hne schedule)⟩

end

/-! ## Two files, and a file that interrupts the batch -/

theorem runBatch_accountsFor_mixed : ∃ sinks opened,
    findFiles mixedFiles "*.py" = .ok [Path.ofText "a.py", Path.ofText "b.py"] ∧
    Sinks.open_ mixedFiles (.of "out") = (.ok sinks, opened) ∧
    AccountsFor (setupOf mixedFiles (mixedParser (.failure "no tree")) writeDocument anySize)
      [Path.ofText "a.py", Path.ofText "b.py"]
      (initial opened sinks ([Path.ofText "a.py", Path.ofText "b.py"].mergeSort Path.le))
      fun schedule => runBatch mixedFiles (mixedParser (.failure "no tree")) writeDocument anySize
        schedule "*.py" "out" := by
  obtain ⟨opened, hopen⟩ := open_mixed
  exact ⟨_, opened, findFiles_mixed, hopen, runBatch_accountsFor findFiles_mixed hopen⟩

theorem mergeSort_mixed : [Path.ofText "a.py", Path.ofText "b.py"].mergeSort Path.le
    = [Path.ofText "a.py", Path.ofText "b.py"] :=
  List.mergeSort_of_pairwise (by decide)

theorem workOut_mixed (text : String) :
    (workOut (setupOf mixedFiles (mixedParser (.interrupt text)) writeDocument anySize) mixedFiles
      (Path.ofText "a.py")).1 = .error (.interrupted text) := by
  generalize hsetup : setupOf mixedFiles (mixedParser (.interrupt text)) writeDocument anySize
    = setup
  have hparse : (parseFile mixedFiles setup.parser .worker setup.options.settings
      (Path.ofText "a.py").text).1 = .error (.interrupted text) := by
    rw [← hsetup]
    exact congrArg Prod.fst (parseFile_source _ (status_mixed (by decide) rfl))
  have hbreak : hasLineBreak (relativePath mixedFiles (Path.ofText "a.py")
      ⟨.single, mixedFiles.workingDirectory⟩) = false := by decide
  have hshown : hasLineBreak (shownPath setup mixedFiles (Path.ofText "a.py")) = false := by
    rw [← hsetup]
    exact hbreak
  rw [workOut_of_unbroken hshown, hparse]
  rfl

/-- A single worker, and a first file that ends the batch: the wait that returns
the file takes it out of those in flight. -/
theorem exists_tallied_stopAt {setup : Setup} (opened : FileSystem) (sinks : Sinks) {p q : Path}
    (rest : List Path) {stop : FileStop} (hworkers : setup.options.workers = 1)
    (hwork : (workOut setup opened p).1 = .error stop) :
    ∃ s, Tallied setup (initial opened sinks (p :: q :: rest)) [] s ∧ s.phase = .stopping stop ∧
      s.jobs.length = 1 ∧ s.inFlight = [] := by
  generalize hresult : workOut setup opened p = result at hwork
  obtain ⟨_, events⟩ := result
  subst hwork
  let handedOut : State :=
    { initial opened sinks (p :: q :: rest) with
      waiting := q :: rest, jobs := [⟨p, .queued⟩], inFlight := [0] }
  let working := handedOut.setStage 0 .running
  let failed := (working.note events).setStage 0 (.done (.error stop))
  let picked : State := { failed with picked := [0], inFlight := [] }
  have hsubmit : Step setup (initial opened sinks (p :: q :: rest)) handedOut :=
    .submit rfl rfl rfl (by rw [hworkers]; exact Nat.zero_lt_one)
  have hstart : Step setup handedOut working :=
    .worker rfl (.start (by rw [hworkers]; exact Nat.zero_lt_one) rfl)
  have hjob : working.jobs[0]? = some ⟨p, .running⟩ := rfl
  have hfail : Step setup working failed := .worker hjob (.fail hresult)
  have hdone : failed.stage? 0 = some (.done (.error stop)) := rfl
  have hpickable : Pickable failed [0] :=
    ⟨by simp, by simp, fun _ h => h, fun i hi => by
      rw [List.mem_singleton.mp hi]; exact isDone_of_stage? hdone⟩
  have hpick : Step setup failed picked :=
    .pickSome rfl rfl (by simp [failed, working, handedOut, State.setStage, State.note])
      (by rw [hworkers]; exact Nat.le_refl _) hpickable
  have hstop : Step setup picked (stopAt picked stop) := .stop rfl hdone
  refine ⟨_, ((((Tallied.start.other hsubmit rfl).other hstart rfl).other hfail rfl).other hpick
    rfl).other hstop (tally_stopAt picked stop), ?_, ?_, ?_⟩
  · obtain ⟨jobs, log, heq, -⟩ := stopAt_eq picked stop
    rw [heq]
  · rw [length_jobs_stopAt]
    rfl
  · obtain ⟨jobs, log, heq, -⟩ := stopAt_eq picked stop
    rw [heq]

/-- A file that interrupts a batch is handed out and neither in flight nor
counted when the batch stops. -/
theorem not_inFlight_of_interrupt : ∃ sinks opened counted s,
    findFiles mixedFiles "*.py" = .ok [Path.ofText "a.py", Path.ofText "b.py"] ∧
    Sinks.open_ mixedFiles (.of "out") = (.ok sinks, opened) ∧
    Tallied (setupOf mixedFiles (mixedParser (.interrupt "stop")) writeDocument anySize)
      (initial opened sinks ([Path.ofText "a.py", Path.ofText "b.py"].mergeSort Path.le))
      counted s ∧
    s.phase = .stopping (.interrupted "stop") ∧
    ∃ i < s.jobs.length, i ∉ s.inFlight ∧ i ∉ counted := by
  obtain ⟨sinks, opened, hplaced, -⟩ := placed_mixed (mixedParser (.interrupt "stop"))
  have hframe : Frame sinks.locations opened opened :=
    (framed_initial (Sinks.haveFiles_iff.mpr (Sinks.frame_open hplaced.isOpened).isFile) []).frame
  have hwork := congrArg Prod.fst (hplaced.steady opened hframe (Path.ofText "a.py") (by simp))
  rw [workOut_mixed] at hwork
  obtain ⟨s, htallied, hphase, hlength, hnil⟩ :=
    exists_tallied_stopAt opened sinks [] rfl hwork
  rw [mergeSort_mixed]
  refine ⟨sinks, opened, [], s, hplaced.isFound, hplaced.isOpened, htallied, hphase, 0, ?_, ?_,
    List.not_mem_nil⟩
  · rw [hlength]
    exact Nat.zero_lt_one
  · rw [hnil]
    exact List.not_mem_nil

end SyntaxCorpus.Batch
