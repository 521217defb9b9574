/-
SyntaxCorpus.Proofs.Batch.Progress — every batch comes to its end.

* `Step.remaining_lt` — every step lowers the bound on the moves to the end.
* `exists_step_nextMove` — the move that is made without a schedule is
  possible until the batch has ended, so no two of the dispatcher and the
  workers wait for each other.
* `completeWithin_ended` — so a batch has ended after at most so many moves as
  the bound says.
* `run_induction`, `completeWithin_induction` — what every step keeps holds at
  the end.
-/
import SyntaxCorpus.Proofs.Batch.Workers

namespace SyntaxCorpus.Batch

/-! ## The bound on the moves to the end -/

theorem workOn_append (jobs more : List Job) :
    workOn (jobs ++ more) = workOn jobs + workOn more := by
  induction jobs with
  | nil => simp [workOn]
  | cons j jobs ih => rw [List.cons_append, workOn, workOn, ih, Nat.add_assoc]

/-- A file on a new stage changes the bound by what that file changes. -/
theorem workOn_modify (after : Stage) {j : Job} : ∀ {jobs : List Job} {i : Nat},
    jobs[i]? = some j →
      workOn (jobs.modify i fun j => { j with stage := after }) + j.stage.remaining
        = workOn jobs + after.remaining := by
  intro jobs
  induction jobs with
  | nil =>
    intro i h
    simp at h
  | cons k jobs ih =>
    intro i h
    cases i with
    | zero =>
      obtain rfl : k = j := by simpa using h
      simp only [List.modify_zero_cons, workOn]
      omega
    | succ i =>
      have hrest := ih (by simpa using h)
      simp only [List.modify_succ_cons, workOn]
      omega

theorem workOn_cancelQueued_le (jobs : List Job) : workOn (cancelQueued jobs) ≤ workOn jobs := by
  induction jobs with
  | nil => exact Nat.le_refl _
  | cons j jobs ih =>
    have hj : (if j.stage.isQueued then { j with stage := .cancelled } else j).stage.remaining
        ≤ j.stage.remaining := by
      split
      · exact Nat.zero_le _
      · exact Nat.le_refl _
    simp only [cancelQueued, List.map_cons, workOn] at ih ⊢
    exact Nat.add_le_add hj ih

section

variable {setup : Setup} {s s' s₁ : State} {job : Nat} {path : Path} {before after : Stage}

theorem WorkerStep.remaining_lt (h : WorkerStep setup s job path before after s₁) :
    after.remaining < before.remaining := by
  cases h <;> simp [Stage.remaining]

theorem WorkerStep.work_lt (h : WorkerStep setup s job path before after s₁)
    (hjob : s.jobs[job]? = some ⟨path, before⟩) :
    workOn (s₁.setStage job after).jobs < workOn s.jobs := by
  have hlt := h.remaining_lt
  have hwork := workOn_modify after hjob
  simp only [State.setStage, h.sameDispatch.jobs]
  simp only at hwork
  omega

/-- The files that are picked are no longer in flight. -/
theorem Pickable.length_filter {jobs : List Nat} (h : Pickable s jobs) :
    (s.inFlight.filter fun job => !jobs.contains job).length + jobs.length
      ≤ s.inFlight.length := by
  have hsub : jobs.Subperm (s.inFlight.filter fun job => jobs.contains job) := by
    refine List.subperm_of_subset h.nodup fun job hjob => ?_
    simp [h.inFlight job hjob, hjob]
  have hsplit := List.length_eq_length_filter_add (l := s.inFlight) fun job => jobs.contains job
  have hle := hsub.length_le
  omega

/-- What the dispatcher still has to do, at most. -/
def Phase.remaining (inFlight : Nat) : Phase → Nat
  | dispatching => 2 * inFlight + 2
  | draining => 1
  | stopping _ => 1
  | ended _ => 0

theorem remaining_eq (s : State) :
    remaining s = 10 * s.waiting.length + workOn s.jobs + s.picked.length
      + s.phase.remaining s.inFlight.length := by
  unfold remaining Phase.remaining
  split <;> simp [*]

/-- Every step lowers the bound, if nothing is picked when a batch has
ended. -/
theorem Step.remaining_lt (h : Step setup s s')
    (hended : ∀ r, s.phase = .ended r → s.picked = []) : remaining s' < remaining s := by
  rw [remaining_eq, remaining_eq]
  cases h with
  | worker hjob hstep =>
    have hsame := hstep.sameDispatch
    have hwork := hstep.work_lt hjob
    simp only [State.setStage, hsame.waiting, hsame.picked, hsame.phase, hsame.inFlight] at hwork ⊢
    omega
  | submit hphase hwaiting _ _ =>
    simp [workOn_append, workOn, hphase, hwaiting, Phase.remaining, Stage.remaining]
    omega
  | pickSome hphase hpicked _ _ hpick =>
    have hle := hpick.length_filter
    have hpos := List.length_pos_iff.mpr hpick.ne_nil
    simp only [hphase, hpicked, Phase.remaining, List.length_nil]
    omega
  | pickAll hphase hpicked _ hall _ =>
    simp only [hphase, hpicked, Phase.remaining, List.length_nil]
    omega
  | count hpicked _ =>
    simp [State.note, hpicked]
  | @stop job rest stop hpicked _ =>
    obtain ⟨jobs, events, heq, hjobs⟩ := stopAt_eq s stop
    have hle : workOn jobs ≤ workOn s.jobs := by
      rcases hjobs with rfl | rfl
      · exact Nat.le_refl _
      · exact workOn_cancelQueued_le s.jobs
    have hphase : 1 ≤ s.phase.remaining s.inFlight.length := by
      cases hp : s.phase with
      | ended r =>
        rw [hended r hp] at hpicked
        cases hpicked
      | _ => simp [Phase.remaining]
    rw [heq]
    simp only [hpicked, List.length_cons, List.length_nil]
    simp only [Phase.remaining] at hphase ⊢
    omega
  | finish _ hresult =>
    have hphase : 0 < s.phase.remaining s.inFlight.length := by
      cases hp : s.phase with
      | ended r => simp [result?, hp] at hresult
      | _ => simp [Phase.remaining]
    simp only [Phase.remaining] at hphase ⊢
    omega

/-! ## The move without a schedule -/

theorem exists_advance (setup : Setup) (hjob : s.jobs[job]? = some ⟨path, before⟩)
    (hbusy : before.isBusy = true) (hfree : ∀ e, before = .ready e → s.lock e = none) :
    ∃ s', advance setup s job = some s' := by
  unfold advance
  rw [hjob]
  cases before with
  | running =>
    dsimp only
    generalize workOut setup s.files path = result
    obtain ⟨_ | _, _⟩ := result <;> exact ⟨_, rfl⟩
  | ready e => simp [hfree e rfl]
  | locked e => cases e <;> exact ⟨_, rfl⟩
  | halfWritten shown document => exact ⟨_, rfl⟩
  | written e => exact ⟨_, rfl⟩
  | _ => cases hbusy

/-- A worker that has a lock can go on. -/
theorem Guarded.exists_advance (h : Guarded s) (setup : Setup) {pair : Bool}
    (hlock : s.lockOf pair = some job) : ∃ s', advance setup s job = some s' := by
  have hholds := (h pair job).mp hlock
  rw [State.holds, Option.bind_eq_some_iff] at hholds
  obtain ⟨stage, hstage, hholding⟩ := hholds
  obtain ⟨path, hjob⟩ := State.stage?_eq_some.mp hstage
  refine Batch.exists_advance setup hjob ?_ ?_
  · cases stage <;> first | rfl | cases hholding
  · rintro e rfl
    cases hholding

theorem exists_of_findIdx? {p : Job → Bool} (h : s.jobs.findIdx? p = some job) :
    ∃ j, s.jobs[job]? = some j ∧ p j = true := by
  obtain ⟨hlt, hp, -⟩ := List.findIdx?_eq_some_iff_getElem.mp h
  exact ⟨_, List.getElem?_eq_getElem hlt, hp⟩

theorem exists_advance_nextWorker? (hguarded : Guarded s) (setup : Setup)
    (h : nextWorker? s = some job) : ∃ s', advance setup s job = some s' := by
  unfold nextWorker? at h
  cases hpair : s.pairLock with
  | some holder =>
    obtain rfl : holder = job := by simpa [hpair] using h
    have hlock : s.lockOf true = some holder := hpair
    exact hguarded.exists_advance setup hlock
  | none =>
    cases hfailure : s.failureLock with
    | some holder =>
      obtain rfl : holder = job := by simpa [hpair, hfailure] using h
      have hlock : s.lockOf false = some holder := hfailure
      exact hguarded.exists_advance setup hlock
    | none =>
      have hbusy : s.jobs.findIdx? (·.stage.isBusy) = some job := by
        simpa [hpair, hfailure] using h
      obtain ⟨⟨path, stage⟩, hjob, hstage⟩ := exists_of_findIdx? hbusy
      refine exists_advance setup hjob hstage fun e _ => ?_
      unfold State.lock
      split
      · exact hpair
      · exact hfailure

theorem isBusy_of_nextWorker? (h : nextWorker? s = none) :
    ∀ j ∈ s.jobs, j.stage.isBusy = false := by
  unfold nextWorker? at h
  cases hpair : s.pairLock with
  | some holder => simp [hpair] at h
  | none =>
    cases hfailure : s.failureLock with
    | some holder => simp [hpair, hfailure] at h
    | none => simpa [hpair, hfailure] using h

theorem isOver_of_not_busy {stage : Stage} (hbusy : stage.isBusy = false)
    (hqueued : stage.isQueued = false) : stage.isOver = true := by
  cases stage <;> simp_all [Stage.isBusy, Stage.isQueued, Stage.isOver]

theorem isQueued_of_firstQueued?_none (h : s.firstQueued? = none) :
    ∀ j ∈ s.jobs, j.stage.isQueued = false := by
  simpa [State.firstQueued?] using h

end

section

variable {setup : Setup} {paths : List Path} {counted pending : List Nat} {s s' : State}

theorem isDone_of_isOver (hover : ∀ j ∈ s.jobs, j.stage.isOver = true)
    (hcancelled : ∀ i, s.stage? i ≠ some .cancelled) {i : Nat} (hi : i < s.jobs.length) :
    s.isDone i = true := by
  have hjob := List.getElem?_eq_getElem hi
  have hstage := State.stage?_of_getElem? hjob
  have hi' := hover _ (List.getElem_mem hi)
  generalize s.jobs[i].stage = stage at hstage hi'
  cases stage with
  | done r => exact isDone_of_stage? hstage
  | cancelled => exact absurd hstage (hcancelled i)
  | _ => cases hi'

/-- When all workers are idle and no file waits for one, the dispatcher may
pick what is in flight. -/
theorem Dispatched.pickable (h : Dispatched setup paths counted pending s)
    (hphase : s.phase = .dispatching) (hpicked : s.picked = []) (hne : s.inFlight ≠ [])
    (hover : ∀ j ∈ s.jobs, j.stage.isOver = true) : Pickable s s.inFlight := by
  obtain ⟨hpending, -⟩ := h.dispatching hphase
  rw [hpicked, List.append_nil] at hpending
  have hcancelled : ∀ i, s.stage? i ≠ some .cancelled := by
    intro i hi
    obtain ⟨stop, hstop | hstop⟩ := h.cancelled i hi <;> rw [hphase] at hstop <;> cases hstop
  refine ⟨hne, hpending.nodup_iff.mp h.pending_nodup, fun _ hi => hi, fun i hi => ?_⟩
  refine isDone_of_isOver hover hcancelled ?_
  have hmem : i ∈ counted ++ pending := by
    rw [List.mem_append]
    exact .inr (hpending.mem_iff.mpr hi)
  simpa using h.once.mem_iff.mp hmem

theorem exists_count (h : Dispatched setup paths counted pending s) {job : Nat} {rest : List Nat}
    (hpicked : s.picked = job :: rest) : ∃ s', count setup s = some s' := by
  obtain ⟨r, hr⟩ := exists_of_isDone (h.pickedDone job (by simp [hpicked]))
  simp only [count, hpicked, hr]
  cases r with
  | ok accepted => exact ⟨_, rfl⟩
  | error stop => exact ⟨_, rfl⟩

theorem exists_pick (h : Dispatched setup paths counted pending s)
    (hphase : s.phase = .dispatching) (hpicked : s.picked = [])
    (hfull : s.waiting ≠ [] → setup.options.workers ≤ s.inFlight.length)
    (hover : ∀ j ∈ s.jobs, j.stage.isOver = true) : ∃ s', pick setup s s.inFlight = some s' := by
  have hworkers := setup.options.workers_pos
  have hne : s.inFlight ≠ [] := by
    by_cases hwaiting : s.waiting = []
    · exact (h.dispatching hphase).2 hwaiting
    · have hle := hfull hwaiting
      rintro hnil
      rw [hnil, List.length_nil] at hle
      omega
  have hmay := mayPick_iff.mpr (h.pickable hphase hpicked hne hover)
  by_cases hwaiting : s.waiting = []
  · simp [pick, hphase, hpicked, hmay, hwaiting]
  · simp [pick, hphase, hpicked, hmay, hwaiting, hfull hwaiting]

theorem exists_finish (hphase : s.phase ≠ .dispatching) (hpicked : s.picked = [])
    (hnot : ∀ r, s.phase ≠ .ended r) (hover : ∀ j ∈ s.jobs, j.stage.isOver = true) :
    ∃ s', finish s = some s' := by
  have hresult : ∃ r, result? s = some r := by
    unfold result?
    cases hp : s.phase with
    | dispatching => exact absurd hp hphase
    | draining => simp [hpicked]
    | stopping stop => exact ⟨_, rfl⟩
    | ended r => exact absurd hp (hnot r)
  obtain ⟨r, hr⟩ := hresult
  rw [finish, if_pos (List.all_eq_true.mpr hover), hr]
  exact ⟨_, rfl⟩

/-- The move of a worker that can go on, or that has a file to start with. -/
def workerMove? (s : State) : Option Move :=
  match nextWorker? s, s.firstQueued? with
  | some job, _ => some (.advance job)
  | none, some _ => some .start
  | none, none => none

theorem exists_step_workerMove? (hguarded : Guarded s) {m : Move} (h : workerMove? s = some m) :
    ∃ s', step setup s m = some s' := by
  unfold workerMove? at h
  cases hworker : nextWorker? s with
  | some job =>
    rw [hworker] at h
    cases h
    exact exists_advance_nextWorker? hguarded setup hworker
  | none =>
    cases hfirst : s.firstQueued? with
    | some job =>
      rw [hworker, hfirst] at h
      cases h
      have hbusy : s.busy = 0 := by simpa [State.busy] using isBusy_of_nextWorker? hworker
      have hroom : s.busy < setup.options.workers := by
        rw [hbusy]
        exact setup.options.workers_pos
      simp [step, start, hroom, hfirst]
    | none =>
      rw [hworker, hfirst] at h
      cases h

theorem isOver_of_workerMove? (h : workerMove? s = none) : ∀ j ∈ s.jobs, j.stage.isOver = true := by
  unfold workerMove? at h
  split at h
  · cases h
  · cases h
  · rename_i hworker hfirst
    intro j hj
    exact isOver_of_not_busy (isBusy_of_nextWorker? hworker j hj)
      (isQueued_of_firstQueued?_none hfirst j hj)

theorem nextMove_of_dispatching (setup : Setup) (hphase : s.phase = .dispatching)
    (hpicked : s.picked = []) :
    nextMove setup s = if s.waiting ≠ [] ∧ s.inFlight.length < setup.options.workers then .submit
      else (workerMove? s).getD (.pick s.inFlight) := by
  simp only [nextMove, hpicked, hphase, workerMove?]
  cases nextWorker? s <;> cases s.firstQueued? <;> simp

theorem nextMove_of_not_dispatching (setup : Setup) (hphase : s.phase ≠ .dispatching)
    (hpicked : s.picked = []) : nextMove setup s = (workerMove? s).getD .finish := by
  simp only [nextMove, hpicked, workerMove?]
  cases hp : s.phase with
  | dispatching => exact absurd hp hphase
  | _ => cases nextWorker? s <;> cases s.firstQueued? <;> simp

/-- Until a batch has ended, the move that is made without a schedule is
possible. -/
theorem exists_step_nextMove (h : Dispatched setup paths counted pending s) (hguarded : Guarded s)
    (hnot : ∀ r, s.phase ≠ .ended r) : ∃ s', step setup s (nextMove setup s) = some s' := by
  cases hpicked : s.picked with
  | cons job rest =>
    simp only [nextMove, hpicked]
    exact exists_count h hpicked
  | nil =>
    by_cases hphase : s.phase = .dispatching
    · rw [nextMove_of_dispatching setup hphase hpicked]
      by_cases hsubmit : s.waiting ≠ [] ∧ s.inFlight.length < setup.options.workers
      · rw [if_pos hsubmit]
        cases hrest : s.waiting with
        | nil => exact absurd hrest hsubmit.1
        | cons path rest => simp [step, submit, hphase, hrest, hpicked, hsubmit.2]
      · rw [if_neg hsubmit]
        cases hworker : workerMove? s with
        | some m => exact exists_step_workerMove? hguarded hworker
        | none =>
          refine exists_pick h hphase hpicked (fun hwaiting => ?_) (isOver_of_workerMove? hworker)
          exact Nat.le_of_not_lt fun hroom => hsubmit ⟨hwaiting, hroom⟩
    · rw [nextMove_of_not_dispatching setup hphase hpicked]
      cases hworker : workerMove? s with
      | some m => exact exists_step_workerMove? hguarded hworker
      | none => exact exists_finish hphase hpicked hnot (isOver_of_workerMove? hworker)

/-! ## The end -/

/-- What every step keeps holds after a schedule. -/
theorem run_induction {P : State → Prop} (hstep : ∀ s s', P s → Step setup s s' → P s')
    (schedule : List Move) (h : P s) : P (run setup s schedule) := by
  induction schedule generalizing s with
  | nil => exact h
  | cons m schedule ih =>
    show P (run setup ((step setup s m).getD s) schedule)
    refine ih ?_
    cases hm : step setup s m with
    | none => exact h
    | some s' => exact hstep s s' h (step_of_eq_some hm)

/-- What every step keeps holds at the end of a batch. -/
theorem completeWithin_induction {P : State → Prop} (hstep : ∀ s s', P s → Step setup s s' → P s')
    (fuel : Nat) (h : P s) : P (completeWithin setup fuel s) := by
  induction fuel generalizing s with
  | zero => exact h
  | succ fuel ih =>
    rw [completeWithin]
    cases hm : step setup s (nextMove setup s) with
    | none => exact h
    | some s' => exact ih (hstep s s' h (step_of_eq_some hm))

/-- A batch has ended after as many moves as the bound says. -/
theorem completeWithin_ended (h : Dispatched setup paths counted pending s)
    (hguarded : Guarded s) {fuel : Nat} (hfuel : remaining s ≤ fuel) :
    ∃ r, (completeWithin setup fuel s).phase = .ended r := by
  induction fuel generalizing s counted pending with
  | zero =>
    rw [completeWithin]
    rw [remaining_eq] at hfuel
    cases hphase : s.phase with
    | ended r => exact ⟨r, rfl⟩
    | _ => simp [hphase, Phase.remaining] at hfuel
  | succ fuel ih =>
    rw [completeWithin]
    cases hm : step setup s (nextMove setup s) with
    | none =>
      cases hphase : s.phase with
      | ended r => exact ⟨r, rfl⟩
      | _ =>
        obtain ⟨s', hs'⟩ := exists_step_nextMove h hguarded (by simp [hphase])
        rw [hm] at hs'
        cases hs'
    | some s' =>
      have hstep := step_of_eq_some hm
      obtain ⟨counted', pending', h'⟩ := h.step hstep
      have hlt := hstep.remaining_lt fun r hr => (h.ended r hr).1
      exact ih h' (hguarded.step hstep) (by omega)

end
end SyntaxCorpus.Batch
