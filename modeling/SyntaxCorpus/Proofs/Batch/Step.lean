/-
SyntaxCorpus.Proofs.Batch.Step — what a move of a batch can do.

* `WorkerStep` — the steps of the worker of one file: from which stage to
  which, and what else changes.
* `Step` — the steps of a batch: those of a worker, and those of the
  dispatcher.
* `step_of_eq_some` — a move that is possible is one of them. Everything about
  moves is proved from this, case by case, and no other theorem looks into the
  definition of a move.
-/
import SyntaxCorpus.Batch.Run

namespace SyntaxCorpus.Batch

/-! ## Stages -/

namespace State

variable {s : State} {i j : Nat} {stage : Stage}

theorem stage?_eq_some : s.stage? i = some stage ↔ ∃ path, s.jobs[i]? = some ⟨path, stage⟩ := by
  rw [stage?, Option.map_eq_some_iff]
  constructor
  · rintro ⟨⟨path, _⟩, hjob, rfl⟩
    exact ⟨path, hjob⟩
  · rintro ⟨path, hjob⟩
    exact ⟨_, hjob, rfl⟩

theorem stage?_of_getElem? {path : Path} (h : s.jobs[i]? = some ⟨path, stage⟩) :
    s.stage? i = some stage :=
  stage?_eq_some.mpr ⟨path, h⟩

theorem getElem?_setStage (s : State) (j : Nat) (stage : Stage) (i : Nat) :
    (s.setStage j stage).jobs[i]? = s.jobs[i]?.map fun job =>
      if i = j then { job with stage := stage } else job := by
  rw [setStage, List.getElem?_modify]
  by_cases h : i = j
  · simp [h]
  · simp [h, Ne.symm h]

theorem stage?_setStage_self (h : s.stage? j ≠ none) :
    (s.setStage j stage).stage? j = some stage := by
  rw [stage?, getElem?_setStage]
  cases hjob : s.jobs[j]? with
  | none => rw [stage?, hjob] at h; exact absurd rfl h
  | some job => simp

theorem stage?_setStage_ne (h : i ≠ j) : (s.setStage j stage).stage? i = s.stage? i := by
  rw [stage?, stage?, getElem?_setStage]
  cases s.jobs[i]? with
  | none => rfl
  | some job => simp [h]

theorem map_path_setStage (s : State) (j : Nat) (stage : Stage) :
    (s.setStage j stage).jobs.map (·.path) = s.jobs.map (·.path) := by
  refine List.ext_getElem? fun i => ?_
  rw [List.getElem?_map, List.getElem?_map, getElem?_setStage]
  cases s.jobs[i]? with
  | none => rfl
  | some job =>
    simp only [Option.map_some]
    split <;> rfl

end State

/-! ## Steps -/

/-- A step of the worker of a file: the stages before and after it, and the
state with everything but the stage changed. -/
inductive WorkerStep (setup : Setup) (s : State) (job : Nat) (path : Path) :
    Stage → Stage → State → Prop
  | start (hroom : s.busy < setup.options.workers) (hfirst : s.firstQueued? = some job) :
      WorkerStep setup s job path .queued .running s
  | work {e events} (hwork : workOut setup s.files path = (.ok e, events)) :
      WorkerStep setup s job path .running (.ready e) (s.note events)
  | fail {stop events} (hwork : workOut setup s.files path = (.error stop, events)) :
      WorkerStep setup s job path .running (.done (.error stop)) (s.note events)
  | lock {e} (hfree : s.lock e = none) :
      WorkerStep setup s job path (.ready e) (.locked e) (s.setLock e (some job))
  | writeDocument (shown document) :
      WorkerStep setup s job path (.locked (.pair shown document)) (.halfWritten shown document)
        (s.setSinks (s.sinks.writeDocument s.files document))
  | writePath (shown document) :
      WorkerStep setup s job path (.halfWritten shown document) (.written (.pair shown document))
        (s.setSinks (s.sinks.writePath s.files shown))
  | writeFailure (shown reason) :
      WorkerStep setup s job path (.locked (.failure shown reason))
        (.written (.failure shown reason))
        (s.setSinks (s.sinks.writeFailure s.files shown reason))
  | unlock (e) :
      WorkerStep setup s job path (.written e) (.done (.ok e.isPair)) (s.setLock e none)

/-- The files that the dispatcher may pick: each of them once, in flight, and
done. -/
structure Pickable (s : State) (jobs : List Nat) : Prop where
  ne_nil : jobs ≠ []
  nodup : jobs.Nodup
  inFlight : ∀ job ∈ jobs, job ∈ s.inFlight
  isDone : ∀ job ∈ jobs, s.isDone job = true

/-- A step of a batch. -/
inductive Step (setup : Setup) (s : State) : State → Prop
  | worker {job path before after s₁} (hjob : s.jobs[job]? = some ⟨path, before⟩)
      (hstep : WorkerStep setup s job path before after s₁) : Step setup s (s₁.setStage job after)
  | submit {path rest} (hphase : s.phase = .dispatching) (hwaiting : s.waiting = path :: rest)
      (hpicked : s.picked = []) (hroom : s.inFlight.length < setup.options.workers) :
      Step setup s { s with
        waiting := rest
        jobs := s.jobs ++ [⟨path, .queued⟩]
        inFlight := s.inFlight ++ [s.jobs.length] }
  | pickSome {jobs} (hphase : s.phase = .dispatching) (hpicked : s.picked = [])
      (hwaiting : s.waiting ≠ []) (hfull : setup.options.workers ≤ s.inFlight.length)
      (hpick : Pickable s jobs) :
      Step setup s { s with
        picked := jobs
        inFlight := s.inFlight.filter fun job => !jobs.contains job }
  | pickAll {jobs} (hphase : s.phase = .dispatching) (hpicked : s.picked = [])
      (hwaiting : s.waiting = []) (hall : jobs.length = s.inFlight.length)
      (hpick : Pickable s jobs) :
      Step setup s { s with phase := .draining, picked := jobs }
  | count {job rest accepted} (hpicked : s.picked = job :: rest)
      (hdone : s.stage? job = some (.done (.ok accepted))) :
      Step setup s ({ s with tally := s.tally.add accepted, picked := rest }.note
        (((s.tally.add accepted).progress setup.options.progressInterval).map .log))
  | stop {job rest stop} (hpicked : s.picked = job :: rest)
      (hdone : s.stage? job = some (.done (.error stop))) : Step setup s (stopAt s stop)
  | finish {r} (hover : ∀ job ∈ s.jobs, job.stage.isOver = true) (hresult : result? s = some r) :
      Step setup s { s with files := s.sinks.close s.files, phase := .ended r }

/-! ## Stops -/

/-- What a stop changes: no more files are picked, and some of those that no
worker has started with may be cancelled. -/
theorem stopAt_eq (s : State) (stop : FileStop) :
    ∃ jobs events, stopAt s stop
        = { s with phase := .stopping stop, picked := [], jobs := jobs, events := events } ∧
      (jobs = s.jobs ∨ jobs = cancelQueued s.jobs) := by
  cases stop with
  | interrupted text => exact ⟨_, _, rfl, .inr rfl⟩
  | invalidTree ps => exact ⟨_, _, rfl, .inl rfl⟩
  | nullCharacter => exact ⟨_, _, rfl, .inl rfl⟩
  | escaped raised => exact ⟨_, _, rfl, .inl rfl⟩

theorem map_path_cancelQueued (jobs : List Job) :
    (cancelQueued jobs).map (·.path) = jobs.map (·.path) := by
  rw [cancelQueued, List.map_map]
  refine List.map_congr_left fun job _ => ?_
  rw [Function.comp_apply]
  split <;> rfl

theorem getElem?_cancelQueued {jobs : List Job} {i : Nat} {job : Job} (hi : jobs[i]? = some job)
    (hqueued : job.stage.isQueued = false) : (cancelQueued jobs)[i]? = some job := by
  rw [cancelQueued, List.getElem?_map, hi, Option.map_some, hqueued]
  rfl

/-! ## Moves that are possible -/

theorem mayPick_iff {s : State} {jobs : List Nat} : mayPick s jobs = true ↔ Pickable s jobs := by
  simp only [mayPick, Bool.and_eq_true, Bool.not_eq_true', List.isEmpty_eq_false_iff,
    decide_eq_true_eq, List.all_eq_true, List.contains_iff_mem]
  constructor
  · rintro ⟨⟨hne, hnodup⟩, hall⟩
    exact ⟨hne, hnodup, fun job hjob => (hall job hjob).1, fun job hjob => (hall job hjob).2⟩
  · rintro ⟨hne, hnodup, hin, hdone⟩
    exact ⟨⟨hne, hnodup⟩, fun job hjob => ⟨hin job hjob, hdone job hjob⟩⟩

section

variable {setup : Setup} {s s' : State}

theorem step_of_advance {job : Nat} (h : advance setup s job = some s') : Step setup s s' := by
  unfold advance at h
  split at h
  · cases h
  · rename_i path stage hjob
    split at h
    · split at h <;> rename_i hwork <;> cases h
      · exact .worker hjob (.work hwork)
      · exact .worker hjob (.fail hwork)
    · split at h
      · rename_i hfree
        cases h
        exact .worker hjob (.lock (Option.isNone_iff_eq_none.mp hfree))
      · cases h
    · cases h
      exact .worker hjob (.writeDocument _ _)
    · cases h
      exact .worker hjob (.writeFailure _ _)
    · cases h
      exact .worker hjob (.writePath _ _)
    · cases h
      exact .worker hjob (.unlock _)
    · cases h
    · cases h
    · cases h

theorem step_of_submit (h : submit setup s = some s') : Step setup s s' := by
  unfold submit at h
  split at h
  · rename_i hphase hwaiting
    split at h
    · rename_i hroom
      rw [Bool.and_eq_true, List.isEmpty_iff, decide_eq_true_eq] at hroom
      cases h
      exact .submit hphase hwaiting hroom.1 hroom.2
    · cases h
  · cases h

theorem isQueued_of_firstQueued? {job : Nat} (h : s.firstQueued? = some job) :
    ∃ path, s.jobs[job]? = some ⟨path, .queued⟩ := by
  obtain ⟨hlt, hqueued, -⟩ := List.findIdx?_eq_some_iff_getElem.mp h
  generalize hjob : s.jobs[job] = j at hqueued
  obtain ⟨path, stage⟩ := j
  cases stage with
  | queued => exact ⟨path, by rw [List.getElem?_eq_getElem hlt, hjob]⟩
  | _ => cases hqueued

theorem step_of_start (h : start setup s = some s') : Step setup s s' := by
  unfold start at h
  split at h
  · rename_i hroom
    obtain ⟨job, hfirst, rfl⟩ := Option.map_eq_some_iff.mp h
    obtain ⟨path, hjob⟩ := isQueued_of_firstQueued? hfirst
    exact .worker hjob (.start hroom hfirst)
  · cases h

theorem step_of_pick {jobs : List Nat} (h : pick setup s jobs = some s') : Step setup s s' := by
  unfold pick at h
  split at h
  · rename_i hphase
    split at h
    · rename_i hmay
      rw [Bool.and_eq_true, List.isEmpty_iff] at hmay
      obtain ⟨hpicked, hmay⟩ := hmay
      have hpick := mayPick_iff.mp hmay
      split at h
      · rename_i hwaiting
        split at h
        · rename_i hall
          cases h
          exact .pickAll hphase hpicked (List.isEmpty_iff.mp hwaiting) (eq_of_beq hall) hpick
        · cases h
      · rename_i hwaiting
        split at h
        · rename_i hfull
          cases h
          exact .pickSome hphase hpicked (fun hnil => hwaiting (List.isEmpty_iff.mpr hnil)) hfull
            hpick
        · cases h
    · cases h
  · cases h

theorem step_of_count (h : count setup s = some s') : Step setup s s' := by
  unfold count at h
  split at h
  · cases h
  · rename_i hpicked
    split at h
    · rename_i hdone
      cases h
      exact .count hpicked hdone
    · rename_i hdone
      cases h
      exact .stop hpicked hdone
    · cases h

theorem step_of_finish (h : finish s = some s') : Step setup s s' := by
  unfold finish at h
  split at h
  · rename_i hover
    obtain ⟨r, hresult, rfl⟩ := Option.map_eq_some_iff.mp h
    exact .finish (fun job hjob => List.all_eq_true.mp hover job hjob) hresult
  · cases h

/-- A move that is possible is a step. -/
theorem step_of_eq_some {m : Move} (h : step setup s m = some s') : Step setup s s' := by
  cases m with
  | submit => exact step_of_submit h
  | start => exact step_of_start h
  | advance job => exact step_of_advance h
  | pick jobs => exact step_of_pick h
  | count => exact step_of_count h
  | finish => exact step_of_finish h

end

end SyntaxCorpus.Batch
