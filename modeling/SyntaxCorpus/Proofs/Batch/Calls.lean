/-
SyntaxCorpus.Proofs.Batch.Calls — the calls that workers make to write.

A worker makes one call for its file, when it knows what to write. What it
works out may differ from one moment to the next, as files change; the calls
are therefore recorded as they are made. A batch may also be interrupted from
outside, at any moment at which it hands out files or counts them.

* `Reached` — the states that a batch can come to, with the calls made so far.
* `exists_reached_complete` — every schedule leads to such a state.
* `Settled` — nothing is picked once a batch stops, and no worker is busy when
  it has ended.
* `Traced` — what holds of a state and its calls; `Reached.traced`.
-/
import Mathlib.Logic.Function.Basic
import SyntaxCorpus.Proofs.Batch.Run

namespace SyntaxCorpus.Batch

/-! ## States with their calls -/

/-- A call of a worker to write: its file, and what it writes. -/
abbrev Call := Nat × Entry

/-- The calls that the worker of a file makes with a step to a stage. -/
def callsAt (job : Nat) : Stage → List Call
  | .ready e => [(job, e)]
  | _ => []

/-- The states that a batch can come to from a state, with the calls that were
made on the way, in the order in which they were made. -/
inductive Reached (setup : Setup) (start : State) : List Call → State → Prop
  | start : Reached setup start [] start
  | worker {calls s job path before after s₁} (h : Reached setup start calls s)
      (hjob : s.jobs[job]? = some ⟨path, before⟩)
      (hstep : WorkerStep setup s job path before after s₁) :
      Reached setup start (calls ++ callsAt job after) (s₁.setStage job after)
  | dispatcher {calls s s'} (h : Reached setup start calls s) (hstep : Step setup s s')
      (hsame : Undisturbed s s') : Reached setup start calls s'
  /-- An interrupt from outside, while files are handed out or counted. -/
  | interrupt {calls s} (text) (h : Reached setup start calls s)
      (hphase : s.phase = .dispatching ∨ s.phase = .draining) :
      Reached setup start calls (stopAt s (.interrupted text))

section

variable {setup : Setup} {start s s' : State} {calls : List Call}

theorem Reached.step (h : Reached setup start calls s) (hstep : Step setup s s') :
    ∃ calls', Reached setup start calls' s' := by
  rcases hstep.worker_or_undisturbed with ⟨job, path, before, after, s₁, hjob, hworker, rfl⟩ | hsame
  · exact ⟨_, h.worker hjob hworker⟩
  · exact ⟨_, h.dispatcher hstep hsame⟩

/-- Every schedule leads to such a state, and so does its end. -/
theorem exists_reached_complete (setup : Setup) (start : State) (schedule : List Move) :
    ∃ calls, Reached setup start calls (complete setup (run setup start schedule)) := by
  have hstep : ∀ s s', (∃ calls, Reached setup start calls s) → Step setup s s' →
      ∃ calls, Reached setup start calls s' := by
    rintro s s' ⟨calls, h⟩ hstep
    exact h.step hstep
  have hrun := run_induction hstep schedule ⟨[], Reached.start⟩
  exact completeWithin_induction hstep _ hrun

/-! ## Phases -/

/-- Nothing is picked once a batch stops, and when it has ended, no file is
left. -/
structure Settled (s : State) : Prop where
  stopping : ∀ stop, s.phase = .stopping stop → s.picked = []
  ended : ∀ r, s.phase = .ended r → s.picked = [] ∧ ∀ j ∈ s.jobs, j.stage.isOver = true

theorem settled_initial (files : FileSystem) (sinks : Sinks) (paths : List Path) :
    Settled (initial files sinks paths) := by
  constructor
  · intro stop hstop
    cases hstop
  · intro r hr
    cases hr

theorem settled_of_phase (h : s.phase = .dispatching ∨ s.phase = .draining) : Settled s := by
  constructor
  · intro stop hstop
    rw [hstop] at h
    rcases h with h | h <;> cases h
  · intro r hr
    rw [hr] at h
    rcases h with h | h <;> cases h

theorem settled_stopAt (s : State) (stop : FileStop) : Settled (stopAt s stop) := by
  obtain ⟨jobs, events, heq, -⟩ := stopAt_eq s stop
  rw [heq]
  constructor
  · intro _ _
    rfl
  · intro r hr
    cases hr

namespace Settled

/-- A worker that takes a step is not done, so the batch has not ended. -/
theorem not_ended (h : Settled s) {job : Nat} {path : Path} {before after : Stage} {s₁ : State}
    (hjob : s.jobs[job]? = some ⟨path, before⟩)
    (hstep : WorkerStep setup s job path before after s₁) : ∀ r, s.phase ≠ .ended r := by
  intro r hr
  have hover := (h.ended r hr).2 _ (List.mem_of_getElem? hjob)
  rw [hstep.isOver_before] at hover
  cases hover

/-- When a batch has ended, every file is at its last stage. -/
theorem isOver_of_stage? (h : Settled s) {r : Except FileStop Unit} (hr : s.phase = .ended r)
    {i : Nat} {stage : Stage} (hstage : s.stage? i = some stage) : stage.isOver = true := by
  obtain ⟨path, hjob⟩ := State.stage?_eq_some.mp hstage
  exact (h.ended r hr).2 _ (List.mem_of_getElem? hjob)

theorem phase_of_picked (h : Settled s) {job : Nat} {rest : List Nat}
    (hpicked : s.picked = job :: rest) : s.phase = .dispatching ∨ s.phase = .draining := by
  cases hphase : s.phase with
  | dispatching => exact .inl rfl
  | draining => exact .inr rfl
  | stopping stop =>
    rw [h.stopping stop hphase] at hpicked
    cases hpicked
  | ended r =>
    rw [(h.ended r hphase).1] at hpicked
    cases hpicked

theorem worker (h : Settled s) {job : Nat} {path : Path} {before after : Stage} {s₁ : State}
    (hjob : s.jobs[job]? = some ⟨path, before⟩)
    (hstep : WorkerStep setup s job path before after s₁) : Settled (s₁.setStage job after) := by
  have hphase : (s₁.setStage job after).phase = s.phase := hstep.sameDispatch.phase
  have hpicked : (s₁.setStage job after).picked = s.picked := hstep.sameDispatch.picked
  constructor
  · intro stop hstop
    rw [hphase] at hstop
    rw [hpicked, h.stopping stop hstop]
  · intro r hr
    rw [hphase] at hr
    exact absurd hr (h.not_ended hjob hstep r)

theorem step (h : Settled s) (hstep : Step setup s s') : Settled s' := by
  cases hstep with
  | worker hjob hworker => exact h.worker hjob hworker
  | submit hphase _ _ _ => exact settled_of_phase (.inl hphase)
  | pickSome hphase _ _ _ _ => exact settled_of_phase (.inl hphase)
  | pickAll _ _ _ _ _ => exact settled_of_phase (.inr rfl)
  | count hpicked _ => exact settled_of_phase (h.phase_of_picked hpicked)
  | stop _ _ => exact settled_stopAt s _
  | finish hover hresult =>
    have hnil : s.picked = [] := by
      unfold result? at hresult
      split at hresult
      · split at hresult
        · rename_i hpicked
          exact List.isEmpty_iff.mp hpicked
        · cases hresult
      · rename_i stop hphase
        exact h.stopping stop hphase
      · cases hresult
    constructor
    · intro stop hstop
      cases hstop
    · intro _ _
      exact ⟨hnil, hover⟩

end Settled

/-! ## What holds of a state and its calls -/

/-- Whether the worker of a file has made its call. -/
def Stage.hasCalled : Stage → Bool
  | ready _ | locked _ | halfWritten .. | written _ | done (.ok _) => true
  | _ => false

/-- What holds of a state and its calls; `entry` is what each worker works
out. -/
structure Traced (setup : Setup) (paths : List Path) (opened : FileSystem)
    (locations : List Location) (calls : List Call) (entry : Nat → Except FileStop Entry)
    (s : State) : Prop where
  handedOut : s.jobs.map (·.path) ++ s.waiting = paths
  settled : Settled s
  guarded : Guarded s
  agreed : Agreed entry s
  framed : Framed opened locations s
  /-- A worker makes one call. -/
  once : (calls.map Prod.fst).Nodup
  mem : ∀ i e, (i, e) ∈ calls ↔ s.isAt Stage.hasCalled i = true ∧ entry i = .ok e
  /-- It is a call for the file at its place among all files. -/
  madeAt : ∀ c ∈ calls, ∃ p, paths[c.1]? = some p ∧ Writes setup opened p c.2
  logged : locations.Nodup → ∃ log half, Logged entry log half s

theorem handedOut_stopAt (s : State) (stop : FileStop) :
    (stopAt s stop).jobs.map (·.path) ++ (stopAt s stop).waiting
      = s.jobs.map (·.path) ++ s.waiting := by
  obtain ⟨jobs, events, heq, rfl | rfl⟩ := stopAt_eq s stop
  · rw [heq]
  · rw [heq]
    simp only [map_path_cancelQueued]

/-- The files are handed out in their order. -/
theorem Step.handedOut (h : Step setup s s') :
    s'.jobs.map (·.path) ++ s'.waiting = s.jobs.map (·.path) ++ s.waiting := by
  cases h with
  | worker _ hworker =>
    have hsame := hworker.sameDispatch
    rw [State.map_path_setStage, hsame.jobs]
    exact congrArg _ hsame.waiting
  | submit _ hwaiting _ _ => simp [hwaiting]
  | pickSome _ _ _ _ _ => rfl
  | pickAll _ _ _ _ _ => rfl
  | count _ _ => rfl
  | stop _ _ => exact handedOut_stopAt s _
  | finish _ _ => rfl

/-- The worker of a file has made its call before a step or makes it with the
step, if it has made it after the step. -/
theorem WorkerStep.hasCalled_iff {job : Nat} {path : Path} {before after : Stage} {s₁ : State}
    {result : Except FileStop Entry} (h : WorkerStep setup s job path before after s₁)
    (hafter : after.Agrees result) (e : Entry) :
    (before.hasCalled = true ∧ result = .ok e) ∨ (job, e) ∈ callsAt job after ↔
      after.hasCalled = true ∧ result = .ok e := by
  cases h with
  | work _ =>
    have hresult : result = .ok _ := hafter
    simp [callsAt, Stage.hasCalled, hresult, eq_comm]
  | _ => simp [callsAt, Stage.hasCalled]

/-- A file at whose stage there is an entry has one. -/
theorem Stage.Agrees.exists_entry {stage : Stage} {result : Except FileStop Entry}
    (h : stage.Agrees result) (hstage : stage.hasCalled = true) : ∃ e, result = .ok e := by
  cases stage with
  | ready e => exact ⟨e, h⟩
  | locked e => exact ⟨e, h⟩
  | halfWritten path document => exact ⟨_, h⟩
  | written e => exact ⟨e, h⟩
  | done done =>
    cases done with
    | error stop => cases hstage
    | ok accepted =>
      cases result with
      | ok e => exact ⟨e, rfl⟩
      | error stop => cases h
  | _ => cases hstage

theorem hasCalled_of_isIdle (stage : Stage) (h : stage.isIdle = true) :
    stage.hasCalled = false := by
  cases stage <;> first | rfl | cases h

/-- The account is not about a file whose worker is still working it out. -/
theorem Logged.update {entry : Nat → Except FileStop Entry} {log : List Nat} {half : Option Nat}
    {job : Nat} {path : Path} (h : Logged entry log half s)
    (hjob : s.jobs[job]? = some ⟨path, .running⟩) (result : Except FileStop Entry) :
    Logged (Function.update entry job result) log half s := by
  refine h.congr fun i hi => Function.update_of_ne ?_ _ _
  rintro rfl
  rw [List.mem_append, Option.mem_toList] at hi
  rcases hi with hi | hi
  · exact h.not_mem hjob rfl hi
  · rw [h.between, isAt_of_stage? (State.stage?_of_getElem? hjob)] at hi
    cases hi

namespace Traced

variable {paths : List Path} {opened : FileSystem} {locations : List Location}
  {entry : Nat → Except FileStop Entry} {job : Nat} {path : Path} {before after : Stage}
  {s₁ : State}

theorem initial {p : SinkPaths} {sinks : Sinks} (setup : Setup)
    (hopen : Sinks.open_ files p = (.ok sinks, opened)) (paths : List Path)
    (entry : Nat → Except FileStop Entry) :
    Traced setup paths opened sinks.locations [] entry (initial opened sinks paths) where
  handedOut := rfl
  settled := settled_initial opened sinks paths
  guarded := guarded_initial opened sinks paths
  agreed := agreed_initial opened sinks paths
  framed := framed_initial (Sinks.haveFiles_iff.mpr (Sinks.frame_open hopen).isFile) paths
  once := List.nodup_nil
  mem := fun i e => by simp [State.isAt, State.stage?, Batch.initial]
  madeAt := by simp
  logged := fun hdistinct => ⟨_, _, logged_initial (Sinks.hold_open hopen hdistinct) paths⟩

/-- What a worker works out is open until it does. -/
theorem update (h : Traced setup paths opened locations calls entry s)
    (hjob : s.jobs[job]? = some ⟨path, .running⟩) (result : Except FileStop Entry) :
    Traced setup paths opened locations calls (Function.update entry job result) s := by
  have hstage := State.stage?_of_getElem? hjob
  refine ⟨h.handedOut, h.settled, h.guarded, fun i stage hi => ?_, h.framed, h.once,
    fun i e => ?_, h.madeAt, fun hdistinct => ?_⟩
  · by_cases heq : i = job
    · rw [heq, hstage] at hi
      obtain rfl := Option.some.inj hi
      trivial
    · rw [Function.update_of_ne heq]
      exact h.agreed i stage hi
  · rw [h.mem]
    by_cases heq : i = job
    · rw [heq, isAt_of_stage? hstage]
      simp [Stage.hasCalled]
    · rw [Function.update_of_ne heq]
  · obtain ⟨log, half, hlog⟩ := h.logged hdistinct
    exact ⟨log, half, hlog.update hjob result⟩

theorem nodup_locations (h : Traced setup paths opened locations calls entry s)
    (hdistinct : locations.Nodup) : s.sinks.locations.Nodup := by
  rw [h.framed.sinks]
  exact hdistinct

/-- A worker that has made its call does not make it again. -/
theorem once_append (h : Traced setup paths opened locations calls entry s)
    (hjob : s.jobs[job]? = some ⟨path, before⟩)
    (hstep : WorkerStep setup s job path before after s₁) :
    ((calls ++ callsAt job after).map Prod.fst).Nodup := by
  cases hstep with
  | @work e events _ =>
    rw [callsAt, List.map_append]
    refine List.nodup_append.mpr ⟨h.once, List.pairwise_singleton _ _, fun i hi j hj => ?_⟩
    obtain ⟨⟨i, e'⟩, hcall, rfl⟩ := List.mem_map.mp hi
    have hcalled := ((h.mem i e').mp hcall).1
    rintro rfl
    obtain rfl : i = job := by simpa using hj
    rw [isAt_of_stage? (State.stage?_of_getElem? hjob)] at hcalled
    cases hcalled
  | _ =>
    rw [callsAt, List.append_nil]
    · exact h.once
    · intro e heq
      cases heq

theorem mem_append (h : Traced setup paths opened locations calls entry s)
    (hjob : s.jobs[job]? = some ⟨path, before⟩)
    (hstep : WorkerStep setup s job path before after s₁) (hafter : after.Agrees (entry job))
    (i : Nat) (e : Entry) :
    (i, e) ∈ calls ++ callsAt job after ↔
      (s₁.setStage job after).isAt Stage.hasCalled i = true ∧ entry i = .ok e := by
  rw [List.mem_append, h.mem]
  by_cases hi : i = job
  · subst hi
    rw [hstep.isAt_self hjob, isAt_of_stage? (State.stage?_of_getElem? hjob)]
    exact hstep.hasCalled_iff hafter e
  · have hother : (i, e) ∉ callsAt job after := by
      unfold callsAt
      split <;> simp [hi]
    rw [hstep.isAt_of_ne hi]
    simp [hother]

theorem made (h : Traced setup paths opened locations calls entry s) :
    ∀ c ∈ calls, ∃ p ∈ paths, Writes setup opened p c.2 := by
  intro c hc
  obtain ⟨p, hp, hwrites⟩ := h.madeAt c hc
  exact ⟨p, List.mem_of_getElem? hp, hwrites⟩

theorem madeAt_append (h : Traced setup paths opened locations calls entry s)
    (hjob : s.jobs[job]? = some ⟨path, before⟩)
    (hstep : WorkerStep setup s job path before after s₁) :
    ∀ c ∈ calls ++ callsAt job after, ∃ p, paths[c.1]? = some p ∧ Writes setup opened p c.2 := by
  intro c hc
  rcases List.mem_append.mp hc with hc | hc
  · exact h.madeAt c hc
  · cases hstep with
    | @work e events hwork =>
      obtain rfl := List.mem_singleton.mp hc
      have hresult : (workOut setup s.files path).1 = .ok e := by rw [hwork]
      exact ⟨path, getElem?_of_handedOut h.handedOut hjob,
        (workOut_writes hresult).congr h.framed.frame.workingDirectory⟩
    | _ => simp [callsAt] at hc

theorem worker_of_agrees (h : Traced setup paths opened locations calls entry s)
    (hjob : s.jobs[job]? = some ⟨path, before⟩)
    (hstep : WorkerStep setup s job path before after s₁) (hafter : after.Agrees (entry job)) :
    Traced setup paths opened locations (calls ++ callsAt job after) entry
      (s₁.setStage job after) where
  handedOut := (Step.worker hjob hstep).handedOut.trans h.handedOut
  settled := h.settled.worker hjob hstep
  guarded := hstep.guarded hjob h.guarded
  agreed := by
    intro i stage hi
    by_cases heq : i = job
    · subst heq
      rw [hstep.stage?_self hjob] at hi
      obtain rfl := Option.some.inj hi
      exact hafter
    · rw [hstep.stage?_of_ne heq] at hi
      exact h.agreed i stage hi
  framed := hstep.framed h.framed
  once := h.once_append hjob hstep
  mem := h.mem_append hjob hstep hafter
  madeAt := h.madeAt_append hjob hstep
  logged := by
    intro hdistinct
    obtain ⟨log, half, hlog⟩ := h.logged hdistinct
    exact hlog.step h.guarded h.agreed (h.nodup_locations hdistinct) h.settled.ended
      (.worker hjob hstep)

/-- Before a step of a worker, what holds may be told with what the step works
out. -/
theorem exists_agrees (h : Traced setup paths opened locations calls entry s)
    (hjob : s.jobs[job]? = some ⟨path, before⟩)
    (hstep : WorkerStep setup s job path before after s₁) :
    ∃ entry', Traced setup paths opened locations calls entry' s ∧ after.Agrees (entry' job) ∧
      ∀ log half, Logged entry log half s → Logged entry' log half s := by
  by_cases hrunning : before = .running
  · subst hrunning
    have hafter : after.Agrees (workOut setup s.files path).1 := hstep.agrees (fun _ => rfl) trivial
    refine ⟨_, h.update hjob (workOut setup s.files path).1, ?_,
      fun log half hlog => hlog.update hjob _⟩
    rwa [Function.update_self]
  · have hbefore := h.agreed job before (State.stage?_of_getElem? hjob)
    exact ⟨entry, h, hstep.agrees (absurd · hrunning) hbefore, fun _ _ hlog => hlog⟩

/-- A worker's step keeps what holds, for what the worker works out then. -/
theorem worker (h : Traced setup paths opened locations calls entry s)
    (hjob : s.jobs[job]? = some ⟨path, before⟩)
    (hstep : WorkerStep setup s job path before after s₁) :
    ∃ entry', Traced setup paths opened locations (calls ++ callsAt job after) entry'
      (s₁.setStage job after) := by
  obtain ⟨entry', h', hafter, -⟩ := h.exists_agrees hjob hstep
  exact ⟨entry', h'.worker_of_agrees hjob hstep hafter⟩

theorem dispatcher (h : Traced setup paths opened locations calls entry s)
    (hstep : Step setup s s') (hsame : Undisturbed s s') :
    Traced setup paths opened locations calls entry s' where
  handedOut := hstep.handedOut.trans h.handedOut
  settled := h.settled.step hstep
  guarded := h.guarded.of_undisturbed hsame
  agreed := h.agreed.of_undisturbed hsame
  framed := h.framed.step hstep
  once := h.once
  mem := by
    intro i e
    rw [hsame.isAt hasCalled_of_isIdle, h.mem]
  madeAt := h.madeAt
  logged := by
    intro hdistinct
    obtain ⟨log, half, hlog⟩ := h.logged hdistinct
    exact hlog.step h.guarded h.agreed (h.nodup_locations hdistinct) h.settled.ended hstep

/-- An interrupt leaves the workers alone. -/
theorem interrupt (h : Traced setup paths opened locations calls entry s)
    (hphase : s.phase = .dispatching ∨ s.phase = .draining) (stop : FileStop) :
    Traced setup paths opened locations calls entry (stopAt s stop) where
  handedOut := (handedOut_stopAt s stop).trans h.handedOut
  settled := settled_stopAt s stop
  guarded := h.guarded.of_undisturbed (undisturbed_stopAt s stop)
  agreed := h.agreed.of_undisturbed (undisturbed_stopAt s stop)
  framed := h.framed.stopAt stop
  once := h.once
  mem := by
    intro i e
    rw [(undisturbed_stopAt s stop).isAt hasCalled_of_isIdle, h.mem]
  madeAt := h.madeAt
  logged := by
    intro hdistinct
    obtain ⟨log, half, hlog⟩ := h.logged hdistinct
    refine ⟨log, half, hlog.stopAt (fun r hr => ?_) stop⟩
    rw [hr] at hphase
    rcases hphase with hphase | hphase <;> cases hphase

end Traced

/-- Every state that a batch can come to is accounted for. -/
theorem Reached.traced {p : SinkPaths} {sinks : Sinks} {files opened : FileSystem}
    {paths : List Path} (hopen : Sinks.open_ files p = (.ok sinks, opened))
    (h : Reached setup (initial opened sinks paths) calls s) :
    ∃ entry, Traced setup paths opened sinks.locations calls entry s := by
  induction h with
  | start => exact ⟨fun _ => .error .nullCharacter, Traced.initial setup hopen paths _⟩
  | worker _ hjob hstep ih =>
    obtain ⟨entry, h⟩ := ih
    exact h.worker hjob hstep
  | dispatcher _ hstep hsame ih =>
    obtain ⟨entry, h⟩ := ih
    exact ⟨entry, h.dispatcher hstep hsame⟩
  | interrupt text _ hphase ih =>
    obtain ⟨entry, h⟩ := ih
    exact ⟨entry, h.interrupt hphase _⟩

end
end SyntaxCorpus.Batch
