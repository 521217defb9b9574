/-
SyntaxCorpus.Proofs.Batch.Workers — what the workers of a batch keep up.

* `Undisturbed` — the dispatcher leaves the workers alone.
* `Guarded` — a worker has a lock exactly while it writes under it.
* `Agreed` — a file is at no stage that its own result would not bring it to.
* `Framed` — nothing but the outputs is written.

Each of them holds before the first step, and every step keeps it.
-/
import SyntaxCorpus.Proofs.Batch.Dispatch
import SyntaxCorpus.Proofs.Batch.Sinks

namespace SyntaxCorpus.Batch

open FileSystem (Frame)

/-! ## Steps that the workers do not notice -/

/-- Whether no worker has been at a file. -/
def Stage.isIdle : Stage → Bool
  | queued | cancelled => true
  | _ => false

/-- Everything that belongs to the workers is the same. -/
structure Undisturbed (s s' : State) : Prop where
  sinks : s'.sinks = s.sinks
  pairLock : s'.pairLock = s.pairLock
  failureLock : s'.failureLock = s.failureLock
  stage : ∀ i stage, stage.isIdle = false → (s'.stage? i = some stage ↔ s.stage? i = some stage)

section

variable {setup : Setup} {s s' : State}

theorem undisturbed_submit (s : State) (path : Path) (rest : List Path) (inFlight : List Nat) :
    Undisturbed s { s with
      waiting := rest
      jobs := s.jobs ++ [⟨path, .queued⟩]
      inFlight := inFlight } := by
  refine ⟨rfl, rfl, rfl, fun i stage hidle => ?_⟩
  simp only [State.stage?_eq_some]
  refine exists_congr fun q => ?_
  by_cases hlt : i < s.jobs.length
  · rw [List.getElem?_append_left hlt]
  · have hnone : s.jobs[i]? = none := List.getElem?_eq_none (by omega)
    rw [List.getElem?_append_right (by omega), hnone]
    constructor
    · intro hnew
      have hmem := List.mem_of_getElem? hnew
      rw [List.mem_singleton] at hmem
      cases hmem
      cases hidle
    · intro hold
      cases hold

theorem undisturbed_cancelQueued (s : State) (phase : Phase) (picked : List Nat)
    (events : Array Event) :
    Undisturbed s
      { s with
        phase := phase, picked := picked, jobs := cancelQueued s.jobs, events := events } := by
  refine ⟨rfl, rfl, rfl, fun i stage hidle => ?_⟩
  simp only [State.stage?_eq_some]
  refine exists_congr fun q => ?_
  rw [cancelQueued, List.getElem?_map]
  cases hjob : s.jobs[i]? with
  | none => simp
  | some job =>
    obtain ⟨path, old⟩ := job
    cases old with
    | queued =>
      simp only [Option.map_some, Stage.isQueued, if_true, Option.some.injEq, Job.mk.injEq]
      constructor
      · rintro ⟨-, rfl⟩
        cases hidle
      · rintro ⟨-, rfl⟩
        cases hidle
    | _ => rfl

theorem undisturbed_stopAt (s : State) (stop : FileStop) : Undisturbed s (stopAt s stop) := by
  obtain ⟨jobs, events, heq, rfl | rfl⟩ := stopAt_eq s stop
  · rw [heq]
    exact ⟨rfl, rfl, rfl, fun _ _ _ => Iff.rfl⟩
  · rw [heq]
    exact undisturbed_cancelQueued s _ _ _

/-- A step is that of a worker, or the workers do not notice it. -/
theorem Step.worker_or_undisturbed (h : Step setup s s') :
    (∃ job path before after s₁, s.jobs[job]? = some ⟨path, before⟩ ∧
      WorkerStep setup s job path before after s₁ ∧ s' = s₁.setStage job after) ∨
    Undisturbed s s' := by
  cases h with
  | worker hjob hstep => exact .inl ⟨_, _, _, _, _, hjob, hstep, rfl⟩
  | submit _ _ _ _ => exact .inr (undisturbed_submit s _ _ _)
  | pickSome _ _ _ _ _ => exact .inr ⟨rfl, rfl, rfl, fun _ _ _ => Iff.rfl⟩
  | pickAll _ _ _ _ _ => exact .inr ⟨rfl, rfl, rfl, fun _ _ _ => Iff.rfl⟩
  | count _ _ => exact .inr ⟨rfl, rfl, rfl, fun _ _ _ => Iff.rfl⟩
  | stop _ _ => exact .inr (undisturbed_stopAt s _)
  | finish _ _ => exact .inr ⟨rfl, rfl, rfl, fun _ _ _ => Iff.rfl⟩

/-! ## Locks -/

/-- The lock that the worker of a file has at a stage: `true` stands for the
lock for pairs of lines. -/
def Stage.holding : Stage → Option Bool
  | locked e | written e => some e.isPair
  | halfWritten .. => some true
  | _ => none

/-- The holder of a lock. -/
def State.lockOf (s : State) (pair : Bool) : Option Nat :=
  if pair then s.pairLock else s.failureLock

theorem lockOf_setLock (s : State) (e : Entry) (holder : Option Nat) (pair : Bool) :
    (s.setLock e holder).lockOf pair = if pair = e.isPair then holder else s.lockOf pair := by
  unfold State.setLock
  cases hpair : e.isPair <;> cases pair <;> rfl

/-- What the worker of a file has a lock for. -/
def State.holds (s : State) (job : Nat) : Option Bool := (s.stage? job).bind Stage.holding

/-- A lock is with the file that is written under it. -/
def Guarded (s : State) : Prop :=
  ∀ (pair : Bool) (job : Nat), s.lockOf pair = some job ↔ s.holds job = some pair

theorem guarded_initial (files : FileSystem) (sinks : Sinks) (paths : List Path) :
    Guarded (initial files sinks paths) := by
  intro pair job
  constructor
  · intro h
    cases pair <;> cases h
  · intro h
    cases h

theorem holding_of_isIdle {stage : Stage} (h : stage.isIdle = true) : stage.holding = none := by
  cases stage <;> first | rfl | cases h

theorem Undisturbed.holds (h : Undisturbed s s') (job : Nat) (pair : Bool) :
    s'.holds job = some pair ↔ s.holds job = some pair := by
  simp only [State.holds, Option.bind_eq_some_iff]
  refine exists_congr fun stage => ?_
  refine and_congr_left fun hholding => ?_
  cases hidle : stage.isIdle with
  | false => exact h.stage job stage hidle
  | true =>
    rw [holding_of_isIdle hidle] at hholding
    cases hholding

namespace WorkerStep

variable {s₁ : State} {job : Nat} {path : Path} {before after : Stage}

/-- A worker takes its lock, releases it, or leaves the locks as they are. -/
theorem lockOf (h : WorkerStep setup s job path before after s₁) (pair : Bool) :
    (before.holding = after.holding ∧ s₁.lockOf pair = s.lockOf pair) ∨
    (∃ e : Entry, before.holding = none ∧ after.holding = some e.isPair ∧
      s.lockOf e.isPair = none ∧
      s₁.lockOf pair = if pair = e.isPair then some job else s.lockOf pair) ∨
    (∃ e : Entry, before.holding = some e.isPair ∧ after.holding = none ∧
      s₁.lockOf pair = if pair = e.isPair then none else s.lockOf pair) := by
  have hsinks : ∀ written, (s.setSinks written).lockOf pair = s.lockOf pair := fun _ => rfl
  cases h with
  | start _ _ => exact .inl ⟨rfl, rfl⟩
  | work _ => exact .inl ⟨rfl, rfl⟩
  | fail _ => exact .inl ⟨rfl, rfl⟩
  | lock hfree => exact .inr (.inl ⟨_, rfl, rfl, hfree, lockOf_setLock s _ _ pair⟩)
  | writeDocument _ _ => exact .inl ⟨rfl, hsinks _⟩
  | writePath _ _ => exact .inl ⟨rfl, hsinks _⟩
  | writeFailure _ _ => exact .inl ⟨rfl, hsinks _⟩
  | unlock e => exact .inr (.inr ⟨e, rfl, rfl, lockOf_setLock s _ _ pair⟩)

theorem guarded (h : WorkerStep setup s job path before after s₁)
    (hjob : s.jobs[job]? = some ⟨path, before⟩) (hguarded : Guarded s) :
    Guarded (s₁.setStage job after) := by
  intro pair i
  have hlock : (s₁.setStage job after).lockOf pair = s₁.lockOf pair := rfl
  have hbefore : s.holds job = before.holding := by
    rw [State.holds, State.stage?_of_getElem? hjob]
    rfl
  have hafter : (s₁.setStage job after).holds job = after.holding := by
    rw [State.holds, h.stage?_self hjob]
    rfl
  rw [hlock]
  by_cases hi : i = job
  · subst hi
    rw [hafter]
    rcases h.lockOf pair with ⟨hsame, hl⟩ | ⟨e, hnone, hhas, hfree, hl⟩ | ⟨e, hhad, hgone, hl⟩
    · rw [hl, ← hsame, ← hbefore]
      exact hguarded pair i
    · rw [hl, hhas]
      by_cases hpair : pair = e.isPair
      · simp [hpair]
      · rw [if_neg hpair, hguarded pair i, hbefore, hnone]
        simp [Ne.symm hpair]
    · rw [hl, hgone]
      by_cases hpair : pair = e.isPair
      · simp [hpair]
      · rw [if_neg hpair, hguarded pair i, hbefore, hhad]
        simp [Ne.symm hpair]
  · have hother : (s₁.setStage job after).holds i = s.holds i := by
      rw [State.holds, h.stage?_of_ne hi]
      rfl
    rw [hother, ← hguarded pair i]
    rcases h.lockOf pair with ⟨-, hl⟩ | ⟨e, -, -, hfree, hl⟩ | ⟨e, hhad, -, hl⟩
    · rw [hl]
    · rw [hl]
      by_cases hpair : pair = e.isPair
      · subst hpair
        simp [hfree, Ne.symm hi]
      · rw [if_neg hpair]
    · rw [hl]
      by_cases hpair : pair = e.isPair
      · subst hpair
        have hheld : s.lockOf e.isPair = some job := by
          rw [hguarded, hbefore, hhad]
        simp [hheld, Ne.symm hi]
      · rw [if_neg hpair]

end WorkerStep

theorem Guarded.of_undisturbed (h : Guarded s) (hsame : Undisturbed s s') : Guarded s' := by
  intro pair job
  rw [hsame.holds, ← h pair job]
  cases pair with
  | true => exact Eq.congr_left hsame.pairLock
  | false => exact Eq.congr_left hsame.failureLock

theorem Guarded.step (h : Guarded s) (hstep : Step setup s s') : Guarded s' := by
  rcases hstep.worker_or_undisturbed with ⟨job, path, before, after, s₁, hjob, hworker, rfl⟩ | hsame
  · exact hworker.guarded hjob h
  · exact h.of_undisturbed hsame

/-! ## Results -/

/-- Whether a file may be at a stage, given what its worker works out. -/
def Stage.Agrees (result : Except FileStop Entry) : Stage → Prop
  | queued | running | cancelled => True
  | ready e | locked e | written e => result = .ok e
  | halfWritten shown document => result = .ok (.pair shown document)
  | done r => r = result.map Entry.isPair

/-- Every file is at a stage of its own result. -/
def Agreed (entry : Nat → Except FileStop Entry) (s : State) : Prop :=
  ∀ i stage, s.stage? i = some stage → stage.Agrees (entry i)

variable {entry : Nat → Except FileStop Entry}

theorem agreed_initial (files : FileSystem) (sinks : Sinks) (paths : List Path) :
    Agreed entry (initial files sinks paths) := by
  intro i stage h
  cases h

theorem agrees_of_isIdle {stage : Stage} (h : stage.isIdle = true)
    (result : Except FileStop Entry) : stage.Agrees result := by
  cases stage <;> trivial

/-- A step that works a file out brings it to what is worked out then; every other
step goes on with what was worked out before. -/
theorem WorkerStep.agrees {s₁ : State} {job : Nat} {path : Path} {before after : Stage}
    {result : Except FileStop Entry} (h : WorkerStep setup s job path before after s₁)
    (hwork : before = .running → (workOut setup s.files path).1 = result)
    (hbefore : before.Agrees result) : after.Agrees result := by
  cases h with
  | start _ _ => trivial
  | work hresult => exact (hwork rfl).symm.trans (congrArg Prod.fst hresult)
  | fail hresult =>
    obtain rfl : result = _ := (hwork rfl).symm.trans (congrArg Prod.fst hresult)
    rfl
  | lock _ => exact hbefore
  | writeDocument _ _ => exact hbefore
  | writePath _ _ => exact hbefore
  | writeFailure _ _ => exact hbefore
  | unlock e =>
    have hresult : result = .ok e := hbefore
    rw [hresult]
    rfl

theorem Agreed.of_undisturbed (h : Agreed entry s) (hsame : Undisturbed s s') :
    Agreed entry s' := by
  intro i stage hi
  cases hidle : stage.isIdle with
  | true => exact agrees_of_isIdle hidle _
  | false => exact h i stage ((hsame.stage i stage hidle).mp hi)

/-- What is worked out for a file has to be the same at any time. -/
theorem Agreed.step (h : Agreed entry s) (hstep : Step setup s s')
    (hwork : ∀ i path stage, s.jobs[i]? = some ⟨path, stage⟩ →
      (workOut setup s.files path).1 = entry i) : Agreed entry s' := by
  rcases hstep.worker_or_undisturbed with ⟨job, path, before, after, s₁, hjob, hworker, rfl⟩ | hsame
  · intro i stage hi
    by_cases heq : i = job
    · subst heq
      rw [hworker.stage?_self hjob] at hi
      obtain rfl := Option.some.inj hi
      exact hworker.agrees (fun _ => hwork i path before hjob)
        (h i before (State.stage?_of_getElem? hjob))
    · rw [hworker.stage?_of_ne heq] at hi
      exact h i stage hi
  · exact h.of_undisturbed hsame

/-! ## Other files -/

/-- Since the outputs were opened, nothing else was written. -/
structure Framed (opened : FileSystem) (locations : List Location) (s : State) : Prop where
  sinks : s.sinks.locations = locations
  frame : Frame locations opened s.files

variable {opened : FileSystem} {locations : List Location}

theorem framed_initial {sinks : Sinks} (h : sinks.HaveFiles opened) (paths : List Path) :
    Framed opened sinks.locations (initial opened sinks paths) :=
  ⟨rfl, (Frame.refl opened).mono (by simp) (Sinks.haveFiles_iff.mp h)⟩

theorem Framed.haveFiles (h : Framed opened locations s) : s.sinks.HaveFiles s.files := by
  rw [Sinks.haveFiles_iff, h.sinks]
  exact h.frame.isFile

theorem Framed.setSinks (h : Framed opened locations s) {written : FileSystem × Sinks}
    (hkeeps : Sinks.Keeps (s.files, s.sinks) written) :
    Framed opened locations (s.setSinks written) := by
  have hframe := hkeeps.frame
  rw [h.sinks] at hframe
  exact ⟨hkeeps.locations.trans h.sinks, h.frame.trans_same hframe⟩

theorem WorkerStep.framed {s₁ : State} {job : Nat} {path : Path} {before after : Stage}
    (h : WorkerStep setup s job path before after s₁) (hframed : Framed opened locations s) :
    Framed opened locations (s₁.setStage job after) := by
  have hlock : ∀ e holder, Framed opened locations (s.setLock e holder) := by
    intro e holder
    unfold State.setLock
    split <;> exact ⟨hframed.sinks, hframed.frame⟩
  have hs₁ : Framed opened locations s₁ := by
    cases h with
    | start _ _ => exact hframed
    | work _ => exact ⟨hframed.sinks, hframed.frame⟩
    | fail _ => exact ⟨hframed.sinks, hframed.frame⟩
    | lock _ => exact hlock _ _
    | writeDocument _ document =>
      exact hframed.setSinks (Sinks.keeps_writeDocument hframed.haveFiles document)
    | writePath shown _ => exact hframed.setSinks (Sinks.keeps_writePath hframed.haveFiles shown)
    | writeFailure shown reason =>
      exact hframed.setSinks (Sinks.keeps_writeFailure hframed.haveFiles shown reason)
    | unlock e => exact hlock _ _
  exact ⟨hs₁.sinks, hs₁.frame⟩

theorem Framed.stopAt (h : Framed opened locations s) (stop : FileStop) :
    Framed opened locations (stopAt s stop) := by
  obtain ⟨jobs, events, heq, -⟩ := stopAt_eq s stop
  rw [heq]
  exact ⟨h.sinks, h.frame⟩

theorem Framed.step (h : Framed opened locations s) (hstep : Step setup s s') :
    Framed opened locations s' := by
  cases hstep with
  | worker _ hworker => exact hworker.framed h
  | submit _ _ _ _ => exact ⟨h.sinks, h.frame⟩
  | pickSome _ _ _ _ _ => exact ⟨h.sinks, h.frame⟩
  | pickAll _ _ _ _ _ => exact ⟨h.sinks, h.frame⟩
  | count _ _ => exact ⟨h.sinks, h.frame⟩
  | stop _ _ => exact h.stopAt _
  | finish _ _ =>
    have hframe := Sinks.frame_close h.haveFiles
    rw [h.sinks] at hframe
    exact ⟨h.sinks, h.frame.trans_same hframe⟩

end
end SyntaxCorpus.Batch
