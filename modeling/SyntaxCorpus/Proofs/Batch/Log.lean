/-
SyntaxCorpus.Proofs.Batch.Log — what has come to the outputs at any moment.

`Logged` lists the files whose entries are written, in the order in which the
workers finished writing. An output holds what these entries add to it, one
after the other, so that the lines of a pair are at the same place in their
two outputs. Between the two writes of a pair the first output has one more
line; the worker that is there has the lock, so there is at most one of them.

* `logged_initial` — outputs that were just opened hold nothing.
* `Logged.step` — every step keeps the account.
-/
import SyntaxCorpus.Proofs.Batch.Workers

namespace SyntaxCorpus.Batch

/-! ## Entries in the outputs -/

namespace Entry

/-- What an entry adds to the first output. -/
def toDocuments : Entry → String
  | pair _ document => document ++ "\n"
  | failure .. => ""

/-- What an entry adds to the second output. -/
def toPaths : Entry → String
  | pair path _ => path ++ "\n"
  | failure .. => ""

/-- What an entry adds to the third output. -/
def toFailures : Entry → String
  | pair .. => ""
  | failure path reason => failureLine path reason

end Entry

/-- What a result adds to an output. -/
def addition (part : Entry → String) : Except FileStop Entry → String
  | .ok e => part e
  | .error _ => ""

/-- What the results of some files add to an output. -/
def written (part : Entry → String) (entry : Nat → Except FileStop Entry) (log : List Nat) :
    String :=
  String.join (log.map fun i => addition part (entry i))

section

variable {part : Entry → String} {entry : Nat → Except FileStop Entry}

theorem written_append (log more : List Nat) :
    written part entry (log ++ more) = written part entry log ++ written part entry more := by
  rw [written, List.map_append, String.join_append]
  rfl

theorem written_congr {entry' : Nat → Except FileStop Entry} {log : List Nat}
    (h : ∀ i ∈ log, entry' i = entry i) : written part entry' log = written part entry log := by
  rw [written, written, List.map_congr_left fun i hi => by rw [h i hi]]

theorem written_singleton {i : Nat} {e : Entry} (h : entry i = .ok e) :
    written part entry [i] = part e := by
  simp [written, addition, h]

end

/-! ## The files that are written -/

/-- Whether everything is written for a file. -/
def Stage.isWritten : Stage → Bool
  | written _ | done (.ok _) => true
  | _ => false

/-- Whether the first line of a pair is written and the second is not. -/
def Stage.isHalfWritten : Stage → Bool
  | halfWritten .. => true
  | _ => false

/-- Whether a file is at a stage of a kind. -/
def State.isAt (s : State) (kind : Stage → Bool) (i : Nat) : Bool := (s.stage? i).any kind

section

variable {setup : Setup} {s s' s₁ : State} {job : Nat} {path : Path} {before after : Stage}

theorem State.isAt_iff {kind : Stage → Bool} {i : Nat} :
    s.isAt kind i = true ↔ ∃ stage, s.stage? i = some stage ∧ kind stage = true := by
  rw [State.isAt, Option.any_eq_true]

theorem isAt_of_stage? {kind : Stage → Bool} {i : Nat} {stage : Stage}
    (h : s.stage? i = some stage) : s.isAt kind i = kind stage := by
  rw [State.isAt, h]
  rfl

theorem Undisturbed.isAt (h : Undisturbed s s') {kind : Stage → Bool}
    (hkind : ∀ stage, stage.isIdle = true → kind stage = false) (i : Nat) :
    s'.isAt kind i = s.isAt kind i := by
  refine Bool.eq_iff_iff.mpr ?_
  simp only [State.isAt, Option.any_eq_true]
  refine exists_congr fun stage => ?_
  refine and_congr_left fun hstage => ?_
  cases hidle : stage.isIdle with
  | false => exact h.stage i stage hidle
  | true =>
    rw [hkind stage hidle] at hstage
    cases hstage

theorem isWritten_of_isIdle (stage : Stage) (h : stage.isIdle = true) :
    stage.isWritten = false := by
  cases stage <;> first | rfl | cases h

theorem isHalfWritten_of_isIdle (stage : Stage) (h : stage.isIdle = true) :
    stage.isHalfWritten = false := by
  cases stage <;> first | rfl | cases h

namespace WorkerStep

theorem isAt_self (h : WorkerStep setup s job path before after s₁)
    (hjob : s.jobs[job]? = some ⟨path, before⟩) (kind : Stage → Bool) :
    (s₁.setStage job after).isAt kind job = kind after :=
  isAt_of_stage? (h.stage?_self hjob)

theorem isAt_of_ne (h : WorkerStep setup s job path before after s₁) {i : Nat} (hi : i ≠ job)
    (kind : Stage → Bool) : (s₁.setStage job after).isAt kind i = s.isAt kind i := by
  rw [State.isAt, h.stage?_of_ne hi]
  rfl

/-- A step that leaves a file at the same kind of stage. -/
theorem isAt_same (h : WorkerStep setup s job path before after s₁)
    (hjob : s.jobs[job]? = some ⟨path, before⟩) {kind : Stage → Bool}
    (hkind : kind after = kind before) (i : Nat) :
    (s₁.setStage job after).isAt kind i = s.isAt kind i := by
  by_cases hi : i = job
  · rw [hi, h.isAt_self hjob, hkind, isAt_of_stage? (State.stage?_of_getElem? hjob)]
  · exact h.isAt_of_ne hi kind

end WorkerStep
end

/-! ## The account -/

/-- The account of the outputs: `log` are the files that are written, in this
order, and `half` is the file whose document is written and whose path is
not. -/
structure Logged (entry : Nat → Except FileStop Entry) (log : List Nat) (half : Option Nat)
    (s : State) : Prop where
  nodup : log.Nodup
  mem : ∀ i, i ∈ log ↔ s.isAt Stage.isWritten i = true
  between : ∀ i, half = some i ↔ s.isAt Stage.isHalfWritten i = true
  hold : (∀ r, s.phase ≠ .ended r) → s.sinks.Hold s.files
    (written Entry.toDocuments entry (log ++ half.toList)) (written Entry.toPaths entry log)
    (written Entry.toFailures entry log)
  closed : ∀ r, s.phase = .ended r →
    s.files.node? s.sinks.documents.location
        = some (.file (written Entry.toDocuments entry (log ++ half.toList)).toUTF8) ∧
      s.files.node? s.sinks.paths.location
        = some (.file (written Entry.toPaths entry log).toUTF8) ∧
      s.files.node? s.sinks.failures.location
        = some (.file (written Entry.toFailures entry log).toUTF8)

section

variable {setup : Setup} {entry : Nat → Except FileStop Entry} {log : List Nat}
  {half : Option Nat} {s s' s₁ : State} {job : Nat} {path : Path} {before after : Stage}

theorem logged_initial {files : FileSystem} {sinks : Sinks} (h : sinks.Hold files "" "" "")
    (paths : List Path) : Logged entry [] none (initial files sinks paths) where
  nodup := List.nodup_nil
  mem := fun i => by simp [State.isAt, State.stage?, initial]
  between := fun i => by simp [State.isAt, State.stage?, initial]
  hold := fun _ => h
  closed := fun _ hr => by cases hr

namespace Logged

/-- A file that is done without an error is written. -/
theorem mem_of_done (h : Logged entry log half s) {accepted : Bool}
    (hdone : s.stage? job = some (.done (.ok accepted))) : job ∈ log := by
  rw [h.mem, isAt_of_stage? hdone]
  rfl

/-- The account is about the entries of files that are written. -/
theorem congr {entry' : Nat → Except FileStop Entry} (h : Logged entry log half s)
    (hsame : ∀ i ∈ log ++ half.toList, entry' i = entry i) : Logged entry' log half s := by
  have hlog : ∀ i ∈ log, entry' i = entry i := fun i hi => hsame i (List.mem_append_left _ hi)
  refine ⟨h.nodup, h.mem, h.between, fun hopen => ?_, fun r hr => ?_⟩
  · rw [written_congr hsame, written_congr hlog, written_congr hlog]
    exact h.hold hopen
  · rw [written_congr hsame, written_congr hlog, written_congr hlog]
    exact h.closed r hr

theorem of_undisturbed (h : Logged entry log half s) (hsame : Undisturbed s s')
    (hfiles : s'.files = s.files) (hphase : ∀ r, s'.phase = .ended r → s.phase = .ended r)
    (hopen : (∀ r, s'.phase ≠ .ended r) → ∀ r, s.phase ≠ .ended r) :
    Logged entry log half s' := by
  refine ⟨h.nodup, fun i => ?_, fun i => ?_, fun hnot => ?_, fun r hr => ?_⟩
  · rw [hsame.isAt isWritten_of_isIdle, h.mem]
  · rw [hsame.isAt isHalfWritten_of_isIdle, h.between]
  · rw [hsame.sinks, hfiles]
    exact h.hold (hopen hnot)
  · rw [hsame.sinks, hfiles]
    exact h.closed r (hphase r hr)

theorem stopAt (h : Logged entry log half s) (hnot : ∀ r, s.phase ≠ .ended r) (stop : FileStop) :
    Logged entry log half (stopAt s stop) := by
  have hsame := undisturbed_stopAt s stop
  obtain ⟨jobs, events, heq, -⟩ := stopAt_eq s stop
  rw [heq] at hsame ⊢
  refine h.of_undisturbed hsame rfl (fun r hr => ?_) (fun _ => hnot)
  cases hr

theorem finish (h : Logged entry log half s) (hdistinct : s.sinks.locations.Nodup)
    (hnot : ∀ r, s.phase ≠ .ended r) (r : Except FileStop Unit) :
    Logged entry log half { s with files := s.sinks.close s.files, phase := .ended r } :=
  ⟨h.nodup, h.mem, h.between, fun hopen => absurd rfl (hopen r),
    fun _ _ => Sinks.node?_close (h.hold hnot) hdistinct⟩

/-- Files other than the one of a worker are as far as they were. -/
theorem mem_append (h : Logged entry log half s)
    (hstep : WorkerStep setup s job path before after s₁)
    (hjob : s.jobs[job]? = some ⟨path, before⟩) (hafter : after.isWritten = true) (i : Nat) :
    i ∈ log ++ [job] ↔ (s₁.setStage job after).isAt Stage.isWritten i = true := by
  rw [List.mem_append, List.mem_singleton]
  by_cases hi : i = job
  · subst hi
    simp [hstep.isAt_self hjob, hafter]
  · rw [hstep.isAt_of_ne hi, h.mem]
    simp [hi]

theorem not_mem (h : Logged entry log half s) (hjob : s.jobs[job]? = some ⟨path, before⟩)
    (hbefore : before.isWritten = false) : job ∉ log := by
  rw [h.mem, isAt_of_stage? (State.stage?_of_getElem? hjob), hbefore]
  simp

theorem nodup_append (h : Logged entry log half s) (hjob : s.jobs[job]? = some ⟨path, before⟩)
    (hbefore : before.isWritten = false) : (log ++ [job]).Nodup := by
  refine List.nodup_append.mpr ⟨h.nodup, by simp, fun a ha b hb => ?_⟩
  rw [List.mem_singleton] at hb
  rintro rfl
  subst hb
  exact h.not_mem hjob hbefore ha

/-- A step that writes nothing. -/
theorem quiet (h : Logged entry log half s)
    (hstep : WorkerStep setup s job path before after s₁)
    (hjob : s.jobs[job]? = some ⟨path, before⟩) (hfiles : s₁.files = s.files)
    (hsinks : s₁.sinks = s.sinks) (hwritten : after.isWritten = before.isWritten)
    (hhalf : after.isHalfWritten = before.isHalfWritten) :
    Logged entry log half (s₁.setStage job after) := by
  have hphase : (s₁.setStage job after).phase = s.phase := hstep.sameDispatch.phase
  have hfiles' : (s₁.setStage job after).files = s.files := hfiles
  have hsinks' : (s₁.setStage job after).sinks = s.sinks := hsinks
  refine ⟨h.nodup, fun i => ?_, fun i => ?_, ?_, ?_⟩
  · rw [hstep.isAt_same hjob hwritten, h.mem]
  · rw [hstep.isAt_same hjob hhalf, h.between]
  · rw [hphase, hfiles', hsinks']
    exact h.hold
  · rw [hphase, hfiles', hsinks']
    exact h.closed

/-- A step that writes, after which the outputs hold other texts. -/
theorem of_hold {now : FileSystem × Sinks} {log' : List Nat} {half' : Option Nat}
    (hnot : ∀ r, s.phase ≠ .ended r)
    (hstep : WorkerStep setup s job path before after (s.setSinks now)) (hnodup : log'.Nodup)
    (hmem : ∀ i, i ∈ log' ↔ ((s.setSinks now).setStage job after).isAt Stage.isWritten i = true)
    (hbetween : ∀ i, half' = some i ↔
      ((s.setSinks now).setStage job after).isAt Stage.isHalfWritten i = true)
    (hhold : now.2.Hold now.1 (written Entry.toDocuments entry (log' ++ half'.toList))
      (written Entry.toPaths entry log') (written Entry.toFailures entry log')) :
    Logged entry log' half' ((s.setSinks now).setStage job after) := by
  refine ⟨hnodup, hmem, hbetween, fun _ => hhold, fun r hr => ?_⟩
  have hphase : ((s.setSinks now).setStage job after).phase = s.phase := hstep.sameDispatch.phase
  rw [hphase] at hr
  exact absurd hr (hnot r)

/-- While a worker is about to write a document, no other file is half
written. -/
theorem half_eq_none (h : Logged entry log half s) (hguarded : Guarded s)
    {shown document : String} (hjob : s.jobs[job]? = some ⟨path, .locked (.pair shown document)⟩) :
    half = none := by
  cases hhalf : half with
  | none => rfl
  | some k =>
    have hstage := State.stage?_of_getElem? hjob
    have hk := (h.between k).mp hhalf
    have hheld : s.lockOf true = some job := by
      rw [hguarded, State.holds, hstage]
      rfl
    have hheld' : s.lockOf true = some k := by
      rw [hguarded]
      obtain ⟨stage, hk, hkind⟩ := State.isAt_iff.mp hk
      rw [State.holds, hk]
      cases stage with
      | halfWritten _ _ => rfl
      | _ => cases hkind
    obtain rfl : job = k := Option.some.inj (hheld.symm.trans hheld')
    rw [isAt_of_stage? hstage] at hk
    cases hk

theorem writeDocument (setup : Setup) (h : Logged entry log half s) (hguarded : Guarded s)
    (hdistinct : s.sinks.locations.Nodup) (hnot : ∀ r, s.phase ≠ .ended r)
    {shown document : String} (hjob : s.jobs[job]? = some ⟨path, .locked (.pair shown document)⟩)
    (hentry : entry job = .ok (.pair shown document)) :
    Logged entry log (some job) ((s.setSinks (s.sinks.writeDocument s.files document)).setStage job
      (.halfWritten shown document)) := by
  have hstep : WorkerStep setup s job path _ _ _ := .writeDocument shown document
  have hhold := Sinks.hold_writeDocument (h.hold hnot) hdistinct document
  rw [h.half_eq_none hguarded hjob, Option.toList_none, List.append_nil] at hhold
  refine of_hold hnot hstep h.nodup (fun i => ?_) (fun i => ?_) ?_
  · rw [hstep.isAt_same hjob rfl, h.mem]
  · by_cases hi : i = job
    · subst hi
      simp [hstep.isAt_self hjob, Stage.isHalfWritten]
    · rw [hstep.isAt_of_ne hi, ← h.between, h.half_eq_none hguarded hjob]
      simp [Ne.symm hi]
  · rw [Option.toList_some, written_append, written_singleton hentry]
    exact hhold

theorem writePath (setup : Setup) (h : Logged entry log half s)
    (hdistinct : s.sinks.locations.Nodup) (hnot : ∀ r, s.phase ≠ .ended r) {shown document : String}
    (hjob : s.jobs[job]? = some ⟨path, .halfWritten shown document⟩)
    (hentry : entry job = .ok (.pair shown document)) :
    Logged entry (log ++ [job]) none ((s.setSinks (s.sinks.writePath s.files shown)).setStage job
      (.written (.pair shown document))) := by
  have hstep : WorkerStep setup s job path _ _ _ := .writePath shown document
  have hstage := State.stage?_of_getElem? hjob
  have hhalf : half = some job := by
    rw [h.between, isAt_of_stage? hstage]
    rfl
  have hhold := Sinks.hold_writePath (h.hold hnot) hdistinct shown
  rw [hhalf, Option.toList_some] at hhold
  refine of_hold hnot hstep (h.nodup_append hjob rfl) (h.mem_append hstep hjob rfl)
    (fun i => ?_) ?_
  · by_cases hi : i = job
    · subst hi
      simp [hstep.isAt_self hjob, Stage.isHalfWritten]
    · rw [hstep.isAt_of_ne hi, ← h.between, hhalf]
      simp [Ne.symm hi]
  · have hpaths : written Entry.toPaths entry (log ++ [job])
        = written Entry.toPaths entry log ++ (shown ++ "\n") := by
      rw [written_append, written_singleton hentry]
      rfl
    have hfailures : written Entry.toFailures entry (log ++ [job])
        = written Entry.toFailures entry log := by
      rw [written_append, written_singleton hentry, Entry.toFailures, String.append_empty]
    rw [hpaths, hfailures, Option.toList_none, List.append_nil]
    exact hhold

theorem writeFailure (setup : Setup) (h : Logged entry log half s)
    (hdistinct : s.sinks.locations.Nodup) (hnot : ∀ r, s.phase ≠ .ended r) {shown reason : String}
    (hjob : s.jobs[job]? = some ⟨path, .locked (.failure shown reason)⟩)
    (hentry : entry job = .ok (.failure shown reason)) :
    Logged entry (log ++ [job]) half
      ((s.setSinks (s.sinks.writeFailure s.files shown reason)).setStage job
        (.written (.failure shown reason))) := by
  have hstep : WorkerStep setup s job path _ _ _ := .writeFailure shown reason
  have hhold := Sinks.hold_writeFailure (h.hold hnot) hdistinct shown reason
  refine of_hold hnot hstep (h.nodup_append hjob rfl) (h.mem_append hstep hjob rfl)
    (fun i => ?_) ?_
  · rw [hstep.isAt_same hjob rfl, h.between]
  · have hdocuments : written Entry.toDocuments entry (log ++ [job] ++ half.toList)
        = written Entry.toDocuments entry (log ++ half.toList) := by
      rw [written_append, written_append, written_append, written_singleton hentry,
        Entry.toDocuments, String.append_empty]
    have hpaths : written Entry.toPaths entry (log ++ [job]) = written Entry.toPaths entry log := by
      rw [written_append, written_singleton hentry, Entry.toPaths, String.append_empty]
    have hfailures : written Entry.toFailures entry (log ++ [job])
        = written Entry.toFailures entry log ++ failureLine shown reason := by
      rw [written_append, written_singleton hentry]
      rfl
    rw [hdocuments, hpaths, hfailures]
    exact hhold

/-- A step of a worker writes the rest for no file but its own. -/
theorem worker (h : Logged entry log half s) (hguarded : Guarded s) (hagreed : Agreed entry s)
    (hdistinct : s.sinks.locations.Nodup) (hnot : ∀ r, s.phase ≠ .ended r)
    (hjob : s.jobs[job]? = some ⟨path, before⟩)
    (hstep : WorkerStep setup s job path before after s₁) :
    ∃ more half', Logged entry (log ++ more) half' (s₁.setStage job after) ∧
      (more = [] ∨ more = [job]) := by
  have hagrees : before.Agrees (entry job) := hagreed job before (State.stage?_of_getElem? hjob)
  have hsame : ∀ half', Logged entry log half' (s₁.setStage job after) →
      ∃ more half', Logged entry (log ++ more) half' (s₁.setStage job after) ∧
        (more = [] ∨ more = [job]) :=
    fun half' h' => ⟨[], half', by rwa [List.append_nil], .inl rfl⟩
  have hquiet : s₁.files = s.files → s₁.sinks = s.sinks → after.isWritten = before.isWritten →
      after.isHalfWritten = before.isHalfWritten →
      ∃ more half', Logged entry (log ++ more) half' (s₁.setStage job after) ∧
        (more = [] ∨ more = [job]) :=
    fun hfiles hsinks hwritten hhalf => hsame _ (h.quiet hstep hjob hfiles hsinks hwritten hhalf)
  have hlock : ∀ e holder, (s.setLock e holder).files = s.files ∧
      (s.setLock e holder).sinks = s.sinks := by
    intro e holder
    unfold State.setLock
    split <;> exact ⟨rfl, rfl⟩
  cases hstep with
  | start _ _ => exact hquiet rfl rfl rfl rfl
  | work _ => exact hquiet rfl rfl rfl rfl
  | fail _ => exact hquiet rfl rfl rfl rfl
  | lock _ => exact hquiet (hlock _ _).1 (hlock _ _).2 rfl rfl
  | writeDocument shown document =>
    exact hsame _ (h.writeDocument setup hguarded hdistinct hnot hjob hagrees)
  | writePath shown document =>
    exact ⟨_, _, h.writePath setup hdistinct hnot hjob hagrees, .inr rfl⟩
  | writeFailure shown reason =>
    exact ⟨_, _, h.writeFailure setup hdistinct hnot hjob hagrees, .inr rfl⟩
  | unlock _ => exact hquiet (hlock _ _).1 (hlock _ _).2 rfl rfl

/-- Every step keeps the account and adds at most one file that was handed out,
if the outputs are different files and no file is left when a batch has ended. -/
theorem step_append (h : Logged entry log half s) (hguarded : Guarded s) (hagreed : Agreed entry s)
    (hdistinct : s.sinks.locations.Nodup)
    (hended : ∀ r, s.phase = .ended r → s.picked = [] ∧ ∀ j ∈ s.jobs, j.stage.isOver = true)
    (hstep : Step setup s s') : ∃ more half', Logged entry (log ++ more) half' s' ∧
      (more = [] ∨ ∃ job < s.jobs.length, more = [job]) := by
  have hsame : Logged entry log half s' → ∃ more half', Logged entry (log ++ more) half' s' ∧
      (more = [] ∨ ∃ job < s.jobs.length, more = [job]) :=
    fun h' => ⟨[], half, by rwa [List.append_nil], .inl rfl⟩
  cases hstep with
  | worker hjob hworker =>
    obtain ⟨more, half', hlog, hmore⟩ := h.worker hguarded hagreed hdistinct (fun r hr => by
      have hover := (hended r hr).2 _ (List.mem_of_getElem? hjob)
      rw [hworker.isOver_before] at hover
      cases hover) hjob hworker
    exact ⟨more, half', hlog,
      hmore.imp_right fun heq => ⟨_, (List.getElem?_eq_some_iff.mp hjob).1, heq⟩⟩
  | submit _ _ _ _ =>
    exact hsame (h.of_undisturbed (undisturbed_submit s _ _ _) rfl (fun _ => id) id)
  | pickSome _ _ _ _ _ =>
    exact hsame (h.of_undisturbed ⟨rfl, rfl, rfl, fun _ _ _ => Iff.rfl⟩ rfl (fun _ => id) id)
  | pickAll hphase _ _ _ _ =>
    refine hsame (h.of_undisturbed ⟨rfl, rfl, rfl, fun _ _ _ => Iff.rfl⟩ rfl ?_ ?_)
    · intro r hr
      cases hr
    · intro _ r hr
      rw [hphase] at hr
      cases hr
  | count _ _ =>
    exact hsame (h.of_undisturbed ⟨rfl, rfl, rfl, fun _ _ _ => Iff.rfl⟩ rfl (fun _ => id) id)
  | stop hpicked _ =>
    refine hsame (h.stopAt (fun r hr => ?_) _)
    rw [(hended r hr).1] at hpicked
    cases hpicked
  | finish hover hresult =>
    refine hsame (h.finish hdistinct (fun r hr => ?_) _)
    rw [result?, hr] at hresult
    cases hresult

/-- Every step keeps the account. -/
theorem step (h : Logged entry log half s) (hguarded : Guarded s) (hagreed : Agreed entry s)
    (hdistinct : s.sinks.locations.Nodup)
    (hended : ∀ r, s.phase = .ended r → s.picked = [] ∧ ∀ j ∈ s.jobs, j.stage.isOver = true)
    (hstep : Step setup s s') : ∃ log' half', Logged entry log' half' s' := by
  obtain ⟨more, half', hlog, -⟩ := h.step_append hguarded hagreed hdistinct hended hstep
  exact ⟨_, _, hlog⟩

end Logged
end
end SyntaxCorpus.Batch
