/-
SyntaxCorpus.Proofs.Batch.Run — a batch from its first move to its end.

* `Sound` — everything that holds at each moment of a batch: what the
  dispatcher and the workers keep up, what is in the outputs, and that nothing
  else is written.
* `sound_initial`, `Sound.step` — it holds before the first move, and every
  step keeps it.
* `sound_complete` — so it holds at the end, which every schedule reaches.
* `Sound.exists_stop`, `Sound.finished_of_ok` — in the end, the batch is stopped
  by a file, or every file is counted and written once.
-/
import SyntaxCorpus.Proofs.Batch.Log
import SyntaxCorpus.Proofs.Batch.Outcome
import SyntaxCorpus.Proofs.Batch.Progress

namespace SyntaxCorpus.Batch

open FileSystem (Frame)

/-! ## At each moment -/

/-- The file at a position. -/
def pathAt (paths : List Path) (i : Nat) : Path := paths.getD i ⟨.none, []⟩

/-- What is written for the file at a position. -/
def entryAt (setup : Setup) (fs : FileSystem) (paths : List Path) (i : Nat) :
    Except FileStop Entry := (workOut setup fs (pathAt paths i)).1

/-- What holds at each moment of a batch. The outputs have to be different
files for the account of what is in them. -/
structure Sound (setup : Setup) (fs : FileSystem) (paths : List Path) (opened : FileSystem)
    (locations : List Location) (s : State) : Prop where
  dispatched : ∃ counted pending, Dispatched setup paths counted pending s
  guarded : Guarded s
  agreed : Agreed (entryAt setup fs paths) s
  framed : Framed opened locations s
  logged : locations.Nodup → ∃ log half, Logged (entryAt setup fs paths) log half s

/-- What is written for a file is the same at any moment. -/
def Steady (setup : Setup) (fs : FileSystem) (paths : List Path) (opened : FileSystem)
    (locations : List Location) : Prop :=
  ∀ files, Frame locations opened files → ∀ p ∈ paths, workOut setup files p = workOut setup fs p

section

variable {setup : Setup} {fs opened : FileSystem} {paths : List Path} {locations : List Location}
  {s s' : State}

theorem pathAt_of_getElem? {i : Nat} {p : Path} (h : paths[i]? = some p) : pathAt paths i = p := by
  simp [pathAt, List.getD, h]

/-- The files are handed out in their order. -/
theorem getElem?_of_handedOut (h : s.jobs.map (·.path) ++ s.waiting = paths) {i : Nat} {p : Path}
    {stage : Stage} (hjob : s.jobs[i]? = some ⟨p, stage⟩) : paths[i]? = some p := by
  obtain ⟨hlt, -⟩ := List.getElem?_eq_some_iff.mp hjob
  rw [← h, List.getElem?_append_left (by simpa using hlt), List.getElem?_map, hjob]
  rfl

theorem sound_initial {p : SinkPaths} {sinks : Sinks}
    (hopen : Sinks.open_ fs p = (.ok sinks, opened)) (hne : paths ≠ []) :
    Sound setup fs paths opened sinks.locations (initial opened sinks paths) := by
  have hfiles : sinks.HaveFiles opened := Sinks.haveFiles_iff.mpr (Sinks.frame_open hopen).isFile
  exact ⟨⟨_, _, dispatched_initial opened sinks hne⟩, guarded_initial opened sinks paths,
    agreed_initial opened sinks paths, framed_initial hfiles paths,
    fun hdistinct => ⟨_, _, logged_initial (Sinks.hold_open hopen hdistinct) paths⟩⟩

/-- Every step keeps what holds. -/
theorem Sound.step (hsteady : Steady setup fs paths opened locations)
    (h : Sound setup fs paths opened locations s) (hstep : Step setup s s') :
    Sound setup fs paths opened locations s' := by
  obtain ⟨counted, pending, hd⟩ := h.dispatched
  have hwork : ∀ i path stage, s.jobs[i]? = some ⟨path, stage⟩ →
      (workOut setup s.files path).1 = entryAt setup fs paths i := by
    intro i path stage hjob
    have hpath := getElem?_of_handedOut hd.handedOut hjob
    rw [entryAt, pathAt_of_getElem? hpath, hsteady s.files h.framed.frame path
      (List.mem_of_getElem? hpath)]
  refine ⟨hd.step hstep, h.guarded.step hstep, h.agreed.step hstep hwork, h.framed.step hstep,
    fun hdistinct => ?_⟩
  obtain ⟨log, half, hlog⟩ := h.logged hdistinct
  have hlocations : s.sinks.locations.Nodup := by
    rw [h.framed.sinks]
    exact hdistinct
  refine hlog.step h.guarded h.agreed hlocations (fun r hr => ?_) hstep
  obtain ⟨hpicked, hover, -⟩ := hd.ended r hr
  exact ⟨hpicked, hover⟩

/-- Every schedule comes to an end, and what holds at each moment holds
there. -/
theorem sound_complete (hsteady : Steady setup fs paths opened locations)
    (h : Sound setup fs paths opened locations s) (schedule : List Move) :
    Sound setup fs paths opened locations (complete setup (run setup s schedule)) ∧
      ∃ r, (complete setup (run setup s schedule)).phase = .ended r := by
  have hstep : ∀ s s', Sound setup fs paths opened locations s → Step setup s s' →
      Sound setup fs paths opened locations s' := fun _ _ => Sound.step hsteady
  have hrun := run_induction hstep schedule h
  obtain ⟨counted, pending, hd⟩ := hrun.dispatched
  exact ⟨completeWithin_induction hstep _ hrun,
    completeWithin_ended hd hrun.guarded (Nat.le_refl _)⟩

/-! ## In the end -/

/-- Whether a result is a pair of lines. -/
def isPairResult : Except FileStop Entry → Bool
  | .ok e => e.isPair
  | .error _ => false

/-- Whether a file gets a pair of lines. -/
def getsPair (setup : Setup) (fs : FileSystem) (p : Path) : Bool :=
  isPairResult (workOut setup fs p).1

/-- What a batch has come to: every file is done, and the tally is that of all
files. -/
structure Finished (setup : Setup) (fs : FileSystem) (paths : List Path) (s : State) :
    Prop where
  phase : s.phase = .ended (.ok ())
  length : s.jobs.length = paths.length
  total : s.tally.total = paths.length
  accepted : s.tally.accepted = paths.countP (getsPair setup fs)
  rejected : s.tally.rejected = paths.countP fun p => !getsPair setup fs p
  isDone : ∀ i < paths.length, ∃ accepted, s.stage? i = some (.done (.ok accepted))

theorem map_pathAt_range (paths : List Path) :
    (List.range paths.length).map (pathAt paths) = paths := by
  refine List.ext_getElem (by simp) fun i h₁ h₂ => ?_
  rw [List.getElem_map, List.getElem_range]
  exact pathAt_of_getElem? (List.getElem?_eq_getElem h₂)

theorem countP_of_perm_range {counted : List Nat}
    (h : counted.Perm (List.range paths.length)) (q : Path → Bool) :
    counted.countP (fun i => q (pathAt paths i)) = paths.countP q := by
  rw [h.countP_eq]
  conv_rhs => rw [← map_pathAt_range paths]
  rw [List.countP_map]
  rfl

/-- A batch that is ended by a file is ended by what was worked out for it. -/
theorem Sound.exists_stop (h : Sound setup fs paths opened locations s) {stop : FileStop}
    (hphase : s.phase = .ended (.error stop)) :
    ∃ p ∈ paths, (workOut setup fs p).1 = .error stop := by
  obtain ⟨counted, pending, hd⟩ := h.dispatched
  obtain ⟨-, -, i, hi⟩ := hd.ended _ hphase
  obtain ⟨path, hjob⟩ := State.stage?_eq_some.mp hi
  have hpath := getElem?_of_handedOut hd.handedOut hjob
  have hagrees : Except.error stop = (entryAt setup fs paths i).map Entry.isPair :=
    h.agreed i _ hi
  refine ⟨path, List.mem_of_getElem? hpath, ?_⟩
  rw [entryAt, pathAt_of_getElem? hpath] at hagrees
  cases hresult : (workOut setup fs path).1 with
  | ok e =>
    rw [hresult] at hagrees
    cases hagrees
  | error other =>
    rw [hresult] at hagrees
    obtain rfl : stop = other := Except.error.inj hagrees
    rfl

/-- A batch that is ended by no file is finished. -/
theorem Sound.finished_of_ok (h : Sound setup fs paths opened locations s)
    (hphase : s.phase = .ended (.ok ())) : Finished setup fs paths s := by
  obtain ⟨counted, pending, hd⟩ := h.dispatched
  obtain ⟨-, -, rfl, hwaiting⟩ := hd.ended _ hphase
  have hlength : s.jobs.length = paths.length := by
    rw [← hd.handedOut, hwaiting, List.append_nil, List.length_map]
  have hcounted : counted.Perm (List.range paths.length) := by
    rw [← hlength]
    simpa using hd.once
  have hdone : ∀ i < paths.length, ∃ accepted, s.stage? i = some (.done (.ok accepted)) :=
    fun i hi => hd.countedDone i (hcounted.mem_iff.mpr (List.mem_range.mpr hi))
  have hpair : ∀ i ∈ counted, s.isAccepted i = getsPair setup fs (pathAt paths i) := by
    intro i hi
    obtain ⟨accepted, hstage⟩ := hd.countedDone i hi
    have hagrees : Except.ok accepted = (entryAt setup fs paths i).map Entry.isPair :=
      h.agreed i _ hstage
    rw [State.isAccepted, hstage, getsPair]
    rw [entryAt] at hagrees
    generalize (workOut setup fs (pathAt paths i)).1 = result at hagrees
    cases result with
    | error stop => cases hagrees
    | ok e => exact Except.ok.inj hagrees
  refine ⟨hphase, hlength, hd.total, ?_, ?_, hdone⟩
  · rw [hd.accepted, ← countP_of_perm_range hcounted]
    exact List.countP_congr fun i hi => by rw [hpair i hi]
  · rw [hd.rejected, ← countP_of_perm_range hcounted fun p => !getsPair setup fs p]
    exact List.countP_congr fun i hi => by rw [hpair i hi]

theorem Sound.finished (h : Sound setup fs paths opened locations s)
    (hok : ∀ p ∈ paths, ∃ e, (workOut setup fs p).1 = .ok e) {r : Except FileStop Unit}
    (hphase : s.phase = .ended r) : Finished setup fs paths s := by
  cases r with
  | ok _ => exact h.finished_of_ok hphase
  | error stop =>
    obtain ⟨p, hp, hstop⟩ := h.exists_stop hphase
    obtain ⟨e, he⟩ := hok p hp
    rw [he] at hstop
    cases hstop

/-- What a finished batch worked out for a file is an entry. -/
theorem Sound.exists_entry (h : Sound setup fs paths opened locations s)
    (hfinished : Finished setup fs paths s) :
    ∀ p ∈ paths, ∃ e, (workOut setup fs p).1 = .ok e := by
  intro p hp
  obtain ⟨i, hi⟩ := List.mem_iff_getElem?.mp hp
  obtain ⟨accepted, hstage⟩ := hfinished.isDone i (List.getElem?_eq_some_iff.mp hi).1
  have hagrees : Except.ok accepted = (entryAt setup fs paths i).map Entry.isPair :=
    h.agreed i _ hstage
  rw [entryAt, pathAt_of_getElem? hi] at hagrees
  cases hresult : (workOut setup fs p).1 with
  | ok e => exact ⟨e, rfl⟩
  | error stop =>
    rw [hresult] at hagrees
    cases hagrees

/-- The files that are written are all files, each of them once. -/
theorem Finished.log_perm (h : Finished setup fs paths s) {log : List Nat} {half : Option Nat}
    {entry : Nat → Except FileStop Entry} (hlog : Logged entry log half s) :
    (log.map (pathAt paths)).Perm paths ∧ half = none := by
  have hwritten : ∀ i, s.isAt Stage.isWritten i = true ↔ i < paths.length := by
    intro i
    constructor
    · intro hi
      rw [State.isAt, Option.any_eq_true] at hi
      obtain ⟨stage, hstage, -⟩ := hi
      obtain ⟨path, hjob⟩ := State.stage?_eq_some.mp hstage
      rw [← h.length]
      exact (List.getElem?_eq_some_iff.mp hjob).1
    · intro hi
      obtain ⟨accepted, hstage⟩ := h.isDone i hi
      rw [isAt_of_stage? hstage]
      rfl
  have hperm : log.Perm (List.range paths.length) :=
    (List.perm_ext_iff_of_nodup hlog.nodup List.nodup_range).mpr fun i => by
      rw [hlog.mem, hwritten, List.mem_range]
  constructor
  · have hmap := hperm.map (pathAt paths)
    rwa [map_pathAt_range] at hmap
  · cases hhalf : half with
    | none => rfl
    | some i =>
      have hi := (hlog.between i).mp hhalf
      rw [State.isAt, Option.any_eq_true] at hi
      obtain ⟨stage, hstage, hkind⟩ := hi
      obtain ⟨path, hjob⟩ := State.stage?_eq_some.mp hstage
      have hlt := (List.getElem?_eq_some_iff.mp hjob).1
      rw [h.length] at hlt
      obtain ⟨accepted, hdone⟩ := h.isDone i hlt
      rw [hstage] at hdone
      obtain rfl := Option.some.inj hdone
      cases hkind

end
end SyntaxCorpus.Batch
