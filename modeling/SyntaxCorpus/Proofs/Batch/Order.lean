/-
SyntaxCorpus.Proofs.Batch.Order — in which order the outputs are written.

With more than one worker, a file may be written before another one that was
handed out earlier, but not much before: all files that are handed out are
counted, and so written, but for as many as there are workers. With one worker,
the outputs are in the order of the files.

* `Recorded` — everything that is told of a state: its calls, the files counted
  so far, and the order in which the files were written.
* `Recorded.step`, `exists_recorded` — every schedule leads to such a state.
* `Recorded.log_eq_range` — with one worker, the files are written in order.
* `Recorded.calls_perm`, `Recorded.calls_perm_range` — when a batch has ended,
  the files with a call are those that are written; these are all files if the
  batch returns.
-/
import SyntaxCorpus.Proofs.Batch.Tally
import SyntaxCorpus.Proofs.Batch.WorkedOut

namespace SyntaxCorpus.Batch

/-- What is told of a state that a batch can come to: `calls` are the calls to
write, `counted` the files in the tally, and `log` the files that are written,
each in the order in which it was done. -/
structure Recorded (setup : Setup) (paths : List Path) (opened : FileSystem) (sinks : Sinks)
    (calls : List Call) (entry : Nat → Except FileStop Entry) (counted log : List Nat)
    (half : Option Nat) (s : State) : Prop where
  reached : Reached setup (initial opened sinks paths) calls s
  tallied : Tallied setup (initial opened sinks paths) counted s
  traced : Traced setup paths opened sinks.locations calls entry s
  logged : Logged entry log half s
  /-- A file is written less than a number of workers before its place. -/
  early : ∀ k i, log[k]? = some i → i < k + setup.options.workers

/-- Distinct numbers that are none greater than their place are all numbers. -/
theorem eq_range_of_getElem_le {log : List Nat} (hnodup : log.Nodup)
    (h : ∀ k i : Nat, log[k]? = some i → i ≤ k) : log = List.range log.length := by
  refine List.ext_getElem (by simp) fun k hk _ => ?_
  rw [List.getElem_range]
  induction k using Nat.strong_induction_on with
  | _ k ih =>
    have hle := h k log[k] (List.getElem?_eq_getElem hk)
    by_contra hne
    have hlt : log[k] < k := by omega
    have hsame : log[log[k]] = log[k] := ih _ hlt (by omega) (by simp; omega)
    have heq := (hnodup.getElem_inj_iff).mp hsame
    omega

section

variable {setup : Setup} {paths : List Path} {opened : FileSystem} {sinks : Sinks}
  {calls : List Call} {entry : Nat → Except FileStop Entry} {counted pending log more : List Nat}
  {half : Option Nat} {s s' : State} {r : Except FileStop Unit} {i : Nat}

/-- All files that are handed out are written, but for as many as there are
workers. -/
theorem Logged.length_jobs_le (h : Logged entry log half s)
    (hd : Dispatched setup paths counted pending s) (hleft : LeftOver setup pending s) :
    s.jobs.length ≤ log.length + setup.options.workers := by
  have hlength : counted.length + pending.length = s.jobs.length := by
    simpa using hd.once.length_eq
  have hnodup : counted.Nodup :=
    (List.nodup_append.mp (hd.once.nodup_iff.mpr List.nodup_range)).1
  have hsubset : counted ⊆ log := by
    intro i hi
    obtain ⟨accepted, hdone⟩ := hd.countedDone i hi
    exact h.mem_of_done hdone
  have hcounted := (List.subperm_of_subset hnodup hsubset).length_le
  have hpending := hleft.length
  omega

namespace Recorded

/-- A file that is written next is not far from its place. -/
theorem early_append (h : Recorded setup paths opened sinks calls entry counted log half s)
    (hne : paths ≠ []) (hmore : more = [] ∨ ∃ job < s.jobs.length, more = [job]) :
    ∀ k i, (log ++ more)[k]? = some i → i < k + setup.options.workers := by
  obtain ⟨pending, hd, hleft⟩ := h.tallied.dispatched hne
  have hlength := h.logged.length_jobs_le hd hleft
  rcases hmore with rfl | ⟨job, hjob, rfl⟩
  · rw [List.append_nil]
    exact h.early
  · intro k i hi
    by_cases hk : k < log.length
    · rw [List.getElem?_append_left hk] at hi
      exact h.early k i hi
    · rw [List.getElem?_append_right (by omega)] at hi
      obtain rfl := List.mem_singleton.mp (List.mem_of_getElem? hi)
      omega

theorem initial {files : FileSystem} {p : SinkPaths} (setup : Setup) (paths : List Path)
    (hopen : Sinks.open_ files p = (.ok sinks, opened)) (hdistinct : sinks.locations.Nodup) :
    Recorded setup paths opened sinks [] (fun _ => .error .nullCharacter) [] [] none
      (Batch.initial opened sinks paths) where
  reached := .start
  tallied := .start
  traced := Traced.initial setup hopen paths _
  logged := logged_initial (Sinks.hold_open hopen hdistinct) paths
  early := by simp

theorem nodup_locations (h : Recorded setup paths opened sinks calls entry counted log half s)
    (hdistinct : sinks.locations.Nodup) : s.sinks.locations.Nodup := by
  rw [h.traced.framed.sinks]
  exact hdistinct

/-- Every step leads to a state of which the same can be told. -/
theorem step (h : Recorded setup paths opened sinks calls entry counted log half s)
    (hne : paths ≠ []) (hdistinct : sinks.locations.Nodup) (hstep : Step setup s s') :
    ∃ calls' entry' counted' log' half',
      Recorded setup paths opened sinks calls' entry' counted' log' half' s' := by
  obtain ⟨counted', htallied⟩ := h.tallied.step hstep
  rcases hstep.worker_or_undisturbed with ⟨job, path, before, after, s₁, hjob, hworker, rfl⟩ | hsame
  · obtain ⟨entry', htraced, hafter, hlogged⟩ := h.traced.exists_agrees hjob hworker
    obtain ⟨more, half', hlog, hmore⟩ := (hlogged log half h.logged).step_append htraced.guarded
      htraced.agreed (h.nodup_locations hdistinct) htraced.settled.ended hstep
    exact ⟨_, entry', counted', _, half', h.reached.worker hjob hworker, htallied,
      htraced.worker_of_agrees hjob hworker hafter, hlog, h.early_append hne hmore⟩
  · obtain ⟨more, half', hlog, hmore⟩ := h.logged.step_append h.traced.guarded
      h.traced.agreed (h.nodup_locations hdistinct) h.traced.settled.ended hstep
    exact ⟨_, entry, counted', _, half', h.reached.dispatcher hstep hsame, htallied,
      h.traced.dispatcher hstep hsame, hlog, h.early_append hne hmore⟩

/-- With one worker, the files are written in order. -/
theorem log_eq_range (h : Recorded setup paths opened sinks calls entry counted log half s)
    (hone : setup.options.workers = 1) : log = List.range log.length := by
  refine eq_range_of_getElem_le h.logged.nodup fun k i hi => ?_
  have hearly := h.early k i hi
  omega

/-- No file has ended a batch that returns. -/
theorem stage?_of_returned (h : Recorded setup paths opened sinks calls entry counted log half s)
    (hr : s.phase = .ended (.ok ())) (hi : i < paths.length) :
    ∃ accepted, s.stage? i = some (.done (.ok accepted)) := by
  have haccounted := h.tallied.accounted
  exact haccounted.countedDone i
    ((haccounted.counted_perm hr).mem_iff.mpr (List.mem_range.mpr hi))

theorem lt_length_jobs (h : Recorded setup paths opened sinks calls entry counted log half s)
    {stage : Stage} (hi : s.stage? i = some stage) : i < s.jobs.length ∧ i < paths.length := by
  obtain ⟨p, hjob⟩ := State.stage?_eq_some.mp hi
  exact ⟨(List.getElem?_eq_some_iff.mp hjob).1,
    (List.getElem?_eq_some_iff.mp (getElem?_of_handedOut h.traced.handedOut hjob)).1⟩

/-- A batch that does not return ends with the interrupt of a file. -/
theorem exists_interrupt {files : FileSystem} {p : SinkPaths} {stop : FileStop}
    (h : Recorded setup paths opened sinks calls entry counted log half s)
    (hopen : Sinks.open_ files p = (.ok sinks, opened))
    (hplain : setup.parser.IsPlain) (hfiles : LeadSomewhere files paths)
    (hr : s.phase = .ended (.error stop)) :
    ∃ i text, s.stage? i = some (.done (.error (.interrupted text))) ∧
      stop = .interrupted text := by
  obtain ⟨left, -, hleft⟩ := h.tallied.accounted.once
  obtain ⟨returned, -, -, i, -, hi⟩ := hleft.stopped stop (.inr hr)
  obtain ⟨text, rfl⟩ := ((h.reached.fromWork hopen).stop i stop hi).isInterrupt hopen hplain hfiles
  exact ⟨i, text, hi, rfl⟩

/-- When a batch has ended, the files with a call are those that are written. -/
theorem calls_perm (h : Recorded setup paths opened sinks calls entry counted log half s)
    (hr : s.phase = .ended r) : (calls.map Prod.fst).Perm log := by
  refine (List.perm_ext_iff_of_nodup h.traced.once h.logged.nodup).mpr fun i => ?_
  rw [h.logged.mem]
  constructor
  · intro hi
    obtain ⟨c, hc, rfl⟩ := List.mem_map.mp hi
    exact h.traced.isWritten_of_ended hr c hc
  · intro hi
    obtain ⟨stage, hstage, hwritten⟩ := State.isAt_iff.mp hi
    obtain ⟨e, he⟩ := (h.traced.agreed i stage hstage).exists_entry
      (hasCalled_of_isWritten stage hwritten)
    exact List.mem_map_of_mem ((h.traced.mem i e).mpr
      ⟨isAt_mono hasCalled_of_isWritten hi, he⟩)

/-- A batch that returns has written all its files. -/
theorem calls_perm_range (h : Recorded setup paths opened sinks calls entry counted log half s)
    (hr : s.phase = .ended (.ok ())) :
    (calls.map Prod.fst).Perm (List.range paths.length) := by
  refine (List.perm_ext_iff_of_nodup h.traced.once List.nodup_range).mpr fun i => ?_
  rw [(h.calls_perm hr).mem_iff, List.mem_range]
  constructor
  · intro hi
    obtain ⟨stage, hstage, -⟩ := State.isAt_iff.mp ((h.logged.mem i).mp hi)
    exact (h.lt_length_jobs hstage).2
  · intro hi
    obtain ⟨accepted, hdone⟩ := h.stage?_of_returned hr hi
    exact h.logged.mem_of_done hdone

end Recorded

/-- The end of a batch is such a state, and the batch has ended there. -/
theorem exists_recorded {files : FileSystem} {p : SinkPaths}
    (hopen : Sinks.open_ files p = (.ok sinks, opened)) (hdistinct : sinks.locations.Nodup)
    (hne : paths ≠ []) (schedule : List Move) :
    (∃ calls entry counted log half, Recorded setup paths opened sinks calls entry counted log
        half (endState setup opened sinks paths schedule)) ∧
      ∃ r, (endState setup opened sinks paths schedule).phase = .ended r := by
  have hstep : ∀ s s',
      (∃ calls entry counted log half,
        Recorded setup paths opened sinks calls entry counted log half s) → Step setup s s' →
      ∃ calls entry counted log half,
        Recorded setup paths opened sinks calls entry counted log half s' := by
    rintro s s' ⟨calls, entry, counted, log, half, h⟩ hstep
    exact h.step hne hdistinct hstep
  have hrun := run_induction hstep schedule
    ⟨_, _, _, _, _, Recorded.initial setup paths hopen hdistinct⟩
  exact ⟨completeWithin_induction hstep _ hrun, complete_ended setup opened sinks hne schedule⟩

end
end SyntaxCorpus.Batch
