/-
SyntaxCorpus.Proofs.Batch.Interrupt — a batch whose parser is interrupted.

An interrupt is no failure of a file: it travels to the dispatcher, which hands
out no more files, takes back those that no worker has started with, waits for
the others and closes the outputs. What is in them then is complete: one entry
for each file whose worker came to its end, and nothing for any other file.

* `Fate` — what has become of a file that was handed out.
* `Stopped` — what a batch leaves when it is interrupted.
* `StopsOnInterrupt`, `runBatch_stopsOnInterrupt` — a batch whose parser is
  interrupted is stopped, for every schedule, if its outputs are three different
  files and its parser gives only plain trees. With one worker, it leaves the
  entries of the files before the one that is interrupted, in their order.
-/
import SyntaxCorpus.Proofs.Batch.Order

namespace SyntaxCorpus.Batch

open FileSystem (Frame)

/-- What has become of a file that was handed out, when a batch was interrupted:
no worker has started with it, or its own call of the parser was interrupted, or
its worker has made its call to write. -/
inductive Fate (setup : Setup) (paths : List Path) (opened : FileSystem)
    (locations : List Location) (calls : List Call) (s : State) (i : Nat) : Prop
  | cancelled (hstage : s.stage? i = some .cancelled) (hnone : i ∉ calls.map Prod.fst)
  | interrupted {text} (hstage : s.stage? i = some (.done (.error (.interrupted text))))
      (hwork : WorkedOut setup paths opened locations i (.error (.interrupted text)))
      (hnone : i ∉ calls.map Prod.fst)
  | completed {e} (hstage : s.stage? i = some (.done (.ok e.isPair))) (hcall : (i, e) ∈ calls)
      (hwork : WorkedOut setup paths opened locations i (.ok e))

/-- What an interrupted batch leaves: `calls` are the calls of its workers to
write, `pairs` and `failures` the entries in the outputs, and `s` is the state in
which it ends. -/
structure Stopped (setup : Setup) (outputs : String) (paths : List Path) (opened : FileSystem)
    (sinks : Sinks) (report : Report) (calls : List Call) (pairs : List WrittenPair)
    (failures : List WrittenFailure) (s : State) : Prop where
  reached : Reached setup (initial opened sinks paths) calls s
  /-- It ends with the interrupt of one of its files. -/
  result : ∃ i text, s.stage? i = some (.done (.error (.interrupted text))) ∧
    report.result = .error (.stopped (.interrupted text))
  /-- The outputs are closed when no worker is left. -/
  closed : ∃ before : State, (∀ j ∈ before.jobs, j.stage.isOver = true) ∧ s.jobs = before.jobs ∧
    report.files = before.sinks.close before.files
  handedOut : s.jobs.map (·.path) ++ s.waiting = paths
  fate : ∀ i < s.jobs.length, Fate setup paths opened sinks.locations calls s i
  /-- Only files that were handed out are written, each of them once. -/
  once : (calls.map Prod.fst).Nodup ∧ ∀ c ∈ calls, c.1 < s.jobs.length
  /-- The entries in the outputs are those of the calls. -/
  entries : (pairs.map (·.call) ++ failures.map (·.call)).Perm calls
  lines : HasLines report.files (SinkPaths.of outputs).documents (pairs.map (·.document)) ∧
    HasLines report.files (SinkPaths.of outputs).paths (pairs.map (·.path)) ∧
    HasLines report.files (SinkPaths.of outputs).failures (failures.map (·.line))
  /-- With one worker, the last file handed out is the one that is interrupted,
  and the entries are those of the files before it, in their order. -/
  single : setup.options.workers = 1 → ∃ k text, s.jobs.length = k + 1 ∧
    s.stage? k = some (.done (.error (.interrupted text))) ∧
    (calls.map Prod.fst).Perm (List.range k) ∧
    (pairs.map (·.job)).Pairwise (· < ·) ∧ (failures.map (·.job)).Pairwise (· < ·)

/-- Whether parsing a file is interrupted, whatever a batch has written to its
outputs by then. -/
def Interrupts (setup : Setup) (opened : FileSystem) (locations : List Location) (p : Path) :
    Prop :=
  ∀ now, Frame locations opened now →
    ∃ text, (workOut setup now p).1 = .error (.interrupted text)

/-- A batch whose parser is interrupted is stopped. -/
structure StopsOnInterrupt (setup : Setup) (outputs : String) (found : List Path)
    (opened : FileSystem) (sinks : Sinks) (report : List Move → Report) : Prop where
  /-- A file that interrupts the parser does so in every batch, unless another
  file does it before. -/
  raised : ∀ schedule, (∃ p ∈ found, Interrupts setup opened sinks.locations p) →
    Raises setup.parser (report schedule).events
  /-- No file is handed out any more when the dispatcher has stopped. -/
  halts : ∀ s stop, s.phase = .stopping stop → ∀ calls s', Reached setup s calls s' →
    s'.waiting = s.waiting ∧ s'.jobs.map (·.path) = s.jobs.map (·.path)
  ends : ∀ schedule, Raises setup.parser (report schedule).events →
    ∃ calls pairs failures s, Stopped setup outputs (found.mergeSort Path.le) opened sinks
      (report schedule) calls pairs failures s

/-! ## After a stop -/

section

variable {setup : Setup} {s s' : State} {calls : List Call}

/-- Whether the dispatcher has stopped. -/
def State.HasStopped (s : State) : Prop :=
  (∃ stop, s.phase = .stopping stop) ∨ ∃ r, s.phase = .ended r

theorem State.HasStopped.not_dispatching (h : s.HasStopped) :
    s.phase ≠ .dispatching ∧ s.phase ≠ .draining := by
  rcases h with ⟨stop, h⟩ | ⟨r, h⟩ <;> rw [h] <;> simp

/-- A stopped dispatcher hands out nothing. -/
theorem Step.halts (hstep : Step setup s s') (h : s.HasStopped) :
    s'.HasStopped ∧ s'.waiting = s.waiting ∧ s'.jobs.map (·.path) = s.jobs.map (·.path) := by
  cases hstep with
  | worker _ hworker =>
    have hsame := hworker.sameDispatch
    refine ⟨?_, hsame.waiting, ?_⟩
    · unfold State.HasStopped at h ⊢
      rwa [← hsame.phase] at h
    · rw [State.map_path_setStage, hsame.jobs]
  | submit hphase _ _ _ => exact absurd hphase h.not_dispatching.1
  | pickSome hphase _ _ _ _ => exact absurd hphase h.not_dispatching.1
  | pickAll hphase _ _ _ _ => exact absurd hphase h.not_dispatching.1
  | count _ _ => exact ⟨h, rfl, rfl⟩
  | @stop job rest stop _ _ =>
    obtain ⟨jobs, events, heq, hjobs⟩ := stopAt_eq s stop
    rw [heq]
    refine ⟨.inl ⟨stop, rfl⟩, rfl, ?_⟩
    rcases hjobs with rfl | rfl
    · rfl
    · exact map_path_cancelQueued s.jobs
  | finish _ _ => exact ⟨.inr ⟨_, rfl⟩, rfl, rfl⟩

theorem Reached.halts {start : State} (h : Reached setup start calls s)
    (hstart : start.HasStopped) : s.HasStopped ∧ s.waiting = start.waiting ∧
      s.jobs.map (·.path) = start.jobs.map (·.path) := by
  have hthen : ∀ {s s' : State}, (s.HasStopped ∧ s.waiting = start.waiting ∧
      s.jobs.map (·.path) = start.jobs.map (·.path)) → Step setup s s' →
      s'.HasStopped ∧ s'.waiting = start.waiting ∧
        s'.jobs.map (·.path) = start.jobs.map (·.path) := by
    rintro s s' ⟨hstopped, hwaiting, hjobs⟩ hstep
    obtain ⟨hstopped', hwaiting', hjobs'⟩ := hstep.halts hstopped
    exact ⟨hstopped', hwaiting'.trans hwaiting, hjobs'.trans hjobs⟩
  induction h with
  | start => exact ⟨hstart, rfl, rfl⟩
  | worker _ hjob hworker ih => exact hthen ih (.worker hjob hworker)
  | dispatcher _ hstep _ ih => exact hthen ih hstep
  | interrupt text _ hphase ih =>
    rcases hphase with hphase | hphase
    · exact absurd hphase ih.1.not_dispatching.1
    · exact absurd hphase ih.1.not_dispatching.2

/-- A batch ends by closing its outputs, when no worker is left. -/
theorem Step.closes (hstep : Step setup s s') (h : Settled s) {r : Except FileStop Unit}
    (hr : s'.phase = .ended r) : (∀ j ∈ s.jobs, j.stage.isOver = true) ∧ s'.jobs = s.jobs ∧
      s'.files = s.sinks.close s.files := by
  cases hstep with
  | worker hjob hworker =>
    have hphase : s.phase = .ended r := hworker.sameDispatch.phase.symm.trans hr
    exact absurd hphase (h.not_ended hjob hworker r)
  | submit hphase _ _ _ => cases hphase.symm.trans hr
  | pickSome hphase _ _ _ _ => cases hphase.symm.trans hr
  | pickAll _ _ _ _ _ => cases hr
  | count hpicked _ =>
    have hphase : s.phase = .ended r := hr
    rcases h.phase_of_picked hpicked with hother | hother
    · cases hother.symm.trans hphase
    · cases hother.symm.trans hphase
  | stop _ _ =>
    obtain ⟨jobs, events, heq, -⟩ := stopAt_eq s _
    rw [heq] at hr
    cases hr
  | finish hover _ => exact ⟨hover, rfl, rfl⟩

theorem Reached.closes {files opened : FileSystem} {p : SinkPaths} {sinks : Sinks}
    {paths : List Path} (hopen : Sinks.open_ files p = (.ok sinks, opened))
    (h : Reached setup (initial opened sinks paths) calls s) {r : Except FileStop Unit}
    (hr : s.phase = .ended r) : ∃ before : State, (∀ j ∈ before.jobs, j.stage.isOver = true) ∧
      s.jobs = before.jobs ∧ s.files = before.sinks.close before.files := by
  cases h with
  | start => cases hr
  | worker h hjob hworker =>
    obtain ⟨entry, htraced⟩ := h.traced hopen
    exact ⟨_, (Step.worker hjob hworker).closes htraced.settled hr⟩
  | dispatcher h hstep _ =>
    obtain ⟨entry, htraced⟩ := h.traced hopen
    exact ⟨_, hstep.closes htraced.settled hr⟩
  | interrupt text _ _ =>
    obtain ⟨jobs, events, heq, -⟩ := stopAt_eq _ (.interrupted text)
    rw [heq] at hr
    cases hr

end

/-! ## What a stopped batch leaves -/

section

variable {setup : Setup} {files opened : FileSystem} {sinks : Sinks} {outputs : String}
  {paths : List Path} {calls : List Call} {entry : Nat → Except FileStop Entry}
  {counted log : List Nat} {half : Option Nat} {s : State} {r : Except FileStop Unit} {i : Nat}
  {stop : FileStop}

namespace Recorded

/-- A batch in which a file is interrupted does not return. -/
theorem exists_stop (h : Recorded setup paths opened sinks calls entry counted log half s)
    (hr : s.phase = .ended r) (hinterrupted : s.IsInterrupted) : ∃ stop, r = .error stop := by
  cases r with
  | error stop => exact ⟨stop, rfl⟩
  | ok _ =>
    obtain ⟨i, text, hi⟩ := hinterrupted
    obtain ⟨accepted, hdone⟩ := h.stage?_of_returned hr (h.lt_length_jobs hi).2
    rw [hi] at hdone
    cases hdone

theorem not_mem_calls (h : Recorded setup paths opened sinks calls entry counted log half s)
    {stage : Stage} (hi : s.stage? i = some stage) (hstage : stage.hasCalled = false) :
    i ∉ calls.map Prod.fst := by
  intro hmem
  obtain ⟨⟨i, e⟩, hc, rfl⟩ := List.mem_map.mp hmem
  have hcalled := ((h.traced.mem i e).mp hc).1
  rw [isAt_of_stage? hi, hstage] at hcalled
  cases hcalled

/-- What has become of the files that were handed out. -/
theorem fate (h : Recorded setup paths opened sinks calls entry counted log half s)
    (hopen : Sinks.open_ files (.of outputs) = (.ok sinks, opened))
    (hplain : setup.parser.IsPlain) (hfiles : LeadSomewhere files paths)
    (hr : s.phase = .ended r) (hi : i < s.jobs.length) :
    Fate setup paths opened sinks.locations calls s i := by
  have hfrom := h.reached.fromWork hopen
  obtain ⟨⟨p, stage⟩, hjob⟩ : ∃ job, s.jobs[i]? = some job := ⟨_, List.getElem?_eq_getElem hi⟩
  have hstage := State.stage?_of_getElem? hjob
  have hover := h.traced.settled.isOver_of_stage? hr hstage
  cases stage with
  | cancelled => exact .cancelled hstage (h.not_mem_calls hstage rfl)
  | done result =>
    cases result with
    | error stop =>
      have hwork := hfrom.stop i stop hstage
      obtain ⟨text, rfl⟩ := hwork.isInterrupt hopen hplain hfiles
      exact .interrupted hstage hwork (h.not_mem_calls hstage rfl)
    | ok accepted =>
      have hagrees : Except.ok accepted = (entry i).map Entry.isPair :=
        h.traced.agreed i _ hstage
      cases hentry : entry i with
      | error stop =>
        rw [hentry] at hagrees
        cases hagrees
      | ok e =>
        rw [hentry] at hagrees
        obtain rfl := Except.ok.inj hagrees
        have hcall : (i, e) ∈ calls := by
          rw [h.traced.mem, isAt_of_stage? hstage]
          exact ⟨rfl, hentry⟩
        exact .completed hstage hcall (hfrom.call _ hcall)
  | _ => cases hover

/-- If all files but one are counted, and that one is not written, then the files
that are counted are those that are written. -/
theorem counted_perm_log
    (h : Recorded setup paths opened sinks calls entry counted log half s) {stage : Stage}
    (honce : (counted ++ [i]).Perm (List.range s.jobs.length))
    (hi : s.stage? i = some stage) (hstage : stage.isWritten = false) : counted.Perm log := by
  have hnodup : counted.Nodup :=
    (List.nodup_append.mp (honce.nodup_iff.mpr List.nodup_range)).1
  refine (List.perm_ext_iff_of_nodup hnodup h.logged.nodup).mpr fun j => ?_
  constructor
  · intro hj
    obtain ⟨accepted, hdone⟩ := h.tallied.accounted.countedDone j hj
    exact h.logged.mem_of_done hdone
  · intro hj
    have hwritten := (h.logged.mem j).mp hj
    obtain ⟨stage', hj', -⟩ := State.isAt_iff.mp hwritten
    have hin : j ∈ counted ++ [i] :=
      honce.mem_iff.mpr (List.mem_range.mpr (h.lt_length_jobs hj').1)
    rcases List.mem_append.mp hin with hin | hin
    · exact hin
    · rw [List.mem_singleton.mp hin, isAt_of_stage? hi, hstage] at hwritten
      cases hwritten

/-- With one worker, a batch that is stopped has written the files before the
one that stops it, in their order. -/
theorem single (h : Recorded setup paths opened sinks calls entry counted log half s)
    (hr : s.phase = .ended (.error stop)) (hone : setup.options.workers = 1) :
    ∃ k, s.jobs.length = k + 1 ∧ s.stage? k = some (.done (.error stop)) ∧
      log = List.range k := by
  obtain ⟨left, honce, hleft⟩ := h.tallied.accounted.once
  obtain ⟨returned, hperm, -, i, hi, hstage⟩ := hleft.stopped stop (.inr hr)
  have hmem : i ∈ left := by
    rcases hperm with hperm | ⟨-, hperm⟩
    · exact hperm.mem_iff.mpr (List.mem_append_right _ hi)
    · exact hperm.mem_iff.mpr hi
  have hlength := hleft.length
  rw [hone] at hlength
  obtain ⟨j, rfl⟩ :=
    List.length_eq_one_iff.mp (Nat.le_antisymm hlength (List.length_pos_of_mem hmem))
  obtain rfl := List.mem_singleton.mp hmem
  have hjobs : s.jobs.length = counted.length + 1 := by simpa using honce.length_eq.symm
  have hcounted : counted.Perm log := h.counted_perm_log honce hstage rfl
  have hlog : log = List.range counted.length := by
    rw [hcounted.length_eq]
    exact h.log_eq_range hone
  rw [hlog] at hcounted
  have hlast : [i].Perm [counted.length] := by
    rw [hjobs, List.range_succ] at honce
    exact (List.perm_append_left_iff _).mp ((hcounted.append_right [i]).symm.trans honce)
  obtain rfl : i = counted.length := by simpa using hlast
  exact ⟨_, hjobs, hstage, hlog⟩

/-- What an interrupted batch leaves. -/
theorem stopped (h : Recorded setup paths opened sinks calls entry counted log half s)
    (hopen : Sinks.open_ files (.of outputs) = (.ok sinks, opened))
    (hfaithful : Faithful setup.serialize) (hplain : setup.parser.IsPlain)
    (hfiles : LeadSomewhere files paths) (hr : s.phase = .ended r)
    (hinterrupted : s.IsInterrupted) {report : Report} (hresult : report.result = s.outcome)
    (hreport : report.files = s.files) :
    Stopped setup outputs paths opened sinks report calls (pairKind.list entry log)
      (failureKind.list entry log) s := by
  have hpaired := h.traced.paired_of_logged hfaithful hopen h.logged
  obtain ⟨stop, rfl⟩ := h.exists_stop hr hinterrupted
  obtain ⟨i, text, hi, rfl⟩ := h.exists_interrupt hopen hplain hfiles hr
  obtain ⟨before, hover, hjobs, hclosed⟩ := h.reached.closes hopen hr
  exact {
    reached := h.reached
    result := ⟨i, text, hi, by rw [hresult, State.outcome, hr]⟩
    closed := ⟨before, hover, hjobs, hreport.trans hclosed⟩
    handedOut := h.traced.handedOut
    fate := fun j hj => h.fate hopen hplain hfiles hr hj
    once := by
      refine ⟨h.traced.once, fun c hc => ?_⟩
      obtain ⟨stage, hstage, -⟩ := State.isAt_iff.mp (h.traced.isWritten_of_ended hr c hc)
      exact (h.lt_length_jobs hstage).1
    entries := hpaired.entries_perm hr
    lines := by
      rw [hreport]
      exact hpaired.closed _ hr
    single := by
      intro hone
      obtain ⟨k, hlength, hstage, hlog⟩ := h.single hr hone
      refine ⟨k, text, hlength, hstage, ?_, ?_, ?_⟩
      · rw [← hlog]
        exact h.calls_perm hr
      · exact pairKind.pairwise_list (hlog ▸ List.pairwise_lt_range)
      · exact failureKind.pairwise_list (hlog ▸ List.pairwise_lt_range)
  }

end Recorded
end

/-! ## A whole batch -/

section

variable {files opened : FileSystem} {parser : SourceParser} {serialize : Serializer}
  {options : BatchOptions} {input outputs : String} {found : List Path} {sinks : Sinks}

theorem not_raises_of_nil (hfound : findFiles files input = .ok [])
    (hopen : Sinks.open_ files (.of outputs) = (.ok sinks, opened)) (schedule : List Move) :
    ¬ Raises parser (runBatch files parser serialize options schedule input outputs).events := by
  rw [runBatch_events_nil parser serialize options hfound hopen schedule]
  exact not_raises_of_log (by simp [startEvent, noFilesEvent, endEvent, logged])

/-- The parser is interrupted in a batch exactly if it is when the files are
worked on. -/
theorem raises_runBatch_iff (hfound : findFiles files input = .ok found)
    (hopen : Sinks.open_ files (.of outputs) = (.ok sinks, opened)) (hne : found ≠ [])
    (schedule : List Move) :
    Raises parser (runBatch files parser serialize options schedule input outputs).events ↔
      Raises parser (endState (setupOf files parser serialize options) opened sinks
        (found.mergeSort Path.le) schedule).events.toList := by
  obtain ⟨ending, hevents, hending⟩ :=
    runBatch_events parser serialize options hfound hopen hne schedule
  have hstart : ¬ Raises parser [.log (searchEntry input found.length), startEvent found.length] :=
    not_raises_of_log (by simp [startEvent, logged])
  have hend : ¬ Raises parser ending := by
    rcases hending with rfl | ⟨t, rfl⟩
    · exact not_raises_of_log (by simp)
    · exact not_raises_of_log (by simp [endEvent, logged])
  have hsplit : (runBatch files parser serialize options schedule input outputs).events
      = [.log (searchEntry input found.length), startEvent found.length] ++
        ((endState (setupOf files parser serialize options) opened sinks
          (found.mergeSort Path.le) schedule).events.toList ++ ending) := hevents
  rw [hsplit, Raises.append_iff, Raises.append_iff, or_iff_right hstart, or_iff_left hend]

/-- A batch with a file that interrupts the parser at any moment comes to an
interrupt. -/
theorem Recorded.isInterrupted {setup : Setup} {paths : List Path} {calls : List Call}
    {entry : Nat → Except FileStop Entry} {counted log : List Nat} {half : Option Nat} {s : State}
    {r : Except FileStop Unit}
    (h : Recorded setup paths opened sinks calls entry counted log half s)
    (hopen : Sinks.open_ files (.of outputs) = (.ok sinks, opened))
    (hplain : setup.parser.IsPlain) (hfiles : LeadSomewhere files paths)
    (hr : s.phase = .ended r) {p : Path} (hp : p ∈ paths)
    (hinterrupts : Interrupts setup opened sinks.locations p) : s.IsInterrupted := by
  cases r with
  | error stop =>
    obtain ⟨i, text, hi, -⟩ := h.exists_interrupt hopen hplain hfiles hr
    exact ⟨i, text, hi⟩
  | ok _ =>
    obtain ⟨i, hi⟩ := List.mem_iff_getElem?.mp hp
    obtain ⟨accepted, hdone⟩ := h.stage?_of_returned hr (List.getElem?_eq_some_iff.mp hi).1
    cases h.fate hopen hplain hfiles hr (h.lt_length_jobs hdone).1 with
    | cancelled hstage _ =>
      rw [hdone] at hstage
      cases hstage
    | interrupted hstage _ _ => exact ⟨i, _, hstage⟩
    | completed _ _ hwork =>
      obtain ⟨q, now, hq, hframe, hresult⟩ := hwork
      obtain rfl : p = q := Option.some.inj (hi.symm.trans hq)
      obtain ⟨text, htext⟩ := hinterrupts now hframe
      rw [hresult] at htext
      cases htext

/-- **A batch whose parser is interrupted is stopped.** -/
theorem runBatch_stopsOnInterrupt (hfound : findFiles files input = .ok found)
    (hopen : Sinks.open_ files (.of outputs) = (.ok sinks, opened))
    (hdistinct : sinks.locations.Nodup) (hfaithful : Faithful serialize)
    (hplain : parser.IsPlain) :
    StopsOnInterrupt (setupOf files parser serialize options) outputs found opened sinks
      fun schedule => runBatch files parser serialize options schedule input outputs where
  raised := by
    rintro schedule ⟨p, hp, hinterrupts⟩
    have hne := List.ne_nil_of_mem hp
    obtain ⟨⟨calls, entry, counted, log, half, h⟩, r, hr⟩ :=
      exists_recorded hopen hdistinct (mergeSort_ne_nil hne) schedule
    have hinterrupted := h.isInterrupted hopen hplain (leadSomewhere_of_found hfound) hr
      (List.mem_mergeSort.mpr hp) hinterrupts
    exact (raises_runBatch_iff hfound hopen hne schedule).mpr
      (h.reached.raises_iff.mpr hinterrupted)
  halts s stop hstop calls s' h := (h.halts (.inl ⟨stop, hstop⟩)).2
  ends := by
    intro schedule hraises
    by_cases hne : found = []
    · subst hne
      exact absurd hraises (not_raises_of_nil hfound hopen schedule)
    · obtain ⟨⟨calls, entry, counted, log, half, h⟩, r, hr⟩ :=
        exists_recorded hopen hdistinct (mergeSort_ne_nil hne) schedule
      have hinterrupted :=
        h.reached.raises_iff.mp ((raises_runBatch_iff hfound hopen hne schedule).mp hraises)
      obtain ⟨hresult, hreport⟩ := runBatch_of_ne_nil hfound hopen hne schedule
      exact ⟨calls, _, _, _, h.stopped hopen hfaithful hplain (leadSomewhere_of_found hfound) hr
        hinterrupted hresult hreport⟩

end

/-! ## Two files, one of which is interrupted -/

theorem isPlain_mixed (text : String) : (mixedParser (.interrupt text)).IsPlain where
  tree := by
    intro call t ht
    have hparse : (if call.source.isEmpty then ParserOutcome.tree (.node ⟨.text "root", .null⟩ [])
        else .interrupt text) = .tree t := ht
    split at hparse
    · obtain rfl := ParserOutcome.tree.inj hparse
      decide
    · cases hparse
  told := by
    intro call kind raised
    show (if call.source.isEmpty then _ else ParserOutcome.interrupt text) ≠ _
    split <;> simp

theorem runBatch_stopsOnInterrupt_mixed : ∃ sinks opened,
    findFiles mixedFiles "*.py" = .ok [Path.ofText "a.py", Path.ofText "b.py"] ∧
    Sinks.open_ mixedFiles (.of "out") = (.ok sinks, opened) ∧ sinks.locations.Nodup ∧
    Faithful writeDocument ∧ (mixedParser (.interrupt "stop")).IsPlain ∧
    StopsOnInterrupt (setupOf mixedFiles (mixedParser (.interrupt "stop")) writeDocument anySize)
      "out" [Path.ofText "a.py", Path.ofText "b.py"] opened sinks fun schedule =>
        runBatch mixedFiles (mixedParser (.interrupt "stop")) writeDocument anySize schedule "*.py"
          "out" := by
  obtain ⟨opened, hopen⟩ := open_mixed
  exact ⟨_, opened, findFiles_mixed, hopen, by decide, faithful_writeDocument, isPlain_mixed _,
    runBatch_stopsOnInterrupt findFiles_mixed hopen (by decide) faithful_writeDocument
      (isPlain_mixed _)⟩

/-- The two files, and a link to an output in the place of another output. -/
def linkedPair : FileSystem where
  entries := mixedFiles.entries
    ++ [(["work", "out.txt"], .file .empty), (["work", "out.json"], .link "out.txt")]
  workingDirectory := ["work"]

/-- A parser that is interrupted in an empty source, and finds a tree of one node
in all others. -/
def interruptedParser (text : String) : SourceParser :=
  ⟨fun call => if call.source.isEmpty then .interrupt text
    else .tree (.node ⟨.text "root", .null⟩ [])⟩

theorem isPlain_interruptedParser (text : String) : (interruptedParser text).IsPlain where
  tree := by
    intro call t ht
    have hparse : (if call.source.isEmpty then ParserOutcome.interrupt text
        else .tree (.node ⟨.text "root", .null⟩ [])) = .tree t := ht
    split at hparse
    · cases hparse
    · obtain rfl := ParserOutcome.tree.inj hparse
      decide
  told := by
    intro call kind raised
    show (if call.source.isEmpty then ParserOutcome.interrupt text else _) ≠ _
    split <;> simp

/-- What the batch of the two files works with. -/
def linkedSetup : Setup := setupOf linkedPair (interruptedParser "stop") writeDocument anySize

theorem status_linkedPair {name : String} {content : ByteArray}
    (hname : FileSystem.IsName .reach name)
    (hnode : linkedPair.node? (["work"] ++ [name]) = some (.file content)) :
    linkedPair.status name = .ok (["work", name], .file content) :=
  FileSystem.status_file hname rfl hnode

theorem placed_linkedPair : ∃ sinks opened, Placed linkedPair linkedSetup "*.py" "out"
    [Path.ofText "a.py", Path.ofText "b.py"] sinks opened ∧
    sinks.documents.location = sinks.paths.location := by
  obtain ⟨opened, hopen⟩ : ∃ opened, Sinks.open_ linkedPair (.of "out")
      = (.ok ⟨{ location := ["work", "out.txt"] }, { location := ["work", "out.txt"] },
          { location := ["work", "out_failed.txt"] }⟩, opened) :=
    open_of_link rfl rfl rfl rfl rfl
  have hsa : linkedPair.status "a.py" = .ok (["work", "a.py"], .file "tree".toUTF8) :=
    status_linkedPair (by decide) rfl
  have hsb : linkedPair.status "b.py" = .ok (["work", "b.py"], .file .empty) :=
    status_linkedPair (by decide) rfl
  refine ⟨_, opened, ⟨findFiles_pair (FileSystem.status_dot rfl) rfl (by decide +kernel) rfl hsa hsb,
    hopen, fun p hp l n hl => ?_, faithful_writeDocument⟩, rfl⟩
  have ha : (Path.ofText "a.py").text = "a.py" := by decide
  have hb : (Path.ofText "b.py").text = "b.py" := by decide
  rcases List.mem_pair.mp hp with rfl | rfl
  · rw [ha, hsa] at hl
    cases hl
    decide
  · rw [hb, hsb] at hl
    cases hl
    decide

/-- The first file is accepted. -/
theorem workOut_linkedPair_fst : ∃ records,
    (workOut linkedSetup linkedPair (Path.ofText "a.py")).1
      = .ok (.pair "a.py" (Document.write records)) := by
  have hshown : shownPath linkedSetup linkedPair (Path.ofText "a.py") = "a.py" := by decide
  have hstatus : linkedPair.status "a.py" = .ok (["work", "a.py"], .file "tree".toUTF8) :=
    status_linkedPair (by decide) rfl
  have hparse : (parseFile linkedPair linkedSetup.parser .worker linkedSetup.options.settings
      (Path.ofText "a.py").text).1 = .ok (.node ⟨.text "root", .null⟩ []) :=
    congrArg Prod.fst (parseFile_source (interruptedParser "stop") hstatus)
  obtain ⟨records, hrecords⟩ : ∃ records,
      flattenRaw (.node ⟨.text "root", .null⟩ []) = .ok records :=
    ⟨_, flattenRaw_of_isPlain (by decide)⟩
  have hlength : records.length = 1 := length_of_flattenRaw hrecords
  have haccepted : admitted linkedSetup.options "a.py" records = .accepted "a.py" records := by
    rcases admitted_eq linkedSetup.options "a.py" records with ⟨-, -, heq⟩ | ⟨hcount, -⟩
    · exact heq
    · rw [hlength] at hcount
      exact absurd (by decide) hcount
  refine ⟨records, ?_⟩
  rw [workOut_of_unbroken (by rw [hshown]; decide), hshown, hparse, outcomeOf, hrecords]
  simp only [haccepted]
  rfl

/-- The parser is interrupted in the second file. -/
theorem workOut_linkedPair_snd :
    (workOut linkedSetup linkedPair (Path.ofText "b.py")).1 = .error (.interrupted "stop") := by
  have hshown : shownPath linkedSetup linkedPair (Path.ofText "b.py") = "b.py" := by decide
  have hstatus : linkedPair.status "b.py" = .ok (["work", "b.py"], .file .empty) :=
    status_linkedPair (by decide) rfl
  have hlanguage : fileLanguage "b.py" none = .ok "python" := fileLanguage_python (by decide)
  have hparse : (parseFile linkedPair linkedSetup.parser .worker linkedSetup.options.settings
      (Path.ofText "b.py").text).1 = .error (.interrupted "stop") :=
    congrArg Prod.fst
      (parseFile_of_status (interruptedParser "stop") .worker hlanguage (by decide) hstatus)
  rw [workOut_of_unbroken (by rw [hshown]; decide), hparse]
  rfl

/-- With one worker, the first file has its call to write before the second one
interrupts the parser. -/
theorem Stopped.exists_call {opened : FileSystem} {sinks : Sinks} {report : Report}
    {calls : List Call} {pairs : List WrittenPair} {failures : List WrittenFailure} {s : State}
    (hplaced : Placed linkedPair linkedSetup "*.py" "out"
      [Path.ofText "a.py", Path.ofText "b.py"] sinks opened)
    (h : Stopped linkedSetup "out" [Path.ofText "a.py", Path.ofText "b.py"] opened sinks report
      calls pairs failures s) :
    ∃ records, (0, .pair "a.py" (Document.write records)) ∈ calls := by
  obtain ⟨records, hfirst⟩ := workOut_linkedPair_fst
  have hwork : ∀ {result}, WorkedOut linkedSetup [Path.ofText "a.py", Path.ofText "b.py"] opened
      sinks.locations 0 result → result = .ok (.pair "a.py" (Document.write records)) := by
    rintro result ⟨p, now, hp, hframe, hresult⟩
    obtain rfl : Path.ofText "a.py" = p := Option.some.inj hp
    rw [← hresult, hplaced.steady now hframe _ (by simp), hfirst]
  obtain ⟨k, text, hlength, hstage, hcalls, -⟩ := h.single rfl
  cases h.fate 0 (by omega) with
  | interrupted _ hwork' _ => cases hwork hwork'
  | completed _ hcall hwork' =>
    obtain rfl := Except.ok.inj (hwork hwork')
    exact ⟨records, hcall⟩
  | cancelled hcancelled hnone =>
    rw [hcalls.mem_iff, List.mem_range] at hnone
    obtain rfl : k = 0 := by omega
    rw [hstage] at hcancelled
    cases hcancelled

/-- Outputs that are one file do not have the entries of the files before the
interrupt. -/
theorem not_stopsOnInterrupt_linkedPair : ∃ sinks opened,
    findFiles linkedPair "*.py" = .ok [Path.ofText "a.py", Path.ofText "b.py"] ∧
    Sinks.open_ linkedPair (.of "out") = (.ok sinks, opened) ∧ Faithful writeDocument ∧
    (interruptedParser "stop").IsPlain ∧
    ¬ StopsOnInterrupt (setupOf linkedPair (interruptedParser "stop") writeDocument anySize)
      "out" [Path.ofText "a.py", Path.ofText "b.py"] opened sinks fun schedule =>
        runBatch linkedPair (interruptedParser "stop") writeDocument anySize schedule "*.py"
          "out" := by
  obtain ⟨sinks, opened, hplaced, hlocation⟩ := placed_linkedPair
  refine ⟨sinks, opened, hplaced.isFound, hplaced.isOpened, faithful_writeDocument,
    isPlain_interruptedParser _, fun h => ?_⟩
  have hinterrupts : Interrupts linkedSetup opened sinks.locations (Path.ofText "b.py") := by
    intro now hframe
    exact ⟨"stop", by rw [hplaced.steady now hframe _ (by simp), workOut_linkedPair_snd]⟩
  obtain ⟨calls, pairs, failures, s, hstopped⟩ :=
    h.ends [] (h.raised [] ⟨_, by simp, hinterrupts⟩)
  rw [mergeSort_mixed] at hstopped
  obtain ⟨records, hcall⟩ := hstopped.exists_call hplaced
  obtain ⟨hdocuments, hpaths, -⟩ := hstopped.lines
  have hlines := hasLines_unique
    (read_of_same_location hplaced.isOpened (hplaced.frame_runBatch []) hlocation) hdocuments
    hpaths
  rcases List.mem_append.mp (hstopped.entries.mem_iff.mpr hcall) with hmem | hmem
  · obtain ⟨w, hw, heq⟩ := List.mem_map.mp hmem
    have hsame : w.document = w.path := List.map_inj_left.mp hlines w hw
    obtain ⟨-, hentry⟩ := Prod.mk.inj heq
    obtain ⟨hpath, hdocument⟩ := Entry.pair.inj hentry
    rw [hpath, hdocument] at hsame
    exact write_ne records hsame
  · obtain ⟨w, -, heq⟩ := List.mem_map.mp hmem
    cases (Prod.mk.inj heq).2

end SyntaxCorpus.Batch
