/-
SyntaxCorpus.Proofs.Batch.FailureLog — what the failure log tells about the
files that a batch rejects.

A file is rejected with one line, whatever its name and the reason are. A
reader cuts the line at its first tab. What is before the tab is the path of
the file, with escapes only if the path has a line break: so a path with a tab
and no line break is cut too early, and a path that is written like the escapes
of another one has the same field.

* `cutAtTab`, `cutAtTab_failureText_iff` — a line is cut between its path and
  its reason if there is no tab in the path.
* `FailureLog` — the failure log has one line for each rejected file, with the reason
  of its rejection.
* `Recorded.settled_cases` — a file of a batch that has ended has its lines, or it has
  ended the batch, or no worker has started with it.
* `exists_failureLog` — every batch leaves such a log, whatever it ends with.
* `runBatch_failureLog` — which lines are cut where they should be, and which
  files have the same field.
-/
import Mathlib.Data.List.TakeWhile
import SyntaxCorpus.Proofs.Batch.Order

namespace SyntaxCorpus

/-! ## Reading a line -/

/-- A line cut at its first tab. -/
def cutAtTab (line : String) : String × String :=
  (String.ofList (line.toList.takeWhile (· != '\t')),
    String.ofList ((line.toList.dropWhile (· != '\t')).drop 1))

/-- A line is cut between its path and its reason exactly if the path has no
tab. -/
theorem cutAtTab_failureText_iff {path reason : String} :
    cutAtTab (failureText path reason) = (path, Text.oneLine reason) ↔ '\t' ∉ path.toList := by
  constructor
  · intro h htab
    have hfirst : path.toList = (failureText path reason).toList.takeWhile (· != '\t') := by
      rw [← String.toList_ofList (l := List.takeWhile _ _)]
      exact congrArg (fun cut : String × String => cut.1.toList) h.symm
    rw [hfirst] at htab
    simpa using List.mem_takeWhile_imp htab
  · intro htab
    have hpath : ∀ c ∈ path.toList, (c != '\t') = true := by
      intro c hc
      rw [bne_iff_ne]
      rintro rfl
      exact htab hc
    have hline : (failureText path reason).toList
        = path.toList ++ '\t' :: (Text.oneLine reason).toList := by
      simp [failureText]
    rw [cutAtTab, hline, List.takeWhile_append_of_pos hpath, List.dropWhile_append_of_pos hpath]
    simp

namespace Batch

open FileSystem (Frame)

/-! ## The log of a batch -/

/-- The failure log of a batch that has come to the state `final` has one line for each
rejected file, with its path and the reason of its rejection. A file without a line was
not rejected when its worker looked at it, or the batch was stopped before any worker
started with it. -/
structure FailureLog (files : FileSystem) (setup : Setup) (outputs : String) (found : List Path)
    (sinks : Sinks) (report : Report) (final : State) (rejected : List (Path × String)) :
    Prop where
  /-- A file is rejected once. -/
  once : (rejected.map Prod.fst).Subperm found
  lines : HasLines report.files (SinkPaths.of outputs).failures
    (rejected.map fun r => failureText (failedPath setup files r.1) r.2)
  reasons : ∀ r ∈ rejected, ∃ now, Frame sinks.locations files now ∧
    RejectedFor setup now r.1 r.2
  others : ∀ p ∈ found, p ∉ rejected.map Prod.fst →
    (∃ now, Frame sinks.locations files now ∧ ∀ reason, ¬ RejectedFor setup now p reason) ∨
      (∀ t, report.result ≠ .ok t) ∧ ∀ job ∈ final.jobs, job.path = p → job.stage = .cancelled
  counted : ∀ t, report.result = .ok t → t.rejected = rejected.length

/-- What a reader gets back from the failure lines of some files. -/
structure ReadsBack (files : FileSystem) (setup : Setup) (rejected : List (Path × String)) :
    Prop where
  single : ∀ r ∈ rejected, '\n' ∉ (failureText (failedPath setup files r.1) r.2).toList
  /-- A line is cut between the path and the reason unless the path has a tab
  and no line break. -/
  cut : ∀ r ∈ rejected,
    cutAtTab (failureText (failedPath setup files r.1) r.2)
        = (failedPath setup files r.1, Text.oneLine r.2) ↔
      hasLineBreak (shownPath setup files r.1) = true ∨
        '\t' ∉ (shownPath setup files r.1).toList
  /-- Two files have the same field only if they have the same path, or one path
  is written like the escapes of the other. -/
  field : ∀ r ∈ rejected, ∀ r' ∈ rejected,
    failedPath setup files r.1 = failedPath setup files r'.1 ↔
      shownPath setup files r.1 = shownPath setup files r'.1 ∨
        (hasLineBreak (shownPath setup files r.1) = true ∧
          shownPath setup files r'.1 = escapePath (shownPath setup files r.1)) ∨
        (hasLineBreak (shownPath setup files r'.1) = true ∧
          shownPath setup files r.1 = escapePath (shownPath setup files r'.1))

section

variable {setup : Setup} {paths : List Path} {opened : FileSystem} {locations : List Location}
  {calls : List Call} {entry : Nat → Except FileStop Entry} {s : State} {log : List Nat}
  {half : Option Nat}

/-- Whether a file gets a failure line is what its count depends on. -/
theorem isSome_failureKind {i : Nat} {accepted : Bool}
    (h : Except.ok accepted = (entry i).map Entry.isPair) :
    (failureKind.at? entry i).isSome = !accepted := by
  unfold CallKind.at?
  cases hentry : entry i with
  | error stop =>
    rw [hentry] at h
    cases h
  | ok e =>
    rw [hentry] at h
    obtain rfl := Except.ok.inj h
    cases e <;> rfl

/-- The files that are counted when a batch is finished are those that are
written. -/
theorem Dispatched.counted_perm {counted pending : List Nat}
    (hd : Dispatched setup paths counted pending s) (hlog : Logged entry log half s)
    (hr : s.phase = .ended (.ok ())) : counted.Perm log := by
  obtain ⟨-, -, rfl, -⟩ := hd.ended _ hr
  have hall : counted.Perm (List.range s.jobs.length) := by simpa using hd.once
  refine (List.perm_ext_iff_of_nodup (hall.nodup_iff.mpr List.nodup_range) hlog.nodup).mpr ?_
  intro i
  constructor
  · intro hi
    obtain ⟨accepted, hdone⟩ := hd.countedDone i hi
    exact hlog.mem_of_done hdone
  · intro hi
    obtain ⟨stage, hstage, -⟩ := State.isAt_iff.mp ((hlog.mem i).mp hi)
    obtain ⟨path, hjob⟩ := State.stage?_eq_some.mp hstage
    rw [hall.mem_iff, List.mem_range]
    exact (List.getElem?_eq_some_iff.mp hjob).1

/-- A finished batch has a failure line for each file that it counts as
rejected. -/
theorem Dispatched.rejected_eq {counted pending : List Nat}
    (hd : Dispatched setup paths counted pending s) (hagreed : Agreed entry s)
    (hlog : Logged entry log half s) (hr : s.phase = .ended (.ok ())) :
    s.tally.rejected = (failureKind.list entry log).length := by
  rw [hd.rejected, CallKind.list, List.length_filterMap_eq_countP,
    ← (hd.counted_perm hlog hr).countP_eq]
  refine List.countP_congr fun i hi => ?_
  obtain ⟨accepted, hstage⟩ := hd.countedDone i hi
  have hagrees : Except.ok accepted = (entry i).map Entry.isPair := hagreed i _ hstage
  rw [isSome_failureKind hagrees, State.isAccepted, hstage]

/-- A file has one failure line at most. -/
theorem Logged.nodup_jobs (hlog : Logged entry log half s) :
    ((failureKind.list entry log).map (·.job)).Nodup := by
  refine (failureKind.nodup_list hlog.nodup).map_on fun w hw w' hw' hjob => ?_
  obtain ⟨-, hentry⟩ := failureKind.mem_list_iff.mp hw
  obtain ⟨-, hentry'⟩ := failureKind.mem_list_iff.mp hw'
  have hsame : (failureKind.call w).1 = (failureKind.call w').1 := hjob
  rw [hsame, hentry'] at hentry
  exact failureKind.call_inj (Prod.ext hsame (Except.ok.inj hentry).symm)

theorem Writes.path_eq {fs : FileSystem} {p : Path} {path reason : String}
    (h : Writes setup fs p (.failure path reason)) : path = failedPath setup fs p := by
  generalize hentry : Entry.failure path reason = e at h
  cases h with
  | pair _ _ => cases hentry
  | failure _ => exact (Entry.failure.inj hentry).1

namespace Traced

/-- A failure line is for the file at the place of its call. -/
theorem path_eq {files : FileSystem} (hwd : opened.workingDirectory = files.workingDirectory)
    (h : Traced setup paths opened locations calls entry s) (hlog : Logged entry log half s)
    {w : WrittenFailure} (hw : w ∈ failureKind.list entry log) :
    w.job < paths.length ∧ w.path = failedPath setup files (pathAt paths w.job) := by
  obtain ⟨p, hp, hwrites⟩ : ∃ p, paths[w.job]? = some p ∧
      Writes setup opened p (.failure w.path w.reason) :=
    h.madeAt _ ((h.mem_list_iff hlog failureKind w).mp hw).1
  refine ⟨(List.getElem?_eq_some_iff.mp hp).1, ?_⟩
  rw [pathAt_of_getElem? hp]
  exact (hwrites.congr hwd).path_eq

/-- The lines of the failure log are for different files of the batch. -/
theorem subperm (h : Traced setup paths opened locations calls entry s)
    (hlog : Logged entry log half s) :
    ((failureKind.list entry log).map fun w => pathAt paths w.job).Subperm paths := by
  have hjobs : ((failureKind.list entry log).map (·.job)).Subperm (List.range paths.length) := by
    refine List.subperm_of_subset hlog.nodup_jobs fun i hi => ?_
    obtain ⟨w, hw, rfl⟩ := List.mem_map.mp hi
    exact List.mem_range.mpr (h.path_eq rfl hlog hw).1
  obtain ⟨jobs, hperm, hsub⟩ := hjobs
  refine ⟨jobs.map (pathAt paths), ?_, ?_⟩
  · simpa [Function.comp_def] using hperm.map (pathAt paths)
  · simpa [map_pathAt_range] using hsub.map (pathAt paths)

end Traced

namespace Recorded

/-- The jobs of a file are at its place, since the files are different. -/
theorem place_eq {counted : List Nat} {sinks : Sinks}
    (h : Recorded setup paths opened sinks calls entry counted log half s) (hnodup : paths.Nodup)
    {i j : Nat} {path : Path} (hpath : paths[i]? = some path) {job : Job}
    (hjob : s.jobs[j]? = some job) (hsame : job.path = path) : j = i := by
  obtain ⟨_, stage⟩ := job
  obtain rfl := hsame
  have hfile := getElem?_of_handedOut h.traced.handedOut hjob
  exact (List.getElem?_inj (List.getElem?_eq_some_iff.mp hfile).1 hnodup).mp
    (hfile.trans hpath.symm)

/-- A file that has not been handed out when a batch has ended has no job, and the batch has
no result. -/
theorem not_handedOut {counted : List Nat} {sinks : Sinks} {r : Except FileStop Unit}
    (h : Recorded setup paths opened sinks calls entry counted log half s)
    (hnodup : paths.Nodup) (hr : s.phase = .ended r) {i : Nat} {path : Path}
    (hpath : paths[i]? = some path) (hjob : s.jobs[i]? = none) :
    (∀ t, s.outcome ≠ .ok t) ∧ ∀ job ∈ s.jobs, job.path ≠ path := by
  obtain ⟨pending, hd, -⟩ := h.tallied.dispatched
    (List.ne_nil_of_mem (List.mem_of_getElem? hpath))
  refine ⟨fun t ht => ?_, fun job hmem hsame => ?_⟩
  · rw [State.outcome, hr] at ht
    cases r with
    | error stop => cases ht
    | ok _ =>
      -- all files of a batch that returns have been handed out
      have hall := hd.handedOut
      rw [(hd.ended _ hr).2.2.2, List.append_nil] at hall
      rw [← hall, List.getElem?_map, hjob] at hpath
      cases hpath
  · obtain ⟨j, hj⟩ := List.mem_iff_getElem?.mp hmem
    rw [h.place_eq hnodup hpath hj hsame, hjob] at hj
    cases hj

/-- When a batch has ended, a file has its entry, or it has ended the batch, or no worker
has started with it. -/
theorem settled_cases {counted : List Nat} {files : FileSystem} {sinks : Sinks} {p : SinkPaths}
    {r : Except FileStop Unit}
    (h : Recorded setup paths opened sinks calls entry counted log half s)
    (hopen : Sinks.open_ files p = (.ok sinks, opened)) (hnodup : paths.Nodup)
    (hr : s.phase = .ended r) {i : Nat} {path : Path} (hpath : paths[i]? = some path) :
    (∃ e, (i, e) ∈ calls) ∨
      (∃ stop, WorkedOut setup paths opened sinks.locations i (.error stop)) ∨
      (∀ t, s.outcome ≠ .ok t) ∧
        ∀ job ∈ s.jobs, job.path = path → job.stage = .cancelled := by
  obtain ⟨pending, hd, -⟩ := h.tallied.dispatched
    (List.ne_nil_of_mem (List.mem_of_getElem? hpath))
  cases hjob : s.jobs[i]? with
  | none =>
    obtain ⟨hstopped, hnone⟩ := h.not_handedOut hnodup hr hpath hjob
    exact .inr (.inr ⟨hstopped, fun job hmem hsame => absurd hsame (hnone job hmem)⟩)
  | some job =>
    obtain ⟨jobPath, stage⟩ := job
    have hstage : s.stage? i = some stage := State.stage?_of_getElem? hjob
    have hjobOver : stage.isOver = true :=
      (hd.ended r hr).2.1 _ (List.mem_of_getElem? hjob)
    cases stage with
    | done result =>
      cases result with
      | ok accepted =>
        have hcall := (h.calls_perm hr).mem_iff.mpr (h.logged.mem_of_done hstage)
        obtain ⟨⟨_, e⟩, hc, rfl⟩ := List.mem_map.mp hcall
        exact .inl ⟨e, hc⟩
      | error stop => exact .inr (.inl ⟨stop, (h.reached.fromWork hopen).stop i stop hstage⟩)
    | cancelled =>
      obtain ⟨stop, hstop | hstop⟩ := hd.cancelled i hstage
      · cases hr.symm.trans hstop
      · refine .inr (.inr ⟨fun t ht => ?_, fun job' hmem hsame => ?_⟩)
        · rw [State.outcome, hstop] at ht
          cases ht
        · obtain ⟨j, hj⟩ := List.mem_iff_getElem?.mp hmem
          rw [h.place_eq hnodup hpath hj hsame, hjob] at hj
          obtain rfl := Option.some.inj hj
          rfl
    | _ => cases hjobOver

section

variable {files : FileSystem} {sinks : Sinks} {input outputs : String} {found : List Path}
  {counted : List Nat} {r : Except FileStop Unit}

/-- A failure line is for a file that was rejected, with the reason of its rejection. -/
theorem rejectedFor {p : SinkPaths}
    (h : Recorded setup paths opened sinks calls entry counted log half s)
    (hopen : Sinks.open_ files p = (.ok sinks, opened)) {w : WrittenFailure}
    (hw : w ∈ failureKind.list entry log) :
    ∃ now, Frame sinks.locations files now ∧
      RejectedFor setup now (pathAt paths w.job) w.reason := by
  obtain ⟨path, now, hpath, hframe, hentry⟩ := (h.reached.fromWork hopen).call _
    ((h.traced.mem_list_iff h.logged failureKind w).mp hw).1
  refine ⟨now, (Sinks.frame_open hopen).trans_same hframe, ?_⟩
  have hfile : pathAt paths w.job = path := pathAt_of_getElem? hpath
  rw [hfile]
  exact rejectedFor_iff.mpr ⟨w.path, hentry⟩

/-- A file without a failure line was not rejected, or no worker has started with it. -/
theorem not_rejectedFor {p : SinkPaths}
    (h : Recorded setup paths opened sinks calls entry counted log half s)
    (hopen : Sinks.open_ files p = (.ok sinks, opened)) (hnodup : paths.Nodup)
    (hr : s.phase = .ended r) {i : Nat} {path : Path} (hpath : paths[i]? = some path)
    (hnone : ∀ w ∈ failureKind.list entry log, w.job ≠ i) :
    (∃ now, Frame sinks.locations files now ∧ ∀ reason, ¬ RejectedFor setup now path reason) ∨
      (∀ t, s.outcome ≠ .ok t) ∧
        ∀ job ∈ s.jobs, job.path = path → job.stage = .cancelled := by
  have hwork := h.reached.fromWork hopen
  have hopened := Sinks.frame_open hopen
  rcases h.settled_cases hopen hnodup hr hpath with ⟨e, hcall⟩ | ⟨stop, hstop⟩ | hunstarted
  · obtain ⟨path', now, hpath', hframe, hentry⟩ := hwork.call _ hcall
    obtain rfl : path' = path := Option.some.inj (hpath'.symm.trans hpath)
    refine .inl ⟨now, hopened.trans_same hframe, fun reason hrejected => ?_⟩
    obtain rfl : e = .failure (failedPath setup now path') reason :=
      Except.ok.inj (hentry.symm.trans hrejected.workOut_eq)
    exact hnone ⟨i, failedPath setup now path', reason⟩
      ((h.traced.mem_list_iff h.logged failureKind _).mpr
        ⟨hcall, h.traced.isWritten_of_ended hr _ hcall⟩) rfl
  · obtain ⟨path', now, hpath', hframe, herror⟩ := hstop
    obtain rfl : path' = path := Option.some.inj (hpath'.symm.trans hpath)
    refine .inl ⟨now, hopened.trans_same hframe, fun reason hrejected => ?_⟩
    cases herror.symm.trans hrejected.workOut_eq
  · exact .inr hunstarted

/-- What a batch that has ended leaves in the failure log. -/
theorem failureLog {report : Report}
    (h : Recorded setup (found.mergeSort Path.le) opened sinks calls entry counted log half s)
    (hfound : findFiles files input = .ok found) (hne : found.mergeSort Path.le ≠ [])
    (hopen : Sinks.open_ files (.of outputs) = (.ok sinks, opened))
    (hr : s.phase = .ended r) (hresult : report.result = s.outcome)
    (hfiles : report.files = s.files) :
    FailureLog files setup outputs found sinks report s
      ((failureKind.list entry log).map fun w =>
        (pathAt (found.mergeSort Path.le) w.job, w.reason)) := by
  have hperm := List.mergeSort_perm found Path.le
  have hlines : (failureKind.list entry log).map (·.line)
      = ((failureKind.list entry log).map fun w =>
          (pathAt (found.mergeSort Path.le) w.job, w.reason)).map
          fun r => failureText (failedPath setup files r.1) r.2 := by
    rw [List.map_map]
    refine List.map_congr_left fun w hw => ?_
    rw [WrittenFailure.line,
      (h.traced.path_eq (Sinks.frame_open hopen).workingDirectory h.logged hw).2]
    rfl
  refine ⟨?_, ?_, fun q hq => ?_, fun p hp hnone => ?_, fun t ht => ?_⟩
  · rw [List.map_map]
    exact (h.traced.subperm h.logged).trans hperm.subperm
  · obtain ⟨-, -, hread⟩ := h.traced.read_ended hopen h.logged hr
    rw [hfiles, ← hlines]
    refine hasLines_of_read hread fun line hline => ?_
    rw [hlines] at hline
    obtain ⟨-, -, rfl⟩ := List.mem_map.mp hline
    exact not_mem_failureText (not_mem_failedPath setup files _) _
  · obtain ⟨w, hw, rfl⟩ := List.mem_map.mp hq
    exact h.rejectedFor hopen hw
  · obtain ⟨i, hi⟩ := List.mem_iff_getElem?.mp (hperm.mem_iff.mpr hp)
    have hnodup := hperm.nodup_iff.mpr (findFiles_nodup hfound)
    rw [hresult]
    refine h.not_rejectedFor hopen hnodup hr hi fun w hw hjob => hnone ?_
    rw [List.map_map]
    exact List.mem_map.mpr ⟨w, hw, pathAt_of_getElem? (hjob ▸ hi)⟩
  · rw [hresult, State.outcome, hr] at ht
    cases r with
    | error stop => cases ht
    | ok _ =>
      obtain rfl : s.tally = t := Except.ok.inj ht
      obtain ⟨pending, hd, -⟩ := h.tallied.dispatched hne
      rw [List.length_map]
      exact hd.rejected_eq h.traced.agreed h.logged hr

end

end Recorded

end

section

variable {files opened : FileSystem} {parser : SourceParser} {serialize : Serializer}
  {options : BatchOptions} {input outputs : String} {found : List Path} {sinks : Sinks}

/-- Every batch leaves a failure log with one line for each rejected file. -/
theorem exists_failureLog (parser : SourceParser) (serialize : Serializer)
    (options : BatchOptions) (hfound : findFiles files input = .ok found)
    (hopen : Sinks.open_ files (.of outputs) = (.ok sinks, opened))
    (hdistinct : sinks.locations.Nodup) (schedule : List Move) :
    ∃ rejected, FailureLog files (setupOf files parser serialize options) outputs found sinks
      (runBatch files parser serialize options schedule input outputs)
      (endState (setupOf files parser serialize options) opened sinks (found.mergeSort Path.le)
        schedule) rejected := by
  by_cases hne : found = []
  · subst hne
    obtain ⟨hresult, hfiles⟩ := runBatch_of_nil hfound hopen schedule
    refine ⟨[], .refl _, ?_, by simp, by simp, fun t ht => ?_⟩
    · rw [hfiles]
      exact (hasLines_nil hopen hdistinct).2.2
    · rw [hresult] at ht
      obtain rfl := Except.ok.inj ht
      rfl
  · obtain ⟨hresult, hfiles⟩ := runBatch_of_ne_nil hfound hopen hne schedule
    obtain ⟨⟨calls, entry, counted, log, half, h⟩, r, hr⟩ :=
      exists_recorded hopen hdistinct (mergeSort_ne_nil hne) schedule
    exact ⟨_, h.failureLog hfound (mergeSort_ne_nil hne) hopen hr hresult hfiles⟩

theorem readsBack (files : FileSystem) (setup : Setup) (rejected : List (Path × String)) :
    ReadsBack files setup rejected where
  single r _ := not_mem_failureText (not_mem_failedPath setup files r.1) r.2
  cut r _ := by
    have htab : '\t' ∈ (failedPath setup files r.1).toList ↔
        hasLineBreak (shownPath setup files r.1) = false ∧
          '\t' ∈ (shownPath setup files r.1).toList := tab_mem_pathField_iff
    rw [cutAtTab_failureText_iff, htab, not_and_or, Bool.not_eq_false]
  field _ _ _ _ := pathField_eq_iff

/-- **What the failure log tells.** Every rejected file has one line with the reason of its
rejection, which is read back but for tabs in a path that is not escaped, and for paths
that are written like escapes. -/
theorem runBatch_failureLog (hfound : findFiles files input = .ok found)
    (hopen : Sinks.open_ files (.of outputs) = (.ok sinks, opened))
    (hdistinct : sinks.locations.Nodup) (schedule : List Move) :
    ∃ rejected, FailureLog files (setupOf files parser serialize options) outputs found sinks
        (runBatch files parser serialize options schedule input outputs)
        (endState (setupOf files parser serialize options) opened sinks
          (found.mergeSort Path.le) schedule) rejected ∧
      ReadsBack files (setupOf files parser serialize options) rejected := by
  obtain ⟨rejected, hlog⟩ :=
    exists_failureLog parser serialize options hfound hopen hdistinct schedule
  exact ⟨rejected, hlog, readsBack files _ rejected⟩

end

/-! ## A file with a tab in its name -/

/-- A parser that fails on every source. -/
def failingParser : SourceParser := ⟨fun _ => .failure "no tree"⟩

/-- A directory with a file that has a tab in its name. -/
def tabbedFiles : FileSystem where
  entries := [(["work"], .directory), (["work", "a\tb.py"], .file "oops".toUTF8)]
  workingDirectory := ["work"]

theorem status_tabbed :
    tabbedFiles.status "a\tb.py" = .ok (["work", "a\tb.py"], .file "oops".toUTF8) :=
  FileSystem.status_file (by decide) rfl rfl

theorem findFiles_tabbed : findFiles tabbedFiles "a\tb.py" = .ok [Path.ofText "a\tb.py"] :=
  findFiles_file (by decide) (by decide) (by decide) status_tabbed

theorem open_tabbed : ∃ opened, Sinks.open_ tabbedFiles (.of "out")
    = (.ok ⟨{ location := ["work", "out.json"] }, { location := ["work", "out.txt"] },
        { location := ["work", "out_failed.txt"] }⟩, opened) :=
  open_free rfl rfl rfl rfl rfl

theorem runBatch_failureLog_tabbed : ∃ sinks opened,
    findFiles tabbedFiles "a\tb.py" = .ok [Path.ofText "a\tb.py"] ∧
    Sinks.open_ tabbedFiles (.of "out") = (.ok sinks, opened) ∧ sinks.locations.Nodup ∧
    ∃ rejected, FailureLog tabbedFiles (setupOf tabbedFiles failingParser writeDocument anySize)
        "out" [Path.ofText "a\tb.py"] sinks
        (runBatch tabbedFiles failingParser writeDocument anySize [] "a\tb.py" "out")
        (endState (setupOf tabbedFiles failingParser writeDocument anySize) opened sinks
          ([Path.ofText "a\tb.py"].mergeSort Path.le) []) rejected ∧
      ReadsBack tabbedFiles (setupOf tabbedFiles failingParser writeDocument anySize)
        rejected := by
  obtain ⟨opened, hopen⟩ := open_tabbed
  exact ⟨_, opened, findFiles_tabbed, hopen, by decide,
    runBatch_failureLog findFiles_tabbed hopen (by decide) []⟩

theorem parseFile_failingParser_ne_ok (fs : FileSystem) (origin : Origin)
    (settings : ParseSettings) (path : String) (tree : Tree RawLabel) :
    (parseFile fs failingParser origin settings path).1 ≠ .ok tree := by
  unfold parseFile
  intro h
  split at h
  · cases h
  · split at h <;> cases h

/-- The file is rejected, and its line is cut in the middle of its path. -/
theorem not_cutAtTab_tabbed : ∃ sinks opened rejected,
    findFiles tabbedFiles "a\tb.py" = .ok [Path.ofText "a\tb.py"] ∧
    Sinks.open_ tabbedFiles (.of "out") = (.ok sinks, opened) ∧ sinks.locations.Nodup ∧
    FailureLog tabbedFiles (setupOf tabbedFiles failingParser writeDocument anySize)
        "out" [Path.ofText "a\tb.py"] sinks
        (runBatch tabbedFiles failingParser writeDocument anySize [] "a\tb.py" "out")
        (endState (setupOf tabbedFiles failingParser writeDocument anySize) opened sinks
          ([Path.ofText "a\tb.py"].mergeSort Path.le) []) rejected ∧
    ∃ r ∈ rejected,
      cutAtTab (failureText (failedPath (setupOf tabbedFiles failingParser writeDocument anySize)
          tabbedFiles r.1) r.2)
        ≠ (failedPath (setupOf tabbedFiles failingParser writeDocument anySize) tabbedFiles r.1,
            Text.oneLine r.2) := by
  obtain ⟨opened, hopen⟩ := open_tabbed
  obtain ⟨rejected, hlog⟩ := exists_failureLog failingParser writeDocument anySize
    findFiles_tabbed hopen (by decide) []
  have hregular : ParsesRegularly (setupOf tabbedFiles failingParser writeDocument anySize)
      tabbedFiles (Path.ofText "a\tb.py") := fun _ _ _ _ => trivial
  have hfeasible := feasible_file findFiles_tabbed (by decide) status_tabbed hopen (by decide)
    hregular
  obtain ⟨order, hleaves⟩ := exists_leaves [] hfeasible (by decide)
  have hpair : getsPair (setupOf tabbedFiles failingParser writeDocument anySize) tabbedFiles
      (Path.ofText "a\tb.py") = false := by
    obtain ⟨e, he, hentry⟩ := hfeasible.isEntryOf (List.mem_singleton_self _)
    cases hentry with
    | pair haccepts =>
      obtain ⟨tree, records, hok, -⟩ := haccepts.tree
      exact (parseFile_failingParser_ne_ok _ _ _ _ _ hok).elim
    | failure _ =>
      rw [getsPair, he]
      rfl
  have hlength : 1 = rejected.length := by
    simpa [hpair] using hlog.counted _ hleaves.result
  obtain ⟨r, hr⟩ := List.exists_mem_of_length_pos (hlength ▸ Nat.one_pos)
  have hfile : r.1 = Path.ofText "a\tb.py" :=
    List.mem_singleton.mp (hlog.once.subset (List.mem_map_of_mem hr))
  refine ⟨_, opened, rejected, findFiles_tabbed, hopen, by decide, hlog, r, hr, ?_⟩
  rw [Ne, cutAtTab_failureText_iff, hfile]
  decide

end Batch
end SyntaxCorpus
