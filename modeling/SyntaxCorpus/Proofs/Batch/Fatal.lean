/-
SyntaxCorpus.Proofs.Batch.Fatal — errors that end a batch before its files.

The files of a batch are searched before its outputs are opened, and these before
any file is worked on. What a batch leaves when the search or an output fails is
therefore known exactly; and what is in the outputs of a batch that returns was
written by it, as opening an output makes it empty.

* `EndsAtOutput` — what a batch leaves that is ended by an output.
* `OwnLines` — the lines of the outputs are those of the calls of a batch.
* `Returned` — what a batch leaves that returns.
* `FatalFirst`, `runBatch_fatalFirst` — every batch leaves that, for every
  schedule.
* `not_apart_linked` — what happens to outputs that are one file.
-/
import SyntaxCorpus.Proofs.Batch.Opens
import SyntaxCorpus.Proofs.Batch.WorkedOut

namespace SyntaxCorpus.Batch

open FileSystem (Frame IsEntry)

/-! ## What a batch leaves -/

/-- What a batch leaves that is ended by the output `p`: the outputs `earlier`
are opened as `sinks`, and `now` is what there is then. -/
structure EndsAtOutput (files : FileSystem) (outputs : String) (report : Report)
    (e : SinkOpenError) (earlier : List Path) (p : Path) (later : List Path)
    (sinks : List Sink) (now : FileSystem) : Prop where
  order : (SinkPaths.of outputs).toList = earlier ++ p :: later
  opened : Opens files earlier sinks now
  failed : now.openForWriting p.text = .error e.cause
  path : e.path = p.text
  /-- It could not be opened at the start, unlike those before it. -/
  first : ¬ files.CanOpen p.text ∧ (files.IsGrounded → ∀ q ∈ earlier, files.CanOpen q.text)
  closed : report.files = closeAll now sinks
  empty : ∀ q ∈ earlier, report.files.read q.text = .ok .empty
  /-- Only the files of the outputs before it are different. -/
  frame : Frame (sinks.map (·.location)) files report.files
  /-- It leads to what it led to, and so does every path that leads to no output
  before it. -/
  unchanged : ∀ path l n, files.status path = .ok (l, n) →
    path = p.text ∨ l ∉ sinks.map (·.location) → report.files.status path = .ok (l, n)
  uncalled : parseCalls report.events = []

/-- The outputs have the lines of calls that workers made in a batch. -/
structure OwnLines (setup : Setup) (outputs : String) (paths : List Path) (opened : FileSystem)
    (sinks : Sinks) (report : Report) (calls : List Call) (pairs : List WrittenPair)
    (failures : List WrittenFailure) : Prop where
  made : ∃ s, Reached setup (initial opened sinks paths) calls s
  worked : ∀ c ∈ calls, WorkedOut setup paths opened sinks.locations c.1 (.ok c.2)
  pair : ∀ w ∈ pairs, w.call ∈ calls
  failure : ∀ w ∈ failures, w.call ∈ calls
  documents : report.files.read (SinkPaths.of outputs).documents.text
    = .ok (textOf (pairs.map (·.document))).toUTF8
  paths : report.files.read (SinkPaths.of outputs).paths.text
    = .ok (textOf (pairs.map (·.path))).toUTF8
  failures : report.files.read (SinkPaths.of outputs).failures.text
    = .ok (textOf (failures.map (·.line))).toUTF8
  /-- What a call writes are single lines. -/
  single : Faithful setup.serialize → ∀ c ∈ calls, c.2.OnLines

/-- What a batch leaves that returns. -/
structure Returned (setup : Setup) (outputs : String) (found : List Path) (sinks : Sinks)
    (opened : FileSystem) (report : Report) : Prop where
  exist : ∀ p ∈ (SinkPaths.of outputs).toList, ∃ content, report.files.read p.text = .ok content
  empty : found = [] → ∀ p ∈ (SinkPaths.of outputs).toList, report.files.read p.text = .ok .empty
  lines : sinks.locations.Nodup → ∃ calls pairs failures,
    OwnLines setup outputs (found.mergeSort Path.le) opened sinks report calls pairs failures

/-- Errors of the input and of the outputs come before any file is worked on. -/
structure FatalFirst (files : FileSystem) (setup : Setup) (input outputs : String)
    (report : Report) : Prop where
  discovery_iff : ∀ e, report.result = .error (.discovery e) ↔ findFiles files input = .error e
  discovery : ∀ e, report.result = .error (.discovery e) →
    report.files = files ∧ parseCalls report.events = []
  /-- The outputs are opened when the files are found. -/
  output_iff : ∀ e, report.result = .error (.sinks e) ↔
    (∃ found, findFiles files input = .ok found) ∧ (Sinks.open_ files (.of outputs)).1 = .error e
  output : ∀ e, report.result = .error (.sinks e) →
    ∃ earlier p later sinks now, EndsAtOutput files outputs report e earlier p later sinks now
  returns : ∀ t, report.result = .ok t → ∃ found sinks opened,
    findFiles files input = .ok found ∧
    Sinks.open_ files (.of outputs) = (.ok sinks, opened) ∧
    Returned setup outputs found sinks opened report
  /-- A batch without files returns if its outputs can be opened. -/
  empty : findFiles files input = .ok [] →
    ((∃ t, report.result = .ok t) ↔ ∃ sinks, (Sinks.open_ files (.of outputs)).1 = .ok sinks)

section

variable {files opened : FileSystem} {parser : SourceParser} {serialize : Serializer}
  {options : BatchOptions} {input outputs : String} {found : List Path} {sinks : Sinks}

/-! ## Ended before the files -/

theorem runBatch_of_notFound {e : DiscoveryError} (hfound : findFiles files input = .error e)
    (schedule : List Move) :
    runBatch files parser serialize options schedule input outputs
      = ⟨.error (.discovery e), files, []⟩ := by
  delta runBatch
  rw [hfound]

theorem runBatch_of_unopened {e : SinkOpenError} {after : FileSystem}
    (hfound : findFiles files input = .ok found)
    (hopen : Sinks.open_ files (.of outputs) = (.error e, after)) (schedule : List Move) :
    runBatch files parser serialize options schedule input outputs
      = ⟨.error (.sinks e), after,
          [.log (searchEntry input found.length), startEvent found.length]⟩ := by
  delta runBatch
  rw [hfound]
  delta processFiles
  simp only [hopen, List.length_mergeSort]

/-- Opening the outputs ends at the first one that cannot be opened. -/
theorem exists_endsAtOutput {e : SinkOpenError} {after : FileSystem} {events : List Event}
    (hopen : Sinks.open_ files (.of outputs) = (.error e, after))
    (hevents : parseCalls events = []) :
    ∃ earlier p later sinks now, EndsAtOutput files outputs ⟨.error (.sinks e), after, events⟩ e
      earlier p later sinks now := by
  have hloop := openAll_toList files (.of outputs)
  rw [hopen] at hloop
  rcases openAll_cases files [] (SinkPaths.of outputs).toList with
    ⟨sinks, now, -, heq⟩ | ⟨earlier, p, later, sinks, now, e', horder, hopens, hpath, hcause, heq⟩
  · cases hloop.symm.trans heq
  obtain ⟨he, hafter⟩ := Prod.mk.inj (hloop.symm.trans heq)
  obtain rfl : e = e' := Except.error.inj he
  obtain rfl : after = now := hafter.trans (hopens.closeAll_eq now)
  have hframe := hopens.frame
  have hclosed : ¬ files.CanOpen p.text :=
    fun hcan => FileSystem.not_canOpen hcause (hframe.canOpen hcan)
  refine ⟨earlier, p, later, sinks, after, horder, hopens, hcause, hpath,
    ⟨hclosed, hopens.canOpen⟩, hafter, hopens.read, hframe, ?_, hevents⟩
  rintro path l n hstatus hother
  refine hframe.status_eq hstatus fun hl => ?_
  -- the output that cannot be opened leads to no file
  obtain rfl := hother.resolve_right (not_not_intro hl)
  have hn := FileSystem.node?_of_status hstatus
  rcases hframe.wasFile l hl with hnone | ⟨content, hcontent⟩
  · cases hn.symm.trans hnone
  · obtain rfl := Option.some.inj (hn.symm.trans hcontent)
    exact hclosed (FileSystem.canOpen_of_status hstatus)

/-! ## Returned -/

/-- A batch whose outputs are open has no error of the input or of an output. -/
theorem result_of_open (hfound : findFiles files input = .ok found)
    (hopen : Sinks.open_ files (.of outputs) = (.ok sinks, opened)) (schedule : List Move) :
    (∀ e, (runBatch files parser serialize options schedule input outputs).result
      ≠ .error (.discovery e)) ∧
    ∀ e, (runBatch files parser serialize options schedule input outputs).result
      ≠ .error (.sinks e) := by
  by_cases hne : found = []
  · subst hne
    simp [(runBatch_of_nil hfound hopen schedule).1]
  · rw [(runBatch_of_ne_nil hfound hopen hne schedule).1, State.outcome]
    split <;> simp

/-- A batch writes to nothing but its outputs. -/
theorem frame_of_open (hfound : findFiles files input = .ok found)
    (hopen : Sinks.open_ files (.of outputs) = (.ok sinks, opened)) (schedule : List Move) :
    Frame sinks.locations opened
      (runBatch files parser serialize options schedule input outputs).files := by
  by_cases hne : found = []
  · subst hne
    rw [(runBatch_of_nil hfound hopen schedule).2]
    exact Sinks.frame_close (Sinks.haveFiles_iff.mpr (Sinks.frame_open hopen).isFile)
  · obtain ⟨calls, hreached⟩ := exists_reached_complete
      (setupOf files parser serialize options) (initial opened sinks (found.mergeSort Path.le))
      schedule
    obtain ⟨entry, htraced⟩ := hreached.traced hopen
    rw [(runBatch_of_ne_nil hfound hopen hne schedule).2]
    exact htraced.framed.frame

/-- The outputs of a batch are there when it has ended. -/
theorem exists_read_outputs (hopen : Sinks.open_ files (.of outputs) = (.ok sinks, opened))
    {later : FileSystem} (hframe : Frame sinks.locations opened later) :
    ∀ p ∈ (SinkPaths.of outputs).toList, ∃ content, later.read p.text = .ok content := by
  obtain ⟨⟨d, hd⟩, ⟨p, hp⟩, f, hf⟩ := Sinks.haveFiles_iff.mpr hframe.isFile
  obtain ⟨hd, hp, hf⟩ := Sinks.read_opened hopen hframe hd hp hf
  simp [SinkPaths.toList, hd, hp, hf]

/-- A batch without files leaves empty outputs. -/
theorem read_of_nil (hfound : findFiles files input = .ok [])
    (hopen : Sinks.open_ files (.of outputs) = (.ok sinks, opened)) (schedule : List Move) :
    ∀ p ∈ (SinkPaths.of outputs).toList,
      (runBatch files parser serialize options schedule input outputs).files.read p.text
        = .ok .empty := by
  have hopens := Sinks.opens_of_open hopen
  have hclose : sinks.close opened = opened := hopens.closeAll_eq opened
  rw [(runBatch_of_nil hfound hopen schedule).2, hclose]
  exact hopens.read

theorem ownLines_of_empty {setup : Setup} {report : Report}
    (hread : ∀ p ∈ (SinkPaths.of outputs).toList, report.files.read p.text = .ok .empty) :
    OwnLines setup outputs [] opened sinks report [] [] [] :=
  ⟨⟨_, .start⟩, by simp, by simp, by simp, hread _ (by simp [SinkPaths.toList]),
    hread _ (by simp [SinkPaths.toList]), hread _ (by simp [SinkPaths.toList]), by simp⟩

/-- The outputs that a batch with files leaves have the lines of its calls, if
they are three different files. -/
theorem exists_ownLines (hfound : findFiles files input = .ok found)
    (hopen : Sinks.open_ files (.of outputs) = (.ok sinks, opened)) (hne : found ≠ [])
    (hdistinct : sinks.locations.Nodup) (schedule : List Move) : ∃ calls pairs failures,
      OwnLines (setupOf files parser serialize options) outputs (found.mergeSort Path.le) opened
        sinks (runBatch files parser serialize options schedule input outputs) calls pairs
        failures := by
  obtain ⟨calls, hreached⟩ := exists_reached_complete
    (setupOf files parser serialize options) (initial opened sinks (found.mergeSort Path.le))
    schedule
  obtain ⟨r, hr⟩ := complete_ended (setupOf files parser serialize options) opened sinks
    (mergeSort_ne_nil hne) schedule
  obtain ⟨entry, htraced⟩ := hreached.traced hopen
  obtain ⟨log, half, hlog⟩ := htraced.logged hdistinct
  obtain ⟨hd, hp, hf⟩ := htraced.read_ended hopen hlog hr
  have hfiles : (runBatch files parser serialize options schedule input outputs).files
      = (endState (setupOf files parser serialize options) opened sinks
          (found.mergeSort Path.le) schedule).files :=
    (runBatch_of_ne_nil hfound hopen hne schedule).2
  refine ⟨calls, pairKind.list entry log, failureKind.list entry log, {
    made := ⟨_, hreached⟩
    worked := (hreached.fromWork hopen).call
    pair := fun w hw => ((htraced.mem_list_iff hlog pairKind w).mp hw).1
    failure := fun w hw => ((htraced.mem_list_iff hlog failureKind w).mp hw).1
    documents := by rw [hfiles]; exact hd
    paths := by rw [hfiles]; exact hp
    failures := by rw [hfiles]; exact hf
    single := fun hfaithful c hc => htraced.onLines hfaithful hc }⟩

theorem returned (hfound : findFiles files input = .ok found)
    (hopen : Sinks.open_ files (.of outputs) = (.ok sinks, opened)) (schedule : List Move) :
    Returned (setupOf files parser serialize options) outputs found sinks opened
      (runBatch files parser serialize options schedule input outputs) where
  exist := exists_read_outputs hopen (frame_of_open hfound hopen schedule)
  empty := by
    rintro rfl
    exact read_of_nil hfound hopen schedule
  lines := by
    intro hdistinct
    by_cases hne : found = []
    · subst hne
      rw [List.mergeSort_nil]
      exact ⟨_, _, _, ownLines_of_empty (read_of_nil hfound hopen schedule)⟩
    · exact exists_ownLines hfound hopen hne hdistinct schedule

/-! ## A whole batch -/

theorem fatalFirst_of_notFound {e : DiscoveryError} (hfound : findFiles files input = .error e)
    (schedule : List Move) : FatalFirst files (setupOf files parser serialize options) input outputs
      (runBatch files parser serialize options schedule input outputs) := by
  rw [runBatch_of_notFound hfound]
  refine ⟨fun e' => ?_, fun _ _ => ⟨rfl, rfl⟩, fun e' => ?_, fun _ he => ?_, fun _ ht => ?_,
    fun hnil => ?_⟩
  · simp [hfound]
  · simp [hfound]
  · cases he
  · cases ht
  · cases hfound.symm.trans hnil

theorem fatalFirst_of_unopened {e : SinkOpenError} {after : FileSystem}
    (hfound : findFiles files input = .ok found)
    (hopen : Sinks.open_ files (.of outputs) = (.error e, after)) (schedule : List Move) :
    FatalFirst files (setupOf files parser serialize options) input outputs
      (runBatch files parser serialize options schedule input outputs) := by
  rw [runBatch_of_unopened hfound hopen]
  refine ⟨fun e' => ?_, fun _ he => ?_, fun e' => ?_, fun e' he => ?_, fun _ ht => ?_,
    fun _ => ?_⟩
  · simp [hfound]
  · cases he
  · simp [hfound, hopen]
  · cases he
    exact exists_endsAtOutput hopen rfl
  · cases ht
  · simp [hopen]

theorem fatalFirst_of_open (hfound : findFiles files input = .ok found)
    (hopen : Sinks.open_ files (.of outputs) = (.ok sinks, opened)) (schedule : List Move) :
    FatalFirst files (setupOf files parser serialize options) input outputs
      (runBatch files parser serialize options schedule input outputs) := by
  obtain ⟨hdiscovery, hsinks⟩ := result_of_open hfound hopen schedule
  refine ⟨fun e => iff_of_false (hdiscovery e) (by simp [hfound]),
    fun e he => absurd he (hdiscovery e), fun e => iff_of_false (hsinks e) (by simp [hopen]),
    fun e he => absurd he (hsinks e),
    fun t _ => ⟨found, sinks, opened, hfound, hopen, returned hfound hopen schedule⟩,
    fun hnil => ?_⟩
  exact iff_of_true ⟨_, (runBatch_of_nil hnil hopen schedule).1⟩ ⟨sinks, by rw [hopen]⟩

/-- **Errors of the input and of the outputs come before any file is worked
on.** -/
theorem runBatch_fatalFirst (files : FileSystem) (parser : SourceParser) (serialize : Serializer)
    (options : BatchOptions) (schedule : List Move) (input outputs : String) :
    FatalFirst files (setupOf files parser serialize options) input outputs
      (runBatch files parser serialize options schedule input outputs) := by
  cases hfound : findFiles files input with
  | error e => exact fatalFirst_of_notFound hfound schedule
  | ok found =>
    obtain ⟨result, opened, hopen⟩ : ∃ result opened,
        Sinks.open_ files (.of outputs) = (result, opened) := ⟨_, _, rfl⟩
    cases result with
    | error e => exact fatalFirst_of_unopened hfound hopen schedule
    | ok sinks => exact fatalFirst_of_open hfound hopen schedule

end

/-! ## Outputs that are one file -/

/-- The directory of the source file, with a directory in the place of the second
output and a link to the third one in the place of the first one. -/
def blockedFiles : FileSystem where
  entries := sourceFiles.entries
    ++ [(["work", "out_failed.txt"], .file "old\n".toUTF8),
      (["work", "out.json"], .link "out_failed.txt"), (["work", "out.txt"], .directory)]
  workingDirectory := ["work"]

/-- The first output is the third one; the second one cannot be opened. -/
theorem open_blocked : Sinks.open_ blockedFiles (.of "out")
    = (.error ⟨"out.txt", .isADirectory⟩,
        blockedFiles.set ["work", "out_failed.txt"] (.file .empty)) := by
  have hd : (SinkPaths.of "out").documents.text = "out.json" := by decide
  have hp : (SinkPaths.of "out").paths.text = "out.txt" := by decide
  have hentry : IsEntry .create "out.json" [] := by decide
  have hfirst : blockedFiles.openForWriting "out.json" = .ok (["work", "out_failed.txt"],
      blockedFiles.set ["work", "out_failed.txt"] (.file .empty)) :=
    FileSystem.openForWriting_of_find (FileSystem.find_of_isName (by decide)
      (.follow rfl hentry rfl rfl (FileSystem.leads_file rfl (by decide) rfl)))
  have hframe := Frame.openForWriting hfirst
  generalize blockedFiles.set ["work", "out_failed.txt"] (.file .empty) = now at hfirst hframe
  have hhere : now.node? now.workingDirectory = some .directory := by
    rw [hframe.workingDirectory]
    exact hframe.node?_directory rfl
  have hnode : now.node? (now.workingDirectory ++ ["out.txt"]) = some .directory := by
    rw [hframe.workingDirectory]
    exact hframe.node?_directory rfl
  have hsecond : now.openForWriting "out.txt" = .error .isADirectory := by
    rw [FileSystem.openForWriting, FileSystem.find_of_isName (by decide)
      (.enter hhere (by decide) hnode (by simp) (.arrive hnode))]
    rfl
  simp only [Sinks.open_, openSink, hd, hp, hfirst, hsecond]

section

variable {setup : Setup} {opened : FileSystem} {sinks : Sinks} {p : Path}
  {path document : String}

/-- The end of a batch of a single file that is accepted. -/
theorem endState_of_pair (hwork : (workOut setup opened p).1 = .ok (.pair path document))
    (hone : setup.options.workers = 1) :
    let whole := sinks.writeAccepted opened path document
    (endState setup opened sinks [p] []).files = whole.2.close whole.1 ∧
      (endState setup opened sinks [p] []).outcome = .ok ⟨1, 1, 0⟩ := by
  obtain ⟨events, hwork⟩ : ∃ events, workOut setup opened p = (.ok (.pair path document), events) :=
    ⟨_, Prod.ext hwork rfl⟩
  -- every step of the run is computed
  simp [endState, complete, remaining, workOn, completeWithin, nextMove, nextWorker?, run, step,
    submit, initial, hone, start, State.busy, State.firstQueued?, advance, State.setStage, hwork,
    State.note, Stage.isQueued, Stage.isBusy, State.lock, State.setLock, Entry.isPair,
    State.setSinks, Sinks.writeAccepted, pick, mayPick, State.isDone, State.stage?, count, finish,
    result?, Stage.isOver, State.outcome, Tally.count, Tally.add]

end

/-- The document of the source file. -/
def sourceDocument : String := "[\x7b\"id\":0,\"type\":\"root\",\"children\":[]\x7d]"

/-- What is left of it after the path of the file was written over it. -/
def sourceRest : String := "\":0,\"type\":\"root\",\"children\":[]\x7d]"

theorem workOut_linked :
    (workOut (setupOf linkedFiles oneNodeParser writeDocument anySize) linkedFiles
      (Path.ofText "a.py")).1 = .ok (.pair "a.py" sourceDocument) := by
  have hshown : shownPath (setupOf linkedFiles oneNodeParser writeDocument anySize) linkedFiles
      (Path.ofText "a.py") = "a.py" := by decide
  have hparse : (parseFile linkedFiles oneNodeParser .worker anySize.settings
      (Path.ofText "a.py").text).1 = .ok (.node ⟨.text "root", .null⟩ []) :=
    congrArg Prod.fst (parseFile_source oneNodeParser status_linked)
  have hrecords : flattenRaw (.node ⟨.text "root", .null⟩ [])
      = .ok [⟨0, "root", .null, []⟩] := by cbv
  have hdocument : Document.write [⟨0, "root", .null, []⟩] = sourceDocument := by decide
  rw [workOut_of_unbroken (by rw [hshown]; decide), hshown]
  show (outcomeOf anySize "a.py" (parseFile linkedFiles oneNodeParser .worker anySize.settings
      (Path.ofText "a.py").text).1).map (fun outcome => (entryOf writeDocument outcome).1) = _
  rw [hparse, outcomeOf, hrecords, ← hdocument]
  rfl

/-- Two lines written to the same file go over each other. -/
theorem node?_close_linked {fs : FileSystem} {l : Location} (l' : Location)
    (hempty : fs.node? l = some (.file .empty)) :
    let sinks : Sinks := ⟨{ location := l }, { location := l }, { location := l' }⟩
    let whole := sinks.writeAccepted fs "a.py" sourceDocument
    (whole.2.close whole.1).node? l = some (.file (textOf ["a.py", sourceRest]).toUTF8) := by
  have hover : overwrite (overwrite .empty 0 (sourceDocument ++ "\n").toUTF8) 0
        ("a.py" ++ "\n").toUTF8
      = (textOf ["a.py", sourceRest]).toUTF8 := by decide +kernel
  have hdocument : Sink.write fs { location := l } (sourceDocument ++ "\n")
      = (fs, { location := l, text := (sourceDocument ++ "\n").toUTF8 }) := by
    have hshort : ByteArray.empty.size + (sourceDocument ++ "\n").toUTF8.size < textLimit := by
      decide
    simpa using Sink.write_of_short (s := { location := l }) hshort
  have hpath : Sink.write fs { location := l } ("a.py" ++ "\n")
      = (fs, { location := l, text := ("a.py" ++ "\n").toUTF8 }) := by
    have hshort : ByteArray.empty.size + ("a.py" ++ "\n").toUTF8.size < textLimit := by decide
    simpa using Sink.write_of_short (s := { location := l }) hshort
  have hclose : ∀ now : FileSystem, Sink.close now { location := l' } = now := fun _ => rfl
  simp only [Sinks.writeAccepted, Sinks.writeDocument, Sinks.writePath, hdocument, hpath,
    Sinks.close, hclose]
  rw [Sink.close_of_short (by decide) (by decide), Sink.close_of_short (by decide) (by decide),
    FileSystem.node?_writeAt (FileSystem.node?_writeAt hempty _ _), hover]

/-- The two lines of a pair that go over each other. -/
theorem lines_linked :
    (runBatch linkedFiles oneNodeParser writeDocument anySize [] "a.py" "out").result
        = .ok ⟨1, 1, 0⟩ ∧
      HasLines (runBatch linkedFiles oneNodeParser writeDocument anySize [] "a.py" "out").files
        (SinkPaths.of "out").paths ["a.py", sourceRest] := by
  obtain ⟨opened, hopen⟩ := open_linked
  have hfeasible := feasible_single status_linked hopen (by decide)
  have hempty := (Sinks.opens_of_open hopen).node? ["work", "out.txt"] (by decide)
  have hsame : Frame _ opened opened :=
    (Frame.refl opened).mono (by simp) (Sinks.frame_open hopen).isFile
  have hwork : (workOut (setupOf linkedFiles oneNodeParser writeDocument anySize) opened
      (Path.ofText "a.py")).1 = .ok (.pair "a.py" sourceDocument) := by
    rw [hfeasible.placed.steady opened hsame _ (by simp)]
    exact workOut_linked
  obtain ⟨hfiles, houtcome⟩ := endState_of_pair hwork rfl
  have hframe := frame_runBatch [] hfeasible
  have hreport : (runBatch linkedFiles oneNodeParser writeDocument anySize [] "a.py" "out").result
      = _ ∧ (runBatch linkedFiles oneNodeParser writeDocument anySize [] "a.py" "out").files = _ :=
    runBatch_of_ne_nil hfeasible.isFound hopen (by simp) []
  rw [List.mergeSort_singleton] at hreport
  rw [houtcome, hfiles] at hreport
  refine ⟨hreport.1, ?_⟩
  obtain ⟨c, hfailures⟩ := (Sinks.haveFiles_iff.mpr hframe.isFile).failures
  have hnode := node?_close_linked ["work", "out_failed.txt"] hempty
  dsimp only at hnode
  rw [← hreport.2] at hnode
  obtain ⟨-, hread, -⟩ := Sinks.read_opened hopen hframe hnode hnode hfailures
  exact hasLines_of_read hread (by decide)

/-- Outputs that are one file: the third one is made empty though the second one
ends the batch, and the second one has a line that is neither a path nor a
document. -/
theorem not_apart_linked :
    ((runBatch blockedFiles oneNodeParser writeDocument anySize [] "a.py" "out").result
        = .error (.sinks ⟨(SinkPaths.of "out").paths.text, .isADirectory⟩) ∧
      blockedFiles.read (SinkPaths.of "out").failures.text = .ok "old\n".toUTF8 ∧
      (runBatch blockedFiles oneNodeParser writeDocument anySize [] "a.py" "out").files.read
        (SinkPaths.of "out").failures.text = .ok .empty) ∧
    (runBatch linkedFiles oneNodeParser writeDocument anySize [] "a.py" "out").result
        = .ok ⟨1, 1, 0⟩ ∧
      HasLines (runBatch linkedFiles oneNodeParser writeDocument anySize [] "a.py" "out").files
        (SinkPaths.of "out").paths ["a.py", sourceRest] := by
  have hp : (SinkPaths.of "out").paths.text = "out.txt" := by decide
  have hf : (SinkPaths.of "out").failures.text = "out_failed.txt" := by decide
  have hold : blockedFiles.status "out_failed.txt"
      = .ok (["work", "out_failed.txt"], .file "old\n".toUTF8) :=
    FileSystem.status_file (by decide) rfl rfl
  have hsource : blockedFiles.status "a.py" = .ok (["work", "a.py"], .file "nodes 1".toUTF8) :=
    FileSystem.status_file (by decide) rfl rfl
  have hframe : Frame [["work", "out_failed.txt"]] blockedFiles
      (blockedFiles.set ["work", "out_failed.txt"] (.file .empty)) :=
    Frame.set_file _ (by simp) (.inr ⟨_, rfl⟩) _
  have hnow := hframe.status hold
    (FileSystem.node?_set blockedFiles (by simp) (.file .empty) ["work", "out_failed.txt"])
  rw [runBatch_of_unopened (findFiles_single hsource) open_blocked, hp, hf]
  refine ⟨⟨rfl, ?_, ?_⟩, lines_linked⟩
  · rw [FileSystem.read, hold]
    rfl
  · rw [FileSystem.read, hnow]
    rfl

end SyntaxCorpus.Batch
