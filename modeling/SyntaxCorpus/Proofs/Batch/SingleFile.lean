/-
SyntaxCorpus.Proofs.Batch.SingleFile — a batch and the export of a single file
agree.

A batch parses a file in a worker, catches some of the errors and writes lines;
the export of a single file does its work at once and passes on every error. For
the same content and the same settings both come to the same records and the same
document, or to the same failure.

* `SeenAs` — what a worker reads of a file, and the outcome that it comes to.
* `RejectedAlone` — what the export of a file does that a batch rejects.
* `exports_of_accepted`, `rejectedAlone_of_rejected` — an outcome tells what the
  export does, wherever the file has the same content.
* `AgreesWithExports`, `runBatch_agreesWithExports` — so do the entries that a
  batch leaves, for every schedule, if its outputs are three different files.
-/
import SyntaxCorpus.Proofs.Batch.Order
import SyntaxCorpus.Proofs.Export

namespace SyntaxCorpus.Batch

open FileSystem (Frame)

/-- What the worker of a file reads, and the outcome that it comes to. -/
structure SeenAs (files : FileSystem) (setup : Setup) (sinks : Sinks) (paths : List Path)
    (job : Nat) (p : Path) (content : ByteArray) (outcome : Outcome) : Prop where
  path : paths[job]? = some p
  /-- A file that is no output has the content that it had before the batch. -/
  same : ∀ l n, files.status p.text = .ok (l, n) → l ∉ sinks.locations →
    files.read p.text = .ok content
  outcome : ∃ now, Frame sinks.locations files now ∧ now.read p.text = .ok content ∧
    (processFile now setup.parser .worker setup.options setup.root p).1 = .ok outcome

/-- What the export of a file does, from the surroundings `before`, that a batch shows as
`shown` and rejects. An export that fails to parse the file changes neither files nor
output. -/
inductive RejectedAlone (setup : Setup) (shown : String) (before : Surroundings) (p : Path) :
    Rejection → Prop
  | parseFailed {f}
      (hexport : ∀ output, ∃ after, exportFile before setup.parser setup.serialize
          setup.options.settings p.text output = (.error (.parse (.failed f)), after) ∧
        before.Unchanged after) :
      RejectedAlone setup shown before p ⟨shown, .parseFailed, f.message⟩
  | tooFewNodes {records document}
      (hexports : Exports before setup.parser setup.serialize setup.options.settings p.text
        records document)
      (hfew : records.length < setup.options.minNodes) :
      RejectedAlone setup shown before p ⟨shown, .tooFewNodes, "too few nodes"⟩
  | tooManyNodes {records document}
      (hexports : Exports before setup.parser setup.serialize setup.options.settings p.text
        records document)
      (hmany : setup.options.maxNodes < records.length) :
      RejectedAlone setup shown before p ⟨shown, .tooManyNodes, "too many nodes"⟩
  | invalidPath (hbreak : hasLineBreak shown = true) :
      RejectedAlone setup shown before p
        ⟨escapePath shown, .invalidPath, "path contains a line break"⟩

/-- What a batch leaves is what the exports of its files do: `pairs` and
`failures` are the entries in its outputs. -/
structure AgreesWithExports (files : FileSystem) (setup : Setup) (outputs : String)
    (found : List Path) (sinks : Sinks) (report : Report) (pairs : List WrittenPair)
    (failures : List WrittenFailure) : Prop where
  returns : ∃ t, report.result = .ok t
  /-- Every file has one entry. -/
  once : (pairs.map (·.job) ++ failures.map (·.job)).Perm (List.range found.length)
  lines : HasLines report.files (SinkPaths.of outputs).documents (pairs.map (·.document)) ∧
    HasLines report.files (SinkPaths.of outputs).paths (pairs.map (·.path)) ∧
    HasLines report.files (SinkPaths.of outputs).failures (failures.map (·.line))
  accepted : ∀ w ∈ pairs, ∃ p content records,
    SeenAs files setup sinks (found.mergeSort Path.le) w.job p content
        (.accepted w.path records) ∧
      ∀ before : Surroundings, before.files.read p.text = .ok content →
        Exports before setup.parser setup.serialize setup.options.settings p.text records
          w.document
  rejected : ∀ w ∈ failures, ∃ p content r,
    SeenAs files setup sinks (found.mergeSort Path.le) w.job p content (.rejected r) ∧
      w.path = r.path ∧ w.reason = r.reason ∧
      ∀ before : Surroundings, before.files.read p.text = .ok content →
        RejectedAlone setup (shownPath setup files p) before p r

/-! ## Outcomes and exports -/

section

variable {setup : Setup} {files now : FileSystem} {before : Surroundings} {p : Path}
  {content : ByteArray} {outcome : Outcome}

/-- A file is parsed alike in a batch and on its own. -/
theorem parseFile_main_eq (setup : Setup) (hproper : p.IsProper)
    (hnow : now.read p.text = .ok content) (hbefore : before.files.read p.text = .ok content) :
    (parseFile before.files setup.parser .main setup.options.settings p.text).1
      = (parseFile now setup.parser .worker setup.options.settings p.text).1 := by
  refine parseFile_fst_congr ?_ _ _ _ _
  rw [fileSource, fileSource, Path.ofText_text hproper, hbefore, hnow]

/-- An accepted file has a tree with the records. -/
theorem exists_tree_of_accepted {path : String} {records : List Record}
    (h : (processFile now setup.parser .worker setup.options setup.root p).1
      = .ok (.accepted path records)) :
    path = shownPath setup now p ∧ ∃ tree,
      (parseFile now setup.parser .worker setup.options.settings p.text).1 = .ok tree ∧
        flattenRaw tree = .ok records := by
  rcases processFile_cases h with
    ⟨-, hr⟩ | ⟨-, ⟨f, -, hr⟩ | ⟨tree, others, hparse, hrecords, hr⟩⟩
  · cases hr
  · cases hr
  · rcases admitted_cases setup.options (shownPath setup now p) others with
      ⟨-, -, heq⟩ | ⟨-, heq⟩ | ⟨-, -, heq⟩
    · obtain ⟨rfl, rfl⟩ := Outcome.accepted.inj (hr.trans heq)
      exact ⟨rfl, tree, hparse, hrecords⟩
    · cases hr.trans heq
    · cases hr.trans heq

/-- The export of an accepted file writes the document of the batch. -/
theorem exports_of_accepted {path : String} {records : List Record} {document : String}
    (h : (processFile now setup.parser .worker setup.options setup.root p).1
      = .ok (.accepted path records))
    (hdocument : setup.serialize records = .ok document) (hproper : p.IsProper)
    (hnow : now.read p.text = .ok content) (hbefore : before.files.read p.text = .ok content) :
    Exports before setup.parser setup.serialize setup.options.settings p.text records
      document := by
  obtain ⟨-, tree, hparse, hrecords⟩ := exists_tree_of_accepted h
  exact exports_of_tree ((parseFile_main_eq setup hproper hnow hbefore).trans hparse) hrecords
    hdocument

/-- The export of a file that is rejected has the same failure, or the records
whose number the batch does not take. -/
theorem rejectedAlone_of_rejected {r : Rejection}
    (h : (processFile now setup.parser .worker setup.options setup.root p).1 = .ok (.rejected r))
    (htotal : ∀ records, ∃ document, setup.serialize records = .ok document)
    (hproper : p.IsProper) (hnow : now.read p.text = .ok content)
    (hbefore : before.files.read p.text = .ok content) :
    RejectedAlone setup (shownPath setup now p) before p r := by
  have hmain := parseFile_main_eq setup hproper hnow hbefore
  rcases processFile_cases h with
    ⟨hbreak, hr⟩ | ⟨-, ⟨f, hparse, hr⟩ | ⟨tree, records, hparse, hrecords, hr⟩⟩
  · obtain rfl := Outcome.rejected.inj hr
    exact .invalidPath hbreak
  · obtain rfl := Outcome.rejected.inj hr
    exact .parseFailed fun output => ⟨_, exportFile_of_stop (hmain.trans hparse) _ output,
      before.unchanged_parsed ..⟩
  · obtain ⟨document, hdocument⟩ := htotal records
    have hexports := exports_of_tree (hmain.trans hparse) hrecords hdocument
    rcases admitted_cases setup.options (shownPath setup now p) records with
      ⟨-, -, heq⟩ | ⟨hfew, heq⟩ | ⟨-, hmany, heq⟩
    · cases hr.trans heq
    · obtain rfl := Outcome.rejected.inj (hr.trans heq)
      exact .tooFewNodes hexports hfew
    · obtain rfl := Outcome.rejected.inj (hr.trans heq)
      exact .tooManyNodes hexports hmany

/-- A pair of lines is written for an accepted file whose records have a
document. -/
theorem exists_records_of_entryOf {path document : String}
    (h : (entryOf setup.serialize outcome).1 = .pair path document) :
    ∃ records, outcome = .accepted path records ∧ setup.serialize records = .ok document := by
  cases outcome with
  | rejected r => cases h
  | accepted path' records =>
    cases hserialize : setup.serialize records with
    | error e => simp [entryOf, hserialize, rejectedEntry] at h
    | ok document' =>
      simp only [entryOf, hserialize] at h
      obtain ⟨rfl, rfl⟩ := Entry.pair.inj h
      exact ⟨records, rfl, hserialize⟩

/-- If all records have a document, a failure line is written for a rejected
file. -/
theorem exists_rejection_of_entryOf {path reason : String}
    (htotal : ∀ records, ∃ document, setup.serialize records = .ok document)
    (h : (entryOf setup.serialize outcome).1 = .failure path reason) :
    ∃ r, outcome = .rejected r ∧ path = r.path ∧ reason = r.reason := by
  cases outcome with
  | rejected r =>
    obtain ⟨rfl, rfl⟩ := Entry.failure.inj h
    exact ⟨r, rfl, rfl, rfl⟩
  | accepted path' records =>
    obtain ⟨document, hdocument⟩ := htotal records
    simp [entryOf, hdocument] at h

end

/-! ## What a worker comes to -/

section

variable {files opened : FileSystem} {before : Surroundings} {setup : Setup} {p : Path}
  {outputs : String}
  {paths : List Path} {sinks : Sinks} {content : ByteArray} {i : Nat} {e : Entry}

namespace SeenAs

theorem exports {path : String} {records : List Record} {document : String}
    (h : SeenAs files setup sinks paths i p content (.accepted path records))
    (hproper : p.IsProper) (hdocument : setup.serialize records = .ok document)
    (hbefore : before.files.read p.text = .ok content) :
    Exports before setup.parser setup.serialize setup.options.settings p.text records
      document := by
  obtain ⟨now, -, hnow, houtcome⟩ := h.outcome
  exact exports_of_accepted houtcome hdocument hproper hnow hbefore

theorem rejectedAlone {r : Rejection}
    (h : SeenAs files setup sinks paths i p content (.rejected r)) (hproper : p.IsProper)
    (htotal : ∀ records, ∃ document, setup.serialize records = .ok document)
    (hbefore : before.files.read p.text = .ok content) :
    RejectedAlone setup (shownPath setup files p) before p r := by
  obtain ⟨now, hframe, hnow, houtcome⟩ := h.outcome
  rw [← shownPath_congr hframe.workingDirectory setup]
  exact rejectedAlone_of_rejected houtcome htotal hproper hnow hbefore

end SeenAs

/-- What was worked out for a file is what its worker came to from some
content. -/
theorem WorkedOut.exists_seenAs (hopen : Sinks.open_ files (.of outputs) = (.ok sinks, opened))
    (hfiles : ∀ p ∈ paths, p.IsProper ∧
      ∃ l content, files.status p.text = .ok (l, .file content))
    (h : WorkedOut setup paths opened sinks.locations i (.ok e)) :
    ∃ p content outcome, p.IsProper ∧ SeenAs files setup sinks paths i p content outcome ∧
      (entryOf setup.serialize outcome).1 = e := by
  obtain ⟨p, now, hp, hlater, hwork⟩ := h
  have hframe := (Sinks.frame_open hopen).trans_same hlater
  obtain ⟨hproper, l, before, hstatus⟩ := hfiles p (List.mem_of_getElem? hp)
  obtain ⟨content, hread⟩ := hframe.exists_read hstatus
  rw [workOut_fst] at hwork
  generalize houtcome : (processFile now setup.parser .worker setup.options setup.root p).1
    = result at hwork
  cases result with
  | error stop => cases hwork
  | ok outcome =>
    refine ⟨p, content, outcome, hproper, ⟨hp, fun l' n hstatus' hl => ?_, now, hframe, hread,
      houtcome⟩, Except.ok.inj hwork⟩
    rw [← hframe.read_eq hstatus' hl, hread]

namespace Recorded

variable {calls : List Call} {entry : Nat → Except FileStop Entry} {counted log : List Nat}
  {half : Option Nat} {s : State} {r : Except FileStop Unit}

/-- A batch whose parser is never interrupted returns. -/
theorem returns (h : Recorded setup paths opened sinks calls entry counted log half s)
    (hopen : Sinks.open_ files (.of outputs) = (.ok sinks, opened))
    (hregular : ∀ call, (setup.parser.parse call).IsRegular)
    (hfiles : LeadSomewhere files paths) (hr : s.phase = .ended r) : r = .ok () := by
  have hplain : setup.parser.IsPlain :=
    ⟨fun call t ht => by simpa [ht, ParserOutcome.IsRegular] using hregular call,
      fun call kind raised hcrash => by
        simpa [hcrash, ParserOutcome.IsRegular] using hregular call⟩
  cases r with
  | ok _ => rfl
  | error stop =>
    obtain ⟨i, text, hi, -⟩ := h.exists_interrupt hopen hplain hfiles hr
    obtain ⟨p, now, -, -, hwork⟩ := (h.reached.fromWork hopen).stop i _ hi
    obtain ⟨call, -, hparse⟩ := workOut_interrupted_iff.mp hwork
    have hcall := hregular call
    rw [hparse] at hcall
    exact hcall.elim

end Recorded
end

/-! ## A whole batch -/

section

variable {files opened : FileSystem} {parser : SourceParser} {options : BatchOptions}
  {input outputs : String} {found : List Path} {sinks : Sinks}

theorem exists_document (records : List Record) :
    ∃ document, writeDocument records = .ok document := ⟨_, rfl⟩

/-- What a batch with files leaves. -/
theorem Recorded.agreesWithExports {calls : List Call} {entry : Nat → Except FileStop Entry}
    {counted log : List Nat} {half : Option Nat} {s : State} {r : Except FileStop Unit}
    {report : Report}
    (h : Recorded (setupOf files parser writeDocument options) (found.mergeSort Path.le) opened
      sinks calls entry counted log half s)
    (hfound : findFiles files input = .ok found)
    (hopen : Sinks.open_ files (.of outputs) = (.ok sinks, opened))
    (hregular : ∀ call, (parser.parse call).IsRegular) (hr : s.phase = .ended r)
    (hresult : report.result = s.outcome) (hreport : report.files = s.files) :
    AgreesWithExports files (setupOf files parser writeDocument options) outputs found sinks report
      (pairKind.list entry log) (failureKind.list entry log) := by
  obtain rfl := h.returns hopen hregular (leadSomewhere_of_found hfound) hr
  have hpaired := h.traced.paired_of_logged faithful_writeDocument hopen h.logged
  have hfiles : ∀ p ∈ found.mergeSort Path.le, p.IsProper ∧
      ∃ l content, files.status p.text = .ok (l, .file content) :=
    fun p hp => findFiles_isFile hfound p (List.mem_mergeSort.mp hp)
  have hwork := (h.reached.fromWork hopen).call
  refine {
    returns := ⟨s.tally, by rw [hresult, State.outcome, hr]⟩
    once := ?_
    lines := hreport ▸ hpaired.closed _ hr
    accepted := fun w hw => ?_
    rejected := fun w hw => ?_ }
  · have hjobs := (hpaired.entries_perm hr).map Prod.fst
    rw [List.map_append, List.map_map, List.map_map] at hjobs
    have hperm := hjobs.trans (h.calls_perm_range hr)
    rw [List.length_mergeSort] at hperm
    exact hperm
  · obtain ⟨p, content, outcome, hproper, hseen, hentry⟩ :=
      (hwork _ ((hpaired.pair w).mp hw).1).exists_seenAs hopen hfiles
    obtain ⟨records, rfl, hdocument⟩ := exists_records_of_entryOf hentry
    exact ⟨p, content, records, hseen,
      fun _ hbefore => hseen.exports hproper hdocument hbefore⟩
  · obtain ⟨p, content, outcome, hproper, hseen, hentry⟩ :=
      (hwork _ ((hpaired.failure w).mp hw).1).exists_seenAs hopen hfiles
    obtain ⟨r, rfl, hpath, hreason⟩ := exists_rejection_of_entryOf exists_document hentry
    exact ⟨p, content, r, hseen, hpath, hreason,
      fun _ hbefore => hseen.rejectedAlone hproper exists_document hbefore⟩

/-- **A batch agrees with the exports of its files.** -/
theorem runBatch_agreesWithExports (hfound : findFiles files input = .ok found)
    (hopen : Sinks.open_ files (.of outputs) = (.ok sinks, opened))
    (hdistinct : sinks.locations.Nodup) (hregular : ∀ call, (parser.parse call).IsRegular)
    (schedule : List Move) :
    ∃ pairs failures, AgreesWithExports files (setupOf files parser writeDocument options) outputs
      found sinks (runBatch files parser writeDocument options schedule input outputs) pairs
      failures := by
  by_cases hne : found = []
  · subst hne
    obtain ⟨hresult, hfiles⟩ := runBatch_of_nil hfound hopen schedule
    exact ⟨[], [], ⟨_, hresult⟩, .refl _, hfiles ▸ hasLines_nil hopen hdistinct, by simp, by simp⟩
  · obtain ⟨⟨calls, entry, counted, log, half, h⟩, r, hr⟩ :=
      exists_recorded hopen hdistinct (mergeSort_ne_nil hne) schedule
    obtain ⟨hresult, hreport⟩ := runBatch_of_ne_nil hfound hopen hne schedule
    exact ⟨_, _, h.agreesWithExports hfound hopen hregular hr hresult hreport⟩

end

/-! ## Two files, one of which has no tree -/

theorem isRegular_mixed (message : String) (call : ParseCall) :
    ((mixedParser (.failure message)).parse call).IsRegular := by
  show (if call.source.isEmpty then ParserOutcome.tree (.node ⟨.text "root", .null⟩ [])
    else .failure message).IsRegular
  split
  · show Tree.all RawLabel.isPlain (.node ⟨.text "root", .null⟩ []) = true
    decide
  · trivial

theorem runBatch_agreesWithExports_mixed : ∃ sinks opened,
    findFiles mixedFiles "*.py" = .ok [Path.ofText "a.py", Path.ofText "b.py"] ∧
    Sinks.open_ mixedFiles (.of "out") = (.ok sinks, opened) ∧ sinks.locations.Nodup ∧
    (∀ call, ((mixedParser (.failure "no tree")).parse call).IsRegular) ∧
    ∃ pairs failures, AgreesWithExports mixedFiles
      (setupOf mixedFiles (mixedParser (.failure "no tree")) writeDocument anySize) "out"
      [Path.ofText "a.py", Path.ofText "b.py"] sinks
      (runBatch mixedFiles (mixedParser (.failure "no tree")) writeDocument anySize
        [.submit, .start, .advance 0] "*.py" "out") pairs failures := by
  obtain ⟨opened, hopen⟩ := open_mixed
  exact ⟨_, opened, findFiles_mixed, hopen, by decide, isRegular_mixed _,
    runBatch_agreesWithExports findFiles_mixed hopen (by decide) (isRegular_mixed _) _⟩

/-! ## Outputs that are one file -/

theorem isRegular_oneNode (call : ParseCall) : (oneNodeParser.parse call).IsRegular := by
  show Tree.all RawLabel.isPlain (.node ⟨.text "root", .null⟩ []) = true
  decide

/-- What the batch of the file works with. -/
def linkedFileSetup : Setup := setupOf linkedFiles oneNodeParser writeDocument anySize

theorem shownPath_linked :
    shownPath linkedFileSetup linkedFiles (Path.ofText "a.py") = "a.py" := by decide

/-- The only file of the batch. -/
theorem SeenAs.eq_linked {sinks : Sinks} {i : Nat} {p : Path} {content : ByteArray}
    {outcome : Outcome}
    (h : SeenAs linkedFiles linkedFileSetup sinks ([Path.ofText "a.py"].mergeSort Path.le) i p
      content outcome) : p = Path.ofText "a.py" := by
  have hmem := List.mem_of_getElem? h.path
  rw [List.mergeSort_singleton] at hmem
  exact List.mem_singleton.mp hmem

/-- The document of the file is not its path. -/
theorem AgreesWithExports.document_ne_linked {sinks : Sinks} {report : Report}
    {pairs : List WrittenPair} {failures : List WrittenFailure}
    (h : AgreesWithExports linkedFiles linkedFileSetup "out" [Path.ofText "a.py"] sinks report
      pairs failures) {w : WrittenPair} (hw : w ∈ pairs) : w.document ≠ w.path := by
  obtain ⟨p, content, records, hseen, hexports⟩ := h.accepted w hw
  obtain rfl := hseen.eq_linked
  obtain ⟨now, hframe, hnow, houtcome⟩ := hseen.outcome
  obtain ⟨hpath, -⟩ := exists_tree_of_accepted houtcome
  obtain ⟨tree, -, -, hdocument⟩ := exports_iff.mp (hexports { files := now } hnow)
  rw [hpath, shownPath_congr hframe.workingDirectory, shownPath_linked,
    ← Except.ok.inj hdocument]
  exact write_ne records

/-- The file is not rejected. -/
theorem SeenAs.not_rejected_linked {sinks : Sinks} {opened : FileSystem} {i : Nat} {p : Path}
    {content : ByteArray} {r : Rejection}
    (hfeasible : Feasible linkedFiles linkedFileSetup "a.py" "out" [Path.ofText "a.py"] sinks
      opened) :
    ¬ SeenAs linkedFiles linkedFileSetup sinks ([Path.ofText "a.py"].mergeSort Path.le) i p
      content (.rejected r) := by
  intro h
  obtain rfl := h.eq_linked
  obtain ⟨now, hframe, -, houtcome⟩ := h.outcome
  have hmem : Path.ofText "a.py" ∈ [Path.ofText "a.py"] := List.mem_singleton_self _
  obtain ⟨hproper, l, before, hstatus⟩ := hfeasible.placed.isFile hmem
  have hsame := workOut_congr linkedFileSetup hframe hproper hstatus
    (hfeasible.apart _ hmem l _ hstatus)
  obtain ⟨e, he, hentry⟩ := hfeasible.isEntryOf hmem
  obtain ⟨document, haccepts⟩ := accepts_linked
  cases hentry with
  | failure hrejects => exact hrejects document haccepts
  | pair _ =>
    rw [← hsame, workOut_fst, houtcome] at he
    cases he

/-- Outputs that are one file do not have the document that the export writes. -/
theorem not_agreesWithExports_linked : ∃ sinks opened,
    findFiles linkedFiles "a.py" = .ok [Path.ofText "a.py"] ∧
    Sinks.open_ linkedFiles (.of "out") = (.ok sinks, opened) ∧
    (∀ call, (oneNodeParser.parse call).IsRegular) ∧
    ¬ ∃ pairs failures, AgreesWithExports linkedFiles
      (setupOf linkedFiles oneNodeParser writeDocument anySize) "out" [Path.ofText "a.py"] sinks
      (runBatch linkedFiles oneNodeParser writeDocument anySize [] "a.py" "out") pairs
      failures := by
  obtain ⟨opened, hopen⟩ := open_linked
  have hfeasible := feasible_single status_linked hopen (by decide)
  refine ⟨_, opened, hfeasible.isFound, hopen, isRegular_oneNode, ?_⟩
  rintro ⟨pairs, failures, h⟩
  have hlines := hasLines_unique (read_of_same_location hopen (frame_runBatch [] hfeasible) rfl)
    h.lines.1 h.lines.2.1
  have hfirst : 0 ∈ pairs.map (·.job) ++ failures.map (·.job) :=
    h.once.mem_iff.mpr (List.mem_range.mpr Nat.one_pos)
  rcases List.mem_append.mp hfirst with hin | hin
  · obtain ⟨w, hw, -⟩ := List.mem_map.mp hin
    exact h.document_ne_linked hw (List.map_inj_left.mp hlines w hw)
  · obtain ⟨w, hw, -⟩ := List.mem_map.mp hin
    obtain ⟨p, content, r, hseen, -⟩ := h.rejected w hw
    exact SeenAs.not_rejected_linked hfeasible hseen

end SyntaxCorpus.Batch
