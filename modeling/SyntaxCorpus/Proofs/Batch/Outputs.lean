/-
SyntaxCorpus.Proofs.Batch.Outputs — the three outputs of a batch belong
together.

* `HasLines` — the lines of a file.
* `Feasible` — what a batch asks of its surroundings: its files are found and
  its outputs opened, no file of it is an output, the parser is regular on its
  files, and records are written as their document or not at all.
* `Placed` — the same without the parser.
* `Correlated` — what a batch leaves: every file is either accepted, with its
  document and its path on the same line of two outputs, or rejected, with a
  line in the third one.
* `frame_runBatch` — a batch writes to nothing but its outputs.
* `runBatch_correlated` — a batch leaves that for every schedule, if its
  outputs are three different files.
-/
import SyntaxCorpus.Proofs.Batch.Run
import SyntaxCorpus.Proofs.Discovery
import SyntaxCorpus.Proofs.Parser.File
import SyntaxCorpus.Proofs.Record.Document

namespace SyntaxCorpus.Batch

open FileSystem (Frame IsEntry IsName Leads)

/-! ## Lines -/

/-- Whether a file has these lines, each with a line break at its end, and
nothing after them. -/
def HasLines (fs : FileSystem) (path : Path) (lines : List String) : Prop :=
  ∃ text : String, fs.read path.text = .ok text.toUTF8 ∧ Text.pieces '\n' text = lines ++ [""]

theorem hasLines_of_read {fs : FileSystem} {path : Path} {lines : List String}
    (hread : fs.read path.text = .ok (String.join (lines.map (· ++ "\n"))).toUTF8)
    (h : ∀ line ∈ lines, '\n' ∉ line.toList) : HasLines fs path lines :=
  ⟨_, hread, Text.pieces_join_lines h⟩

/-- A file has its lines only once, whatever path leads to it. -/
theorem hasLines_unique {fs : FileSystem} {p q : Path} {lines lines' : List String}
    (hread : fs.read p.text = fs.read q.text) (h : HasLines fs p lines)
    (h' : HasLines fs q lines') : lines = lines' := by
  obtain ⟨text, htext, hlines⟩ := h
  obtain ⟨text', htext', hlines'⟩ := h'
  rw [hread, htext'] at htext
  have hbytes : text' = text := String.toByteArray_inj.mp (Except.ok.inj htext)
  rw [hbytes, hlines] at hlines'
  exact List.append_cancel_right hlines'

/-- Parts that are lines for some elements and empty for the others. -/
theorem join_map_filter {α : Type} {part line : α → String} {q : α → Bool} :
    ∀ {xs : List α}, (∀ x ∈ xs, part x = if q x then line x ++ "\n" else "") →
      String.join (xs.map part) = String.join (((xs.filter q).map line).map (· ++ "\n")) := by
  intro xs
  induction xs with
  | nil =>
    intro _
    rfl
  | cons x xs ih =>
    intro h
    have hx := h x (List.mem_cons_self ..)
    have hrest := ih fun y hy => h y (List.mem_cons_of_mem x hy)
    rw [List.map_cons, String.join_cons, hx, hrest]
    cases hq : q x with
    | true => simp [List.filter_cons_of_pos hq]
    | false => simp [hq]

/-! ## What is written for a file -/

section

variable (setup : Setup) (fs : FileSystem) (p : Path)

/-- What is added to an output for a file. -/
def added (part : Entry → String) : String := addition part (workOut setup fs p).1

/-- The document of a pair of lines. -/
def documentIn : Except FileStop Entry → String
  | .ok (.pair _ document) => document
  | _ => ""

/-- The reason of a failure line. -/
def reasonIn : Except FileStop Entry → String
  | .ok (.failure _ reason) => reason
  | _ => ""

/-- The document of a file that gets a pair of lines. -/
def documentOf : String := documentIn (workOut setup fs p).1

/-- The reason of a file that gets a failure line. -/
def reasonOf : String := reasonIn (workOut setup fs p).1

theorem written_eq (part : Entry → String) (paths : List Path) (log : List Nat) :
    written part (entryAt setup fs paths) log
      = String.join ((log.map (pathAt paths)).map fun p => added setup fs p part) := by
  have hentry : ∀ i, addition part (entryAt setup fs paths i)
      = added setup fs (pathAt paths i) part := by
    intro i
    rw [entryAt, added]
  simp only [written, hentry, List.map_map]
  rfl

/-- What a file adds to the outputs: an accepted one its document and its path,
a rejected one its failure line. -/
inductive Adds : Prop
  | pair (hpair : getsPair setup fs p = true)
      (haccepts : Accepts setup fs p (documentOf setup fs p))
      (hdocument : added setup fs p Entry.toDocuments = documentOf setup fs p ++ "\n")
      (hpath : added setup fs p Entry.toPaths = shownPath setup fs p ++ "\n")
      (hfailure : added setup fs p Entry.toFailures = "")
  | failure (hpair : getsPair setup fs p = false)
      (hrejects : ∀ document, ¬ Accepts setup fs p document)
      (hdocument : added setup fs p Entry.toDocuments = "")
      (hpath : added setup fs p Entry.toPaths = "")
      (hfailure : added setup fs p Entry.toFailures
        = failureText (failedPath setup fs p) (reasonOf setup fs p) ++ "\n")

variable {setup fs p}

theorem adds_of_isEntryOf (h : ∃ e, (workOut setup fs p).1 = .ok e ∧ IsEntryOf setup fs p e) :
    Adds setup fs p := by
  obtain ⟨e, he, hentry⟩ := h
  cases hentry with
  | @pair document haccepts =>
    have hdocument : documentOf setup fs p = document := by rw [documentOf, he, documentIn]
    refine .pair ?_ ?_ ?_ ?_ ?_
    · rw [getsPair, he]
      rfl
    · rw [hdocument]
      exact haccepts
    · rw [added, he, hdocument]
      rfl
    · rw [added, he]
      rfl
    · rw [added, he]
      rfl
  | @failure reason hrejects =>
    have hreason : reasonOf setup fs p = reason := by rw [reasonOf, he, reasonIn]
    refine .failure ?_ hrejects ?_ ?_ ?_
    · rw [getsPair, he]
      rfl
    · rw [added, he]
      rfl
    · rw [added, he]
      rfl
    · rw [added, he, hreason, ← failureLine_eq]
      rfl

end

/-! ## Batches -/

/-- What a batch works with when it is started in a file system. -/
def setupOf (files : FileSystem) (parser : SourceParser) (serialize : Serializer)
    (options : BatchOptions) : Setup :=
  ⟨parser, serialize, options, ⟨.single, files.workingDirectory⟩⟩

/-- What a batch asks of its surroundings. -/
structure Feasible (files : FileSystem) (setup : Setup) (input outputs : String)
    (found : List Path) (sinks : Sinks) (opened : FileSystem) : Prop where
  isFound : findFiles files input = .ok found
  isOpened : Sinks.open_ files (.of outputs) = (.ok sinks, opened)
  /-- No file of the batch is one of its outputs. -/
  apart : ∀ p ∈ found, ∀ l n, files.status p.text = .ok (l, n) → l ∉ sinks.locations
  regular : ∀ p ∈ found, ParsesRegularly setup files p
  /-- Records are written as their document, or not at all. -/
  faithful : ∀ records document, setup.serialize records = .ok document →
    document = Document.write records

/-- What a batch asks of its surroundings, the parser apart. -/
structure Placed (files : FileSystem) (setup : Setup) (input outputs : String)
    (found : List Path) (sinks : Sinks) (opened : FileSystem) : Prop where
  isFound : findFiles files input = .ok found
  isOpened : Sinks.open_ files (.of outputs) = (.ok sinks, opened)
  /-- No file of the batch is one of its outputs. -/
  apart : ∀ p ∈ found, ∀ l n, files.status p.text = .ok (l, n) → l ∉ sinks.locations
  /-- Records are written as their document, or not at all. -/
  faithful : ∀ records document, setup.serialize records = .ok document →
    document = Document.write records

/-- Whether every file has an entry to be written. -/
def HasEntries (files : FileSystem) (setup : Setup) (found : List Path) : Prop :=
  ∀ p ∈ found, ∃ e, (workOut setup files p).1 = .ok e ∧ IsEntryOf setup files p e

/-- What a batch leaves: its files are the accepted ones and the rejected
ones, each of them once; the accepted ones have their documents and their paths
in the first two outputs, line by line, and the rejected ones their failures in
the third one. -/
structure Correlated (files : FileSystem) (setup : Setup) (outputs : String)
    (found : List Path) (report : Report) (accepted rejected : List Path)
    (document reason : Path → String) : Prop where
  result : ∃ t, report.result = .ok t ∧ t.total = found.length ∧
    t.total = t.accepted + t.rejected ∧ t.accepted = accepted.length ∧
    t.rejected = rejected.length
  each : (accepted ++ rejected).Perm found
  documents : HasLines report.files (SinkPaths.of outputs).documents (accepted.map document)
  paths : HasLines report.files (SinkPaths.of outputs).paths
    (accepted.map (shownPath setup files))
  failures : HasLines report.files (SinkPaths.of outputs).failures
    (rejected.map fun p => failureText (failedPath setup files p) (reason p))
  accepts : ∀ p ∈ accepted, Accepts setup files p (document p)
  rejects : ∀ p ∈ rejected, ∀ document, ¬ Accepts setup files p document

section

variable {files opened : FileSystem} {parser : SourceParser} {serialize : Serializer}
  {options : BatchOptions} {input outputs : String} {found : List Path} {sinks : Sinks}

/-- The state at the end of a batch. -/
def endState (setup : Setup) (opened : FileSystem) (sinks : Sinks) (paths : List Path)
    (schedule : List Move) : State :=
  complete setup (run setup (initial opened sinks paths) schedule)

/-- A batch whose outputs are open has the result of its files, and leaves
what they leave. -/
theorem runBatch_eq (parser : SourceParser) (serialize : Serializer) (options : BatchOptions)
    (hfound : findFiles files input = .ok found)
    (hopen : Sinks.open_ files (.of outputs) = (.ok sinks, opened)) (schedule : List Move) :
    let report := if (found.mergeSort Path.le).isEmpty then
        ⟨.ok {}, sinks.close opened, [noFilesEvent input]⟩
      else processAll (setupOf files parser serialize options) schedule opened sinks
        (found.mergeSort Path.le)
    (runBatch files parser serialize options schedule input outputs).result = report.result ∧
      (runBatch files parser serialize options schedule input outputs).files = report.files := by
  intro report
  delta runBatch
  rw [hfound]
  delta processFiles
  simp only [hopen]
  -- the entry at the end of a batch changes neither
  split
  · exact ⟨rfl, rfl⟩
  · exact ⟨rfl, rfl⟩

theorem runBatch_of_nil (hfound : findFiles files input = .ok [])
    (hopen : Sinks.open_ files (.of outputs) = (.ok sinks, opened)) (schedule : List Move) :
    (runBatch files parser serialize options schedule input outputs).result = .ok {} ∧
      (runBatch files parser serialize options schedule input outputs).files
        = sinks.close opened := by
  have heq := runBatch_eq parser serialize options hfound hopen schedule
  rw [List.mergeSort_nil] at heq
  exact heq

theorem mergeSort_ne_nil (hne : found ≠ []) : found.mergeSort Path.le ≠ [] := by
  intro hnil
  have hperm := List.mergeSort_perm found Path.le
  rw [hnil] at hperm
  exact hne hperm.symm.eq_nil

theorem runBatch_of_ne_nil (hfound : findFiles files input = .ok found)
    (hopen : Sinks.open_ files (.of outputs) = (.ok sinks, opened)) (hne : found ≠ [])
    (schedule : List Move) :
    let s := endState (setupOf files parser serialize options) opened sinks
      (found.mergeSort Path.le) schedule
    (runBatch files parser serialize options schedule input outputs).result = s.outcome ∧
      (runBatch files parser serialize options schedule input outputs).files = s.files := by
  have hsorted := List.isEmpty_eq_false_iff.mpr (mergeSort_ne_nil hne)
  have heq := runBatch_eq parser serialize options hfound hopen schedule
  rw [hsorted] at heq
  exact heq

namespace Placed

variable {setup : Setup}

theorem isFile (h : Placed files setup input outputs found sinks opened) {p : Path}
    (hp : p ∈ found) : p.IsProper ∧ ∃ l content, files.status p.text = .ok (l, .file content) :=
  findFiles_isFile h.isFound p hp

theorem singleLine (h : Placed files setup input outputs found sinks opened)
    {records : List Record} {document : String}
    (hdocument : setup.serialize records = .ok document) : '\n' ∉ document.toList := by
  rw [h.faithful records document hdocument]
  exact Document.newline_not_mem_write records

/-- What is written for a file is the same before and after the outputs are
opened, and at any moment of the batch. -/
theorem steady (h : Placed files setup input outputs found sinks opened) :
    Steady setup files (found.mergeSort Path.le) opened sinks.locations := by
  intro later hframe p hp
  rw [List.mem_mergeSort] at hp
  obtain ⟨hproper, l, content, hstatus⟩ := h.isFile hp
  exact workOut_congr setup ((Sinks.frame_open h.isOpened).trans_same hframe) hproper hstatus
    (h.apart p hp l _ hstatus)

/-- What holds at each moment holds at the end, and there is an end. -/
theorem sound_endState (h : Placed files setup input outputs found sinks opened)
    (hne : found ≠ []) (schedule : List Move) :
    Sound setup files (found.mergeSort Path.le) opened sinks.locations
        (endState setup opened sinks (found.mergeSort Path.le) schedule) ∧
      ∃ r, (endState setup opened sinks (found.mergeSort Path.le) schedule).phase = .ended r :=
  sound_complete h.steady (sound_initial h.isOpened (mergeSort_ne_nil hne)) schedule

/-- A batch whose files have entries is finished at the end. -/
theorem finished (h : Placed files setup input outputs found sinks opened)
    (hentries : HasEntries files setup found) (hne : found ≠ []) (schedule : List Move) :
    Finished setup files (found.mergeSort Path.le)
      (endState setup opened sinks (found.mergeSort Path.le) schedule) := by
  obtain ⟨hsound, r, hr⟩ := h.sound_endState hne schedule
  refine hsound.finished (fun p hp => ?_) hr
  rw [List.mem_mergeSort] at hp
  obtain ⟨e, he, -⟩ := hentries p hp
  exact ⟨e, he⟩

/-- A batch writes to nothing but its outputs. -/
theorem frame_runBatch (schedule : List Move)
    (h : Placed files (setupOf files parser serialize options) input outputs found sinks opened) :
    Frame sinks.locations opened
      (runBatch files parser serialize options schedule input outputs).files := by
  have hfiles : sinks.HaveFiles opened :=
    Sinks.haveFiles_iff.mpr (Sinks.frame_open h.isOpened).isFile
  by_cases hne : found = []
  · subst hne
    rw [(runBatch_of_nil h.isFound h.isOpened schedule).2]
    exact Sinks.frame_close hfiles
  · rw [(runBatch_of_ne_nil h.isFound h.isOpened hne schedule).2]
    exact (h.sound_endState hne schedule).1.framed.frame

end Placed

namespace Feasible

variable {setup : Setup}

theorem placed (h : Feasible files setup input outputs found sinks opened) :
    Placed files setup input outputs found sinks opened :=
  ⟨h.isFound, h.isOpened, h.apart, h.faithful⟩

theorem isEntryOf (h : Feasible files setup input outputs found sinks opened) {p : Path}
    (hp : p ∈ found) : ∃ e, (workOut setup files p).1 = .ok e ∧ IsEntryOf setup files p e := by
  obtain ⟨hproper, l, content, hstatus⟩ := h.placed.isFile hp
  exact workOut_isEntryOf setup hproper hstatus (h.regular p hp)

theorem hasEntries (h : Feasible files setup input outputs found sinks opened) :
    HasEntries files setup found := fun _ => h.isEntryOf

theorem sound_endState (h : Feasible files setup input outputs found sinks opened)
    (hne : found ≠ []) (schedule : List Move) :
    Sound setup files (found.mergeSort Path.le) opened sinks.locations
        (endState setup opened sinks (found.mergeSort Path.le) schedule) ∧
      Finished setup files (found.mergeSort Path.le)
        (endState setup opened sinks (found.mergeSort Path.le) schedule) :=
  ⟨(h.placed.sound_endState hne schedule).1, h.placed.finished h.hasEntries hne schedule⟩

end Feasible

theorem frame_runBatch (schedule : List Move)
    (h : Feasible files (setupOf files parser serialize options) input outputs found sinks opened) :
    Frame sinks.locations opened
      (runBatch files parser serialize options schedule input outputs).files :=
  h.placed.frame_runBatch schedule

/-- If the first two outputs are one file, their paths lead to the same. -/
theorem read_of_same_location {files opened later : FileSystem} {outputs : String} {sinks : Sinks}
    (hopen : Sinks.open_ files (.of outputs) = (.ok sinks, opened))
    (hframe : Frame sinks.locations opened later)
    (hsame : sinks.documents.location = sinks.paths.location) :
    later.read (SinkPaths.of outputs).documents.text
      = later.read (SinkPaths.of outputs).paths.text := by
  have hfiles := Sinks.haveFiles_iff.mpr hframe.isFile
  obtain ⟨content, hp⟩ := hfiles.paths
  obtain ⟨other, hf⟩ := hfiles.failures
  have hd : later.node? sinks.documents.location = some (.file content) := by
    rw [hsame]
    exact hp
  obtain ⟨hd, hp, -⟩ := Sinks.read_opened hopen hframe hd hp hf
  rw [hd, hp]

/-- What is written to an output for files in this order. -/
def textFor (setup : Setup) (files : FileSystem) (order : List Path) (part : Entry → String) :
    String :=
  String.join (order.map fun p => added setup files p part)

/-- The tally and the outputs at the end of a batch that wrote the files in
this order. -/
structure Leaves (files : FileSystem) (setup : Setup) (found : List Path) (sinks : Sinks)
    (report : Report) (order : List Path) : Prop where
  perm : order.Perm found
  result : report.result = .ok ⟨found.length, found.countP (getsPair setup files),
    found.countP fun p => !getsPair setup files p⟩
  documents : report.files.node? sinks.documents.location
    = some (.file (textFor setup files order Entry.toDocuments).toUTF8)
  paths : report.files.node? sinks.paths.location
    = some (.file (textFor setup files order Entry.toPaths).toUTF8)
  failures : report.files.node? sinks.failures.location
    = some (.file (textFor setup files order Entry.toFailures).toUTF8)

theorem locations_eq_iff {s t : Sinks} :
    s.locations = t.locations ↔ s.documents.location = t.documents.location ∧
      s.paths.location = t.paths.location ∧ s.failures.location = t.failures.location := by
  simp [Sinks.locations]

/-- What a finished batch that kept its account leaves. -/
theorem Finished.leaves {setup : Setup} {paths : List Path} {s : State}
    (h : Finished setup files paths s) {log : List Nat} {half : Option Nat}
    (hlog : Logged (entryAt setup files paths) log half s)
    (hlocations : s.sinks.locations = sinks.locations) (hperm : paths.Perm found)
    (events : List Event) :
    Leaves files setup found sinks ⟨s.outcome, s.files, events⟩ (log.map (pathAt paths)) := by
  obtain ⟨horder, rfl⟩ := h.log_perm hlog
  obtain ⟨hdocuments, hpaths, hfailures⟩ := hlog.closed _ h.phase
  obtain ⟨hdl, hpl, hfl⟩ := locations_eq_iff.mp hlocations
  rw [hdl, Option.toList_none, List.append_nil, written_eq] at hdocuments
  rw [hpl, written_eq] at hpaths
  rw [hfl, written_eq] at hfailures
  refine ⟨horder.trans hperm, ?_, hdocuments, hpaths, hfailures⟩
  have htally : s.tally = ⟨found.length, found.countP (getsPair setup files),
      found.countP fun p => !getsPair setup files p⟩ := by
    rw [← hperm.length_eq, ← hperm.countP_eq, ← hperm.countP_eq, ← h.total, ← h.accepted,
      ← h.rejected]
  show s.outcome = _
  rw [State.outcome, h.phase, htally]

theorem Placed.exists_leaves (schedule : List Move)
    (h : Placed files (setupOf files parser serialize options) input outputs found sinks opened)
    (hentries : HasEntries files (setupOf files parser serialize options) found)
    (hdistinct : sinks.locations.Nodup) :
    ∃ order, Leaves files (setupOf files parser serialize options) found sinks
      (runBatch files parser serialize options schedule input outputs) order := by
  have hcongr : ∀ {report report' : Report} {order},
      report'.result = report.result → report'.files = report.files →
      Leaves files (setupOf files parser serialize options) found sinks report order →
      Leaves files (setupOf files parser serialize options) found sinks report' order := by
    rintro report report' order hresult hfiles ⟨hperm, hr, hd, hp, hf⟩
    exact ⟨hperm, hresult.trans hr, hfiles ▸ hd, hfiles ▸ hp, hfiles ▸ hf⟩
  by_cases hne : found = []
  · subst hne
    obtain ⟨hresult, hfiles⟩ := runBatch_of_nil h.isFound h.isOpened schedule
    obtain ⟨hd, hp, hf⟩ := Sinks.node?_close (Sinks.hold_open h.isOpened hdistinct) hdistinct
    have hempty : Leaves files (setupOf files parser serialize options) [] sinks
        ⟨.ok {}, sinks.close opened, []⟩ [] := ⟨.refl _, rfl, hd, hp, hf⟩
    exact ⟨[], hcongr hresult hfiles hempty⟩
  · obtain ⟨hresult, hfiles⟩ := runBatch_of_ne_nil h.isFound h.isOpened hne schedule
    obtain ⟨hsound, -⟩ := h.sound_endState hne schedule
    obtain ⟨log, half, hlog⟩ := hsound.logged hdistinct
    exact ⟨_, hcongr hresult hfiles ((h.finished hentries hne schedule).leaves hlog
      hsound.framed.sinks (List.mergeSort_perm found Path.le) [])⟩

theorem exists_leaves (schedule : List Move)
    (h : Feasible files (setupOf files parser serialize options) input outputs found sinks opened)
    (hdistinct : sinks.locations.Nodup) :
    ∃ order, Leaves files (setupOf files parser serialize options) found sinks
      (runBatch files parser serialize options schedule input outputs) order :=
  h.placed.exists_leaves schedule h.hasEntries hdistinct

namespace Leaves

variable {setup : Setup} {report : Report} {order : List Path}

theorem adds (hentries : HasEntries files setup found)
    (hleaves : Leaves files setup found sinks report order) {p : Path} (hp : p ∈ order) :
    Adds setup files p :=
  adds_of_isEntryOf (hentries p (hleaves.perm.mem_iff.mp hp))

theorem accepts (hentries : HasEntries files setup found)
    (hleaves : Leaves files setup found sinks report order) :
    ∀ p ∈ order.filter (getsPair setup files),
      Accepts setup files p (documentOf setup files p) := by
  intro p hp
  obtain ⟨hmem, hpair⟩ := List.mem_filter.mp hp
  cases hleaves.adds hentries hmem with
  | pair _ haccepts => exact haccepts
  | failure hnot =>
    rw [hpair] at hnot
    cases hnot

theorem rejects (hentries : HasEntries files setup found)
    (hleaves : Leaves files setup found sinks report order) :
    ∀ p ∈ order.filter fun p => !getsPair setup files p,
      ∀ document, ¬ Accepts setup files p document := by
  intro p hp
  obtain ⟨hmem, hnot⟩ := List.mem_filter.mp hp
  cases hleaves.adds hentries hmem with
  | pair hpair =>
    rw [hpair] at hnot
    cases hnot
  | failure _ hrejects => exact hrejects

theorem textFor_documents (hentries : HasEntries files setup found)
    (hleaves : Leaves files setup found sinks report order) :
    textFor setup files order Entry.toDocuments
      = String.join (((order.filter (getsPair setup files)).map (documentOf setup files)).map
          (· ++ "\n")) := by
  refine join_map_filter fun p hp => ?_
  cases hleaves.adds hentries hp with
  | pair hpair _ hdocument => rw [hpair, hdocument, if_pos rfl]
  | failure hpair _ hdocument => rw [hpair, hdocument, if_neg Bool.false_ne_true]

theorem textFor_paths (hentries : HasEntries files setup found)
    (hleaves : Leaves files setup found sinks report order) :
    textFor setup files order Entry.toPaths
      = String.join (((order.filter (getsPair setup files)).map (shownPath setup files)).map
          (· ++ "\n")) := by
  refine join_map_filter fun p hp => ?_
  cases hleaves.adds hentries hp with
  | pair hpair _ _ hpath => rw [hpair, hpath, if_pos rfl]
  | failure hpair _ _ hpath => rw [hpair, hpath, if_neg Bool.false_ne_true]

theorem textFor_failures (hentries : HasEntries files setup found)
    (hleaves : Leaves files setup found sinks report order) :
    textFor setup files order Entry.toFailures
      = String.join (((order.filter fun p => !getsPair setup files p).map fun p =>
          failureText (failedPath setup files p) (reasonOf setup files p)).map (· ++ "\n")) := by
  refine join_map_filter fun p hp => ?_
  cases hleaves.adds hentries hp with
  | pair hpair _ _ _ hfailure => rw [hpair, hfailure, Bool.not_true, if_neg Bool.false_ne_true]
  | failure hpair _ _ _ hfailure => rw [hpair, hfailure, Bool.not_false, if_pos rfl]

/-- What a batch leaves belongs together. -/
theorem correlated_of_entries (h : Placed files setup input outputs found sinks opened)
    (hentries : HasEntries files setup found)
    (hleaves : Leaves files setup found sinks report order)
    (hframe : Frame sinks.locations opened report.files) :
    Correlated files setup outputs found report (order.filter (getsPair setup files))
      (order.filter fun p => !getsPair setup files p) (documentOf setup files)
      (reasonOf setup files) := by
  have haccepted : (order.filter (getsPair setup files)).length
      = found.countP (getsPair setup files) := by
    rw [← List.countP_eq_length_filter, hleaves.perm.countP_eq]
  have hrejected : (order.filter fun p => !getsPair setup files p).length
      = found.countP fun p => !getsPair setup files p := by
    rw [← List.countP_eq_length_filter, hleaves.perm.countP_eq]
  have htotal : found.length = found.countP (getsPair setup files)
      + found.countP fun p => !getsPair setup files p := by
    simpa using List.length_eq_countP_add_countP (getsPair setup files)
  obtain ⟨hd, hp, hf⟩ := Sinks.read_opened h.isOpened hframe hleaves.documents hleaves.paths
    hleaves.failures
  rw [hleaves.textFor_documents hentries] at hd
  rw [hleaves.textFor_paths hentries] at hp
  rw [hleaves.textFor_failures hentries] at hf
  refine ⟨⟨_, hleaves.result, rfl, htotal, haccepted.symm, hrejected.symm⟩, ?_,
    hasLines_of_read hd fun line hline => ?_, hasLines_of_read hp fun line hline => ?_,
    hasLines_of_read hf fun line hline => ?_, hleaves.accepts hentries, hleaves.rejects hentries⟩
  · exact (List.filter_append_perm _ order).trans hleaves.perm
  · obtain ⟨p, hp', rfl⟩ := List.mem_map.mp hline
    obtain ⟨tree, records, -, -, -, -, hdocument⟩ := (hleaves.accepts hentries p hp').tree
    exact h.singleLine hdocument
  · obtain ⟨p, hp', rfl⟩ := List.mem_map.mp hline
    exact (hleaves.accepts hentries p hp').no_newline
  · obtain ⟨p, -, rfl⟩ := List.mem_map.mp hline
    exact not_mem_failureText (not_mem_failedPath setup files p) _

theorem correlated (h : Feasible files setup input outputs found sinks opened)
    (hleaves : Leaves files setup found sinks report order)
    (hframe : Frame sinks.locations opened report.files) :
    Correlated files setup outputs found report (order.filter (getsPair setup files))
      (order.filter fun p => !getsPair setup files p) (documentOf setup files)
      (reasonOf setup files) :=
  hleaves.correlated_of_entries h.placed h.hasEntries hframe

end Leaves

/-- **The outputs of a batch belong together.** -/
theorem runBatch_correlated (schedule : List Move)
    (h : Feasible files (setupOf files parser serialize options) input outputs found sinks opened)
    (hdistinct : sinks.locations.Nodup) :
    ∃ accepted rejected document reason,
      Correlated files (setupOf files parser serialize options) outputs found
        (runBatch files parser serialize options schedule input outputs) accepted rejected
        document reason := by
  obtain ⟨order, hleaves⟩ := exists_leaves schedule h hdistinct
  exact ⟨_, _, _, _, hleaves.correlated h (frame_runBatch schedule h)⟩

end

/-! ## A single source file -/

/-- A parser that finds a tree of one node in every source. -/
def oneNodeParser : SourceParser := ⟨fun _ => .tree (.node ⟨.text "root", .null⟩ [])⟩

/-- Every list of records has its document. -/
def writeDocument : Serializer := fun records => .ok (Document.write records)

/-- Options for trees of almost any size. -/
def anySize : BatchOptions where
  minNodes := 1
  maxNodes := 30000
  methodOnly := false
  language := none
  workers := 1
  progressInterval := 1000
  minNodes_le_maxNodes := by decide
  workers_pos := by decide
  progressInterval_pos := by decide

/-- A directory with a source file. -/
def sourceFiles : FileSystem where
  entries := [(["work"], .directory), (["work", "a.py"], .file "nodes 1".toUTF8)]
  workingDirectory := ["work"]

/-- The directory with an output that is there already, and a link to it in
the place of another output. -/
def linkedFiles : FileSystem where
  entries := sourceFiles.entries
    ++ [(["work", "out.txt"], .file .empty), (["work", "out.json"], .link "out.txt")]
  workingDirectory := ["work"]

theorem findFiles_single {fs : FileSystem} {l : Location} {content : ByteArray}
    (h : fs.status "a.py" = .ok (l, .file content)) :
    findFiles fs "a.py" = .ok [Path.ofText "a.py"] :=
  findFiles_file (by decide) (by decide) (by decide) h

theorem parsesRegularly_oneNode (fs : FileSystem) (options : BatchOptions) (p : Path) :
    ParsesRegularly (setupOf fs oneNodeParser writeDocument options) fs p := by
  intro source language _ _
  show Tree.all RawLabel.isPlain (.node ⟨.text "root", .null⟩ []) = true
  decide

theorem feasible_file {fs opened : FileSystem} {parser : SourceParser} {options : BatchOptions}
    {input outputs : String} {p : Path} {sinks : Sinks} {l : Location} {content : ByteArray}
    (hfound : findFiles fs input = .ok [p]) (htext : p.text = input)
    (hstatus : fs.status input = .ok (l, .file content))
    (hopen : Sinks.open_ fs (.of outputs) = (.ok sinks, opened)) (hapart : l ∉ sinks.locations)
    (hregular : ParsesRegularly (setupOf fs parser writeDocument options) fs p) :
    Feasible fs (setupOf fs parser writeDocument options) input outputs [p] sinks opened := by
  refine ⟨hfound, hopen, fun q hq l' n hl => ?_, fun q hq => ?_,
    fun records document hdocument => (Except.ok.inj hdocument).symm⟩
  · obtain rfl := List.mem_singleton.mp hq
    rw [htext, hstatus] at hl
    cases hl
    exact hapart
  · obtain rfl := List.mem_singleton.mp hq
    exact hregular

theorem feasible_single {fs opened : FileSystem} {outputs : String} {sinks : Sinks}
    {content : ByteArray}
    (hstatus : fs.status "a.py" = .ok (["work", "a.py"], .file content))
    (hopen : Sinks.open_ fs (.of outputs) = (.ok sinks, opened))
    (hapart : ["work", "a.py"] ∉ sinks.locations) :
    Feasible fs (setupOf fs oneNodeParser writeDocument anySize) "a.py" outputs
      [Path.ofText "a.py"] sinks opened :=
  feasible_file (findFiles_single hstatus) (by decide) hstatus hopen hapart
    (parsesRegularly_oneNode fs anySize _)

theorem status_source :
    sourceFiles.status "a.py" = .ok (["work", "a.py"], .file "nodes 1".toUTF8) :=
  FileSystem.status_file (by decide) rfl rfl

theorem status_linked :
    linkedFiles.status "a.py" = .ok (["work", "a.py"], .file "nodes 1".toUTF8) :=
  FileSystem.status_file (by decide) rfl rfl

theorem open_out {fs fs₁ fs₂ fs₃ : FileSystem} {l₁ l₂ l₃ : Location}
    (h₁ : fs.openForWriting "out.json" = .ok (l₁, fs₁))
    (h₂ : fs₁.openForWriting "out.txt" = .ok (l₂, fs₂))
    (h₃ : fs₂.openForWriting "out_failed.txt" = .ok (l₃, fs₃)) :
    Sinks.open_ fs (.of "out")
      = (.ok ⟨{ location := l₁ }, { location := l₂ }, { location := l₃ }⟩, fs₃) := by
  have hd : (SinkPaths.of "out").documents.text = "out.json" := by decide
  have hp : (SinkPaths.of "out").paths.text = "out.txt" := by decide
  have hf : (SinkPaths.of "out").failures.text = "out_failed.txt" := by decide
  rw [← hd] at h₁
  rw [← hp] at h₂
  rw [← hf] at h₃
  exact Sinks.open_of_openForWriting h₁ h₂ h₃

/-- Only the location of a file that is opened anew changes. -/
theorem exists_openForWriting {fs : FileSystem} {name : String} (hname : IsName .create name)
    (hhere : fs.node? fs.workingDirectory = some .directory)
    (hnode : fs.node? (fs.workingDirectory ++ [name]) = none) :
    ∃ after, fs.openForWriting name = .ok (fs.workingDirectory ++ [name], after) ∧
      after.workingDirectory = fs.workingDirectory ∧
      ∀ l, l ≠ fs.workingDirectory ++ [name] → after.node? l = fs.node? l := by
  refine ⟨_, FileSystem.openForWriting_free hname hhere hnode,
    FileSystem.workingDirectory_set fs _ _, fun l hl => ?_⟩
  rw [FileSystem.node?_set fs (by simp), if_neg hl]

/-- Outputs that are not there yet can be opened. -/
theorem open_free {fs : FileSystem} {here : Location} (hwd : fs.workingDirectory = here)
    (hhere : fs.node? here = some .directory)
    (hd : fs.node? (here ++ ["out.json"]) = none) (hp : fs.node? (here ++ ["out.txt"]) = none)
    (hf : fs.node? (here ++ ["out_failed.txt"]) = none) :
    ∃ opened, Sinks.open_ fs (.of "out")
      = (.ok ⟨{ location := here ++ ["out.json"] }, { location := here ++ ["out.txt"] },
          { location := here ++ ["out_failed.txt"] }⟩, opened) := by
  subst hwd
  obtain ⟨fs₁, h₁, hwd₁, hsame₁⟩ := exists_openForWriting (by decide) hhere hd
  have hhere₁ := (hsame₁ fs.workingDirectory (by simp)).trans hhere
  have hp₁ := (hsame₁ (fs.workingDirectory ++ ["out.txt"]) (by simp)).trans hp
  rw [← hwd₁] at hhere₁ hp₁
  obtain ⟨fs₂, h₂, hwd₂, hsame₂⟩ := exists_openForWriting (by decide) hhere₁ hp₁
  have hhere₂ := (hsame₂ fs₁.workingDirectory (by simp)).trans hhere₁
  have hf₂ := ((hsame₂ (fs₁.workingDirectory ++ ["out_failed.txt"]) (by simp)).trans
    (hwd₁ ▸ hsame₁ (fs.workingDirectory ++ ["out_failed.txt"]) (by simp))).trans (hwd₁ ▸ hf)
  rw [← hwd₂] at hhere₂ hf₂
  obtain ⟨fs₃, h₃, -, -⟩ := exists_openForWriting (by decide) hhere₂ hf₂
  rw [hwd₁] at h₂
  rw [hwd₂, hwd₁] at h₃
  exact ⟨fs₃, open_out h₁ h₂ h₃⟩

theorem open_source : ∃ opened, Sinks.open_ sourceFiles (.of "out")
    = (.ok ⟨{ location := ["work", "out.json"] }, { location := ["work", "out.txt"] },
        { location := ["work", "out_failed.txt"] }⟩, opened) :=
  open_free rfl rfl rfl rfl rfl

/-- A link to the second output in the place of the first one makes them one
file. -/
theorem open_of_link {fs : FileSystem} {here : Location} (hwd : fs.workingDirectory = here)
    (hhere : fs.node? here = some .directory)
    (hlink : fs.node? (here ++ ["out.json"]) = some (.link "out.txt"))
    (hfile : fs.node? (here ++ ["out.txt"]) = some (.file .empty))
    (hfree : fs.node? (here ++ ["out_failed.txt"]) = none) :
    ∃ opened, Sinks.open_ fs (.of "out")
      = (.ok ⟨{ location := here ++ ["out.txt"] }, { location := here ++ ["out.txt"] },
          { location := here ++ ["out_failed.txt"] }⟩, opened) := by
  subst hwd
  have hemptied : ∀ {fs' : FileSystem}, fs'.workingDirectory = fs.workingDirectory →
      (∀ l, fs'.node? l = fs.node? l) →
      (fs'.set (fs.workingDirectory ++ ["out.txt"]) (.file .empty)).workingDirectory
          = fs.workingDirectory ∧
        ∀ l, (fs'.set (fs.workingDirectory ++ ["out.txt"]) (.file .empty)).node? l
          = fs.node? l := by
    intro fs' hwd' hsame
    refine ⟨(FileSystem.workingDirectory_set fs' _ _).trans hwd', fun l => ?_⟩
    rw [FileSystem.node?_set fs' (by simp)]
    split
    · rename_i hl
      rw [hl, hfile]
    · exact hsame l
  have hentry : IsEntry .create "out.json" [] := by decide
  have h₁ : fs.openForWriting "out.json" = .ok (fs.workingDirectory ++ ["out.txt"],
      fs.set (fs.workingDirectory ++ ["out.txt"]) (.file .empty)) :=
    FileSystem.openForWriting_of_find (FileSystem.find_of_isName (by decide)
      (.follow hhere hentry hlink rfl (FileSystem.leads_file hhere (by decide) hfile)))
  obtain ⟨hwd₁, hsame₁⟩ := hemptied rfl fun _ => rfl
  generalize fs.set (fs.workingDirectory ++ ["out.txt"]) (.file .empty) = fs₁ at h₁ hwd₁ hsame₁
  have hfile₁ : fs₁.node? (fs₁.workingDirectory ++ ["out.txt"]) = some (.file .empty) := by
    rw [hsame₁, hwd₁, hfile]
  have h₂ := FileSystem.openForWriting_of_find (FileSystem.find_file
    (by decide : IsName .create "out.txt") (by rw [hsame₁, hwd₁, hhere]) hfile₁)
  rw [hwd₁] at h₂
  obtain ⟨hwd₂, hsame₂⟩ := hemptied hwd₁ hsame₁
  generalize fs₁.set (fs.workingDirectory ++ ["out.txt"]) (.file .empty) = fs₂ at h₂ hwd₂ hsame₂
  have h₃ := FileSystem.openForWriting_free (by decide : IsName .create "out_failed.txt")
    (by rw [hsame₂, hwd₂, hhere]) (by rw [hsame₂, hwd₂, hfree])
  rw [hwd₂] at h₃
  exact ⟨_, open_out h₁ h₂ h₃⟩

theorem open_linked : ∃ opened, Sinks.open_ linkedFiles (.of "out")
    = (.ok ⟨{ location := ["work", "out.txt"] }, { location := ["work", "out.txt"] },
        { location := ["work", "out_failed.txt"] }⟩, opened) :=
  open_of_link rfl rfl rfl rfl rfl

theorem runBatch_correlated_source : ∃ sinks opened,
    Feasible sourceFiles (setupOf sourceFiles oneNodeParser writeDocument anySize) "a.py" "out"
      [Path.ofText "a.py"] sinks opened ∧ sinks.locations.Nodup ∧
    ∃ accepted rejected document reason,
      Correlated sourceFiles (setupOf sourceFiles oneNodeParser writeDocument anySize) "out"
        [Path.ofText "a.py"]
        (runBatch sourceFiles oneNodeParser writeDocument anySize [.submit, .start, .advance 0]
          "a.py" "out")
        accepted rejected document reason := by
  obtain ⟨opened, hopen⟩ := open_source
  have hfeasible := feasible_single status_source hopen (by decide)
  exact ⟨_, opened, hfeasible, by decide, runBatch_correlated _ hfeasible (by decide)⟩

theorem fileLanguage_source : fileLanguage "a.py" none = .ok "python" :=
  fileLanguage_python (by decide)

/-- The parser is called with what the file has. -/
theorem parseFile_of_status {fs : FileSystem} {name : String} {l : Location}
    {content : ByteArray} (parser : SourceParser) (origin : Origin)
    (hlanguage : fileLanguage name none = .ok "python")
    (htext : (Path.ofText name).text = name) (h : fs.status name = .ok (l, .file content)) :
    parseFile fs parser origin anySize.settings (Path.ofText name).text
      = parseSource parser origin ⟨content, "python", false⟩ := by
  have hsettings : anySize.settings = ⟨false, none⟩ := rfl
  have hsource : fileSource fs name = .ok content := by
    rw [fileSource, htext, FileSystem.read, h]
    rfl
  rw [htext, hsettings]
  simp only [parseFile, hlanguage, hsource]

theorem parseFile_source {fs : FileSystem} {l : Location} {content : ByteArray}
    (parser : SourceParser) (h : fs.status "a.py" = .ok (l, .file content)) :
    parseFile fs parser .worker anySize.settings (Path.ofText "a.py").text
      = parseSource parser .worker ⟨content, "python", false⟩ :=
  parseFile_of_status parser .worker fileLanguage_source (by decide) h

theorem accepts_linked : ∃ document,
    Accepts (setupOf linkedFiles oneNodeParser writeDocument anySize) linkedFiles
      (Path.ofText "a.py") document := by
  refine ⟨_, by decide, by decide, .node ⟨.text "root", .null⟩ [], _, ?_, by decide, by decide,
    flattenRaw_of_isPlain (by decide), rfl⟩
  exact congrArg Prod.fst (parseFile_source oneNodeParser status_linked)

theorem not_correlated_linked : ∃ sinks opened,
    Feasible linkedFiles (setupOf linkedFiles oneNodeParser writeDocument anySize) "a.py" "out"
      [Path.ofText "a.py"] sinks opened ∧
    ¬ ∃ accepted rejected document reason,
      Correlated linkedFiles (setupOf linkedFiles oneNodeParser writeDocument anySize) "out"
        [Path.ofText "a.py"]
        (runBatch linkedFiles oneNodeParser writeDocument anySize [] "a.py" "out")
        accepted rejected document reason := by
  obtain ⟨opened, hopen⟩ := open_linked
  have hfeasible := feasible_single status_linked hopen (by decide)
  refine ⟨_, opened, hfeasible, ?_⟩
  rintro ⟨accepted, rejected, document, reason, h⟩
  have hlines := hasLines_unique (read_of_same_location hopen (frame_runBatch [] hfeasible) rfl)
    h.documents h.paths
  obtain ⟨d, haccepts⟩ := accepts_linked
  have hmem : Path.ofText "a.py" ∈ accepted := by
    have hin : Path.ofText "a.py" ∈ accepted ++ rejected := h.each.mem_iff.mpr (by simp)
    rcases List.mem_append.mp hin with hin | hin
    · exact hin
    · exact absurd haccepts (h.rejects _ hin d)
  have hsame := List.map_inj_left.mp hlines _ hmem
  obtain ⟨tree, records, -, -, -, -, hdocument⟩ := (h.accepts _ hmem).tree
  rw [hsame] at hdocument
  have hshown : shownPath (setupOf linkedFiles oneNodeParser writeDocument anySize) linkedFiles
      (Path.ofText "a.py") = "a.py" := by decide
  rw [hshown] at hdocument
  have hwrite : Document.write records = "a.py" := Except.ok.inj hdocument
  have hhead := congrArg (fun s : String => s.toList.head?) hwrite
  simp [Document.write, Document.arrayText] at hhead

end SyntaxCorpus.Batch
