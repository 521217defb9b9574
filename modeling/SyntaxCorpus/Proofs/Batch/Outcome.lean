/-
SyntaxCorpus.Proofs.Batch.Outcome — what is written for a file, and why.

* `ParserOutcome.IsRegular` — a parser gives a tree with plain labels, or fails
  in any way but an interrupt.
* `ParsesQuietly` — a parser gives any tree, or fails in any way but an interrupt.
* `Accepts`, `RejectedFor` — what it takes for a file to be accepted with a document,
  or to be rejected for a reason.
* `EndsBatch` — what ends a whole batch at a file without an interrupt.
* `workOut_cases`, `workOut_isEntryOf` — a file gets a pair of lines exactly if
  it is accepted, and a failure line otherwise, unless it ends the batch.
* `rejectedFor_iff` — a failure line has the reason of the rejection.
* `Writes`, `workOut_writes` — what may be written for a file in any case.
* `workOut_congr` — what is written for a file is the same when other files
  have been written.
-/
import SyntaxCorpus.Batch.Machine
import SyntaxCorpus.Proofs.Batch.FailureLine
import SyntaxCorpus.Proofs.FileSystem.Frame
import SyntaxCorpus.Proofs.Path.Basic
import SyntaxCorpus.Proofs.Record.RoundTrip

namespace SyntaxCorpus

/-- Whether a parser gives a tree of text labels with text or absent values, or
fails in a way that has a text and is no interrupt. -/
def ParserOutcome.IsRegular : ParserOutcome → Prop
  | tree t => t.all RawLabel.isPlain = true
  | failure _ | crash _ => True
  | untold .. | interrupt _ => False

namespace Batch

open FileSystem (Frame)

/-! ## Parsing -/

section

variable {fs : FileSystem} {p : Path}

/-- Whether the parser is regular on the source of a file. -/
def ParsesRegularly (setup : Setup) (fs : FileSystem) (p : Path) : Prop :=
  ∀ source language, fs.read p.text = .ok source →
    fileLanguage p.text setup.options.language = .ok language →
    (setup.parser.parse ⟨source, language, setup.options.methodOnly⟩).IsRegular

/-- Whether the parser gives any tree for the source of a file, or fails in a way
that is no interrupt. -/
def ParsesQuietly (setup : Setup) (fs : FileSystem) (p : Path) : Prop :=
  ∀ source language, fs.read p.text = .ok source →
    fileLanguage p.text setup.options.language = .ok language →
    ∀ text, setup.parser.parse ⟨source, language, setup.options.methodOnly⟩ ≠ .interrupt text

theorem ParsesRegularly.quietly {setup : Setup} (h : ParsesRegularly setup fs p) :
    ParsesQuietly setup fs p := by
  intro source language hsource hlanguage text hinterrupt
  have hregular := h source language hsource hlanguage
  rw [hinterrupt] at hregular
  exact hregular

theorem exists_failed_of_fileLanguage {path : String} {language : Option String} {e : ParseStop}
    (h : fileLanguage path language = .error e) : ∃ f, e = .failed f := by
  unfold fileLanguage at h
  cases hresolve : Language.resolve language (some (Path.ofText path)) with
  | ok name =>
    rw [hresolve] at h
    cases h
  | error f =>
    rw [hresolve] at h
    cases h
    exact ⟨_, rfl⟩

/-- A path that leads somewhere has no null character, so the file is read or
the failure is one of the file. -/
theorem exists_failed_of_fileSource (hproper : p.IsProper) {l : Location} {n : Node}
    (hstatus : fs.status p.text = .ok (l, n)) {e : ParseStop}
    (h : fileSource fs p.text = .error e) : ∃ f, e = .failed f := by
  unfold fileSource FileSystem.read at h
  rw [Path.ofText_text hproper, hstatus] at h
  cases n with
  | file content => cases h
  | directory =>
    cases h
    exact ⟨_, rfl⟩
  | link target =>
    cases h
    exact ⟨_, rfl⟩

theorem fileSource_eq_ok (hproper : p.IsProper) {source : ByteArray}
    (h : fileSource fs p.text = .ok source) : fs.read p.text = .ok source := by
  unfold fileSource at h
  rw [Path.ofText_text hproper] at h
  cases hread : fs.read p.text with
  | error e =>
    rw [hread] at h
    cases h
  | ok content =>
    rw [hread] at h
    cases h
    rfl

/-- The parser crashes on the source of a file, and another error is raised in place of
the text of the crash. -/
def CrashesUntold (setup : Setup) (fs : FileSystem) (p : Path) (raised : Crash) : Prop :=
  ∃ source language kind, fs.read p.text = .ok source ∧
    fileLanguage p.text setup.options.language = .ok language ∧
    setup.parser.parse ⟨source, language, setup.options.methodOnly⟩ = .untold kind raised

/-- A file that is there is parsed by a call of the parser on its source, or it fails
before that. -/
theorem parseFile_called (setup : Setup) (hproper : p.IsProper) {l : Location} {n : Node}
    (hstatus : fs.status p.text = .ok (l, n)) (origin : Origin) :
    (∃ f, (parseFile fs setup.parser origin setup.options.settings p.text).1
        = .error (.failed f)) ∨
      ∃ source language, fs.read p.text = .ok source ∧
        fileLanguage p.text setup.options.language = .ok language ∧
        parseFile fs setup.parser origin setup.options.settings p.text
          = parseSource setup.parser origin ⟨source, language, setup.options.methodOnly⟩ := by
  unfold parseFile
  cases hlanguage : fileLanguage p.text setup.options.settings.language with
  | error e =>
    obtain ⟨f, rfl⟩ := exists_failed_of_fileLanguage hlanguage
    exact .inl ⟨f, rfl⟩
  | ok language =>
    cases hsource : fileSource fs p.text with
    | error e =>
      obtain ⟨f, rfl⟩ := exists_failed_of_fileSource hproper hstatus hsource
      exact .inl ⟨f, rfl⟩
    | ok source => exact .inr ⟨source, language, fileSource_eq_ok hproper hsource, hlanguage, rfl⟩

/-- A file is parsed to a tree, or it fails, or its parser crashes without a text, if
there is no interrupt. -/
theorem parseFile_of_quiet {setup : Setup} (hproper : p.IsProper) {l : Location} {n : Node}
    (hstatus : fs.status p.text = .ok (l, n)) (hquiet : ParsesQuietly setup fs p)
    (origin : Origin) :
    (∃ tree, (parseFile fs setup.parser origin setup.options.settings p.text).1 = .ok tree) ∨
      (∃ f, (parseFile fs setup.parser origin setup.options.settings p.text).1
        = .error (.failed f)) ∨
      ∃ raised, CrashesUntold setup fs p raised ∧
        (parseFile fs setup.parser origin setup.options.settings p.text).1
          = .error (.escaped raised) := by
  rcases parseFile_called setup hproper hstatus origin with
    hfailed | ⟨source, language, hsource, hlanguage, heq⟩
  · exact .inr (.inl hfailed)
  · have hcall := hquiet source language hsource hlanguage
    rw [heq, parseSource]
    cases hparse : setup.parser.parse ⟨source, language, setup.options.methodOnly⟩ with
    | tree t => exact .inl ⟨t, rfl⟩
    | failure message => exact .inr (.inl ⟨_, rfl⟩)
    | crash c => exact .inr (.inl ⟨_, rfl⟩)
    | untold kind raised =>
      exact .inr (.inr ⟨raised, ⟨source, language, kind, hsource, hlanguage, hparse⟩, rfl⟩)
    | interrupt text => exact (hcall text hparse).elim

/-- The tree of a file is plain if the parser is regular on its source. -/
theorem isPlain_of_parseFile {setup : Setup} (hproper : p.IsProper) {l : Location} {n : Node}
    (hstatus : fs.status p.text = .ok (l, n)) (hregular : ParsesRegularly setup fs p)
    {origin : Origin} {tree : Tree RawLabel}
    (h : (parseFile fs setup.parser origin setup.options.settings p.text).1 = .ok tree) :
    tree.all RawLabel.isPlain = true := by
  rcases parseFile_called setup hproper hstatus origin with
    ⟨f, hfailed⟩ | ⟨source, language, hsource, hlanguage, heq⟩
  · cases hfailed.symm.trans h
  · have hcall := hregular source language hsource hlanguage
    rw [heq, parseSource] at h
    generalize setup.parser.parse ⟨source, language, setup.options.methodOnly⟩ = outcome
      at h hcall
    cases outcome with
    | tree t =>
      obtain rfl := Except.ok.inj h
      exact hcall
    | _ => cases h

/-- The parser of a file that it is regular on does not crash without a text. -/
theorem ParsesRegularly.not_crashesUntold {setup : Setup} (h : ParsesRegularly setup fs p)
    (raised : Crash) : ¬ CrashesUntold setup fs p raised := by
  rintro ⟨source, language, kind, hsource, hlanguage, hparse⟩
  have hregular := h source language hsource hlanguage
  rw [hparse] at hregular
  exact hregular

/-! ## Acceptance -/

/-- The path of a file as the outputs show it. -/
def shownPath (setup : Setup) (fs : FileSystem) (p : Path) : String :=
  relativePath fs p setup.root

/-- What it takes for a file to be accepted with a document: its path is on one
line, it has a tree, the tree is neither too small nor too large, and its
records have the document. -/
structure Accepts (setup : Setup) (fs : FileSystem) (p : Path) (document : String) : Prop where
  no_newline : '\n' ∉ (shownPath setup fs p).toList
  no_return : '\r' ∉ (shownPath setup fs p).toList
  tree : ∃ tree records,
    (parseFile fs setup.parser .worker setup.options.settings p.text).1 = .ok tree ∧
      setup.options.minNodes ≤ tree.size ∧ tree.size ≤ setup.options.maxNodes ∧
      flattenRaw tree = .ok records ∧ setup.serialize records = .ok document

/-- Why a file is rejected, in words: for its path, for the failure of its parse, for
the number of its nodes, or because its records have no document. -/
inductive RejectedFor (setup : Setup) (fs : FileSystem) (p : Path) : String → Prop
  | brokenPath (hbreak : hasLineBreak (shownPath setup fs p) = true) :
      RejectedFor setup fs p "path contains a line break"
  | parseFailed {f} (hbreak : hasLineBreak (shownPath setup fs p) = false)
      (hparse : (parseFile fs setup.parser .worker setup.options.settings p.text).1
        = .error (.failed f)) :
      RejectedFor setup fs p f.message
  | tooFewNodes {tree records} (hbreak : hasLineBreak (shownPath setup fs p) = false)
      (hparse : (parseFile fs setup.parser .worker setup.options.settings p.text).1 = .ok tree)
      (hrecords : flattenRaw tree = .ok records) (hfew : tree.size < setup.options.minNodes) :
      RejectedFor setup fs p "too few nodes"
  | tooManyNodes {tree records} (hbreak : hasLineBreak (shownPath setup fs p) = false)
      (hparse : (parseFile fs setup.parser .worker setup.options.settings p.text).1 = .ok tree)
      (hrecords : flattenRaw tree = .ok records) (hleast : setup.options.minNodes ≤ tree.size)
      (hmany : setup.options.maxNodes < tree.size) :
      RejectedFor setup fs p "too many nodes"
  | noDocument {tree records e} (hbreak : hasLineBreak (shownPath setup fs p) = false)
      (hparse : (parseFile fs setup.parser .worker setup.options.settings p.text).1 = .ok tree)
      (hrecords : flattenRaw tree = .ok records) (hleast : setup.options.minNodes ≤ tree.size)
      (hgreatest : tree.size ≤ setup.options.maxNodes)
      (hdocument : setup.serialize records = .error e) :
      RejectedFor setup fs p e.message

/-- A path is shown as seen from the working directory. -/
theorem shownPath_congr {after : FileSystem} (h : after.workingDirectory = fs.workingDirectory)
    (setup : Setup) : shownPath setup after p = shownPath setup fs p := by
  rw [shownPath, shownPath, relativePath, relativePath, h]

/-- The path of a rejected file in its failure line. -/
def failedPath (setup : Setup) (fs : FileSystem) (p : Path) : String :=
  let shown := shownPath setup fs p
  if hasLineBreak shown then escapePath shown else shown

/-- The entries that a file may get: a pair of lines if it is accepted, and a
failure line if it is not. -/
inductive IsEntryOf (setup : Setup) (fs : FileSystem) (p : Path) : Entry → Prop
  | pair {document} (haccepts : Accepts setup fs p document) :
      IsEntryOf setup fs p (.pair (shownPath setup fs p) document)
  | failure {reason} (hrejects : ∀ document, ¬ Accepts setup fs p document) :
      IsEntryOf setup fs p (.failure (failedPath setup fs p) reason)

/-- A tree is accepted by its number of nodes, or rejected for the bound that it
misses. -/
theorem admitted_cases (options : BatchOptions) (path : String) (records : List Record) :
    (options.minNodes ≤ records.length ∧ records.length ≤ options.maxNodes ∧
        admitted options path records = .accepted path records) ∨
      (records.length < options.minNodes ∧
        admitted options path records = .rejected ⟨path, .tooFewNodes, "too few nodes"⟩) ∨
      (options.minNodes ≤ records.length ∧ options.maxNodes < records.length ∧
        admitted options path records = .rejected ⟨path, .tooManyNodes, "too many nodes"⟩) := by
  unfold admitted
  by_cases hfew : (records.length : Int) < options.minNodes
  · have hdecision : Admission.ofCount records.length options.minNodes options.maxNodes
        = .tooFew := if_pos hfew
    rw [hdecision]
    exact .inr (.inl ⟨by omega, rfl⟩)
  · by_cases hmany : (options.maxNodes : Int) < records.length
    · have hdecision : Admission.ofCount records.length options.minNodes options.maxNodes
          = .tooMany := (if_neg hfew).trans (if_pos hmany)
      rw [hdecision]
      exact .inr (.inr ⟨by omega, by omega, rfl⟩)
    · have hdecision : Admission.ofCount records.length options.minNodes options.maxNodes
          = .accept := (if_neg hfew).trans (if_neg hmany)
      rw [hdecision]
      exact .inl ⟨by omega, by omega, rfl⟩

/-- A tree is accepted by its number of nodes, or rejected for it. -/
theorem admitted_eq (options : BatchOptions) (path : String) (records : List Record) :
    (options.minNodes ≤ records.length ∧ records.length ≤ options.maxNodes ∧
        admitted options path records = .accepted path records) ∨
      (¬ (options.minNodes ≤ records.length ∧ records.length ≤ options.maxNodes) ∧
        ∃ kind reason, admitted options path records = .rejected ⟨path, kind, reason⟩) := by
  rcases admitted_cases options path records with h | ⟨hfew, heq⟩ | ⟨-, hmany, heq⟩
  · exact .inl h
  · exact .inr ⟨by omega, _, _, heq⟩
  · exact .inr ⟨by omega, _, _, heq⟩

theorem failedPath_of_unbroken {setup : Setup}
    (h : hasLineBreak (shownPath setup fs p) = false) :
    failedPath setup fs p = shownPath setup fs p := by
  rw [failedPath]
  simp [h]

theorem failedPath_of_broken {setup : Setup} (h : hasLineBreak (shownPath setup fs p) = true) :
    failedPath setup fs p = escapePath (shownPath setup fs p) := by
  rw [failedPath]
  simp [h]

/-- The path in a failure line has no line break. -/
theorem not_mem_failedPath (setup : Setup) (fs : FileSystem) (p : Path) :
    '\n' ∉ (failedPath setup fs p).toList := by
  rw [failedPath]
  split
  · exact not_mem_escapePath _ (.inl rfl)
  · rename_i h
    rw [Bool.not_eq_true, hasLineBreak_eq_false_iff] at h
    exact h.1

/-- What a worker writes for a file that has been parsed. -/
theorem entryOf_isEntryOf (setup : Setup) (hbreak : hasLineBreak (shownPath setup fs p) = false)
    {tree : Tree RawLabel} {records : List Record}
    (hparse : (parseFile fs setup.parser .worker setup.options.settings p.text).1 = .ok tree)
    (hrecords : flattenRaw tree = .ok records) :
    IsEntryOf setup fs p (entryOf setup.serialize
      (admitted setup.options (shownPath setup fs p) records)).1 := by
  have hlength := length_of_flattenRaw hrecords
  obtain ⟨hn, hr⟩ := hasLineBreak_eq_false_iff.mp hbreak
  have hunique : ∀ document, Accepts setup fs p document →
      (setup.options.minNodes ≤ records.length ∧ records.length ≤ setup.options.maxNodes) ∧
        setup.serialize records = .ok document := by
    rintro document ⟨-, -, t, rs, ht, hleast, hgreatest, hrs, hdocument⟩
    rw [hparse] at ht
    obtain rfl := Except.ok.inj ht
    rw [hrecords] at hrs
    obtain rfl := Except.ok.inj hrs
    rw [hlength]
    exact ⟨⟨hleast, hgreatest⟩, hdocument⟩
  rcases admitted_eq setup.options (shownPath setup fs p) records with
    ⟨hleast, hgreatest, heq⟩ | ⟨hcount, kind, reason, heq⟩
  · rw [heq]
    cases hserialize : setup.serialize records with
    | ok document =>
      simp only [entryOf, hserialize]
      rw [hlength] at hleast hgreatest
      exact .pair ⟨hn, hr, tree, records, hparse, hleast, hgreatest, hrecords, hserialize⟩
    | error e =>
      simp only [entryOf, hserialize, rejectedEntry]
      rw [← failedPath_of_unbroken hbreak]
      refine .failure fun document haccepts => ?_
      have hdocument := (hunique document haccepts).2
      rw [hserialize] at hdocument
      cases hdocument
  · rw [heq]
    simp only [entryOf, rejectedEntry]
    rw [← failedPath_of_unbroken hbreak]
    exact .failure fun document haccepts => hcount (hunique document haccepts).1

theorem outcomeOf_of_failure (options : BatchOptions) (path : String) (f : ParseFailure) :
    outcomeOf options path (.error (.failed f))
      = .ok (.rejected ⟨path, .parseFailed, f.message⟩) := rfl

theorem outcomeOf_of_records (options : BatchOptions) (path : String) {tree : Tree RawLabel}
    {records : List Record} (h : flattenRaw tree = .ok records) :
    outcomeOf options path (.ok tree) = .ok (admitted options path records) := by
  simp only [outcomeOf, h]

theorem outcomeOf_of_problems (options : BatchOptions) (path : String) {tree : Tree RawLabel}
    {ps : List Validation.Problem} (h : flattenRaw tree = .error ps) :
    outcomeOf options path (.ok tree) = .error (.invalidTree ps) := by
  simp only [outcomeOf, h]

theorem workOut_fst (setup : Setup) (fs : FileSystem) (p : Path) :
    (workOut setup fs p).1
      = (processFile fs setup.parser .worker setup.options setup.root p).1.map fun outcome =>
          (entryOf setup.serialize outcome).1 := by
  unfold workOut
  obtain ⟨_ | _, _⟩ := processFile fs setup.parser .worker setup.options setup.root p <;> rfl

theorem processFile_fst (setup : Setup) (fs : FileSystem) (p : Path) :
    (processFile fs setup.parser .worker setup.options setup.root p).1 =
      if hasLineBreak (shownPath setup fs p) then
        .ok (.rejected ⟨escapePath (shownPath setup fs p), .invalidPath,
          "path contains a line break"⟩)
      else outcomeOf setup.options (shownPath setup fs p)
        (parseFile fs setup.parser .worker setup.options.settings p.text).1 := by
  unfold processFile shownPath
  dsimp only
  split <;> rfl

/-- A file whose path is not on one line is rejected for its path. -/
theorem workOut_of_broken {setup : Setup}
    (hbreak : hasLineBreak (shownPath setup fs p) = true) :
    (workOut setup fs p).1
      = .ok (.failure (failedPath setup fs p) "path contains a line break") := by
  rw [workOut_fst, processFile_fst, if_pos hbreak, failedPath_of_broken hbreak]
  rfl

/-- What is worked out for a file whose path is on one line. -/
theorem workOut_of_unbroken {setup : Setup}
    (hbreak : hasLineBreak (shownPath setup fs p) = false) :
    (workOut setup fs p).1 = (outcomeOf setup.options (shownPath setup fs p)
      (parseFile fs setup.parser .worker setup.options.settings p.text).1).map fun outcome =>
        (entryOf setup.serialize outcome).1 := by
  rw [workOut_fst, processFile_fst, hbreak, if_neg Bool.false_ne_true]

/-- The outcomes of a file: it is rejected for its path, or because it has no
tree, or it is settled by the number of its records. -/
theorem processFile_cases {setup : Setup} {outcome : Outcome}
    (h : (processFile fs setup.parser .worker setup.options setup.root p).1 = .ok outcome) :
    (hasLineBreak (shownPath setup fs p) = true ∧
        outcome = .rejected ⟨escapePath (shownPath setup fs p), .invalidPath,
          "path contains a line break"⟩) ∨
      hasLineBreak (shownPath setup fs p) = false ∧
      ((∃ f, (parseFile fs setup.parser .worker setup.options.settings p.text).1
          = .error (.failed f) ∧
        outcome = .rejected ⟨shownPath setup fs p, .parseFailed, f.message⟩) ∨
      ∃ tree records,
        (parseFile fs setup.parser .worker setup.options.settings p.text).1 = .ok tree ∧
          flattenRaw tree = .ok records ∧
          outcome = admitted setup.options (shownPath setup fs p) records) := by
  rw [processFile_fst] at h
  split at h
  · rename_i hbreak
    exact .inl ⟨hbreak, (Except.ok.inj h).symm⟩
  · rename_i hbreak
    refine .inr ⟨Bool.not_eq_true _ ▸ hbreak, ?_⟩
    unfold outcomeOf at h
    split at h
    · rename_i f hparse
      exact .inl ⟨f, hparse, (Except.ok.inj h).symm⟩
    · cases h
    · cases h
    · cases h
    · rename_i tree hparse
      split at h
      · rename_i records hrecords
        exact .inr ⟨tree, records, hparse, hrecords, (Except.ok.inj h).symm⟩
      · cases h

/-- The parser gives a tree for a file with a label that is none. The first of these has
the problems that are told. -/
def HasInvalidTree (setup : Setup) (fs : FileSystem) (p : Path)
    (ps : List Validation.Problem) : Prop :=
  hasLineBreak (shownPath setup fs p) = false ∧
    ∃ tree, (parseFile fs setup.parser .worker setup.options.settings p.text).1 = .ok tree ∧
      (∃ l ∈ tree.labels, ∀ label, ¬ l.StandsFor label) ∧ flattenRaw tree = .error ps

/-- What ends a whole batch at a file without an interrupt: a tree with a label that is
none, or a crash without a text. -/
inductive EndsBatch (setup : Setup) (fs : FileSystem) (p : Path) : FileStop → Prop
  | invalidTree {ps} (hinvalid : HasInvalidTree setup fs p ps) :
      EndsBatch setup fs p (.invalidTree ps)
  | escaped {raised} (hbreak : hasLineBreak (shownPath setup fs p) = false)
      (hcrashes : CrashesUntold setup fs p raised) : EndsBatch setup fs p (.escaped raised)

/-- A file gets a pair of lines if it is accepted, and a failure line if it is
not, unless it ends the batch. -/
theorem workOut_cases (setup : Setup) (hproper : p.IsProper) {l : Location} {n : Node}
    (hstatus : fs.status p.text = .ok (l, n)) (hquiet : ParsesQuietly setup fs p) :
    (∃ e, (workOut setup fs p).1 = .ok e ∧ IsEntryOf setup fs p e) ∨
      ∃ stop, EndsBatch setup fs p stop ∧ (workOut setup fs p).1 = .error stop := by
  cases hbreak : hasLineBreak (shownPath setup fs p) with
  | true =>
    refine .inl ⟨_, workOut_of_broken hbreak, .failure fun document haccepts => ?_⟩
    rw [hasLineBreak_eq_false_iff.mpr ⟨haccepts.no_newline, haccepts.no_return⟩] at hbreak
    cases hbreak
  | false =>
    rw [workOut_of_unbroken hbreak]
    rcases parseFile_of_quiet hproper hstatus hquiet .worker with
      ⟨tree, hparse⟩ | ⟨f, hparse⟩ | ⟨raised, hcrashes, hparse⟩
    · rw [hparse]
      cases hrecords : flattenRaw tree with
      | ok records =>
        rw [outcomeOf_of_records setup.options _ hrecords]
        exact .inl ⟨_, rfl, entryOf_isEntryOf setup hbreak hparse hrecords⟩
      | error ps =>
        rw [outcomeOf_of_problems setup.options _ hrecords]
        have hlabel := flattenRaw_eq_error_iff.mp ⟨ps, hrecords⟩
        exact .inr ⟨_, .invalidTree ⟨hbreak, tree, hparse, hlabel, hrecords⟩, rfl⟩
    · rw [hparse, outcomeOf_of_failure, ← failedPath_of_unbroken hbreak]
      refine .inl ⟨_, rfl, .failure fun document haccepts => ?_⟩
      obtain ⟨tree, records, hok, -⟩ := haccepts.tree
      rw [hparse] at hok
      cases hok
    · rw [hparse]
      exact .inr ⟨_, .escaped hbreak hcrashes, rfl⟩

/-- A file gets a pair of lines if it is accepted, and a failure line if it is
not. -/
theorem workOut_isEntryOf (setup : Setup) (hproper : p.IsProper) {l : Location} {n : Node}
    (hstatus : fs.status p.text = .ok (l, n)) (hregular : ParsesRegularly setup fs p) :
    ∃ e, (workOut setup fs p).1 = .ok e ∧ IsEntryOf setup fs p e := by
  refine (workOut_cases setup hproper hstatus hregular.quietly).resolve_right ?_
  rintro ⟨stop, hends, -⟩
  cases hends with
  | invalidTree hinvalid =>
    -- a plain tree has records
    obtain ⟨-, tree, hparse, -, hproblems⟩ := hinvalid
    rw [flattenRaw_of_isPlain (isPlain_of_parseFile hproper hstatus hregular hparse)] at hproblems
    cases hproblems
  | escaped _ hcrashes => exact hregular.not_crashesUntold _ hcrashes

/-! ## Reasons -/

/-- What is worked out for a file that has records. -/
theorem workOut_of_records {setup : Setup}
    (hbreak : hasLineBreak (shownPath setup fs p) = false) {tree : Tree RawLabel}
    {records : List Record}
    (hparse : (parseFile fs setup.parser .worker setup.options.settings p.text).1 = .ok tree)
    (hrecords : flattenRaw tree = .ok records) :
    (workOut setup fs p).1 = .ok (entryOf setup.serialize
      (admitted setup.options (shownPath setup fs p) records)).1 := by
  rw [workOut_of_unbroken hbreak, hparse, outcomeOf_of_records _ _ hrecords]
  rfl

/-- A file with records that gets a failure line is rejected for the number of its
nodes, or because the records have no document. -/
theorem rejectedFor_of_records {setup : Setup}
    (hbreak : hasLineBreak (shownPath setup fs p) = false) {tree : Tree RawLabel}
    {records : List Record} {shown path reason : String}
    (hparse : (parseFile fs setup.parser .worker setup.options.settings p.text).1 = .ok tree)
    (hrecords : flattenRaw tree = .ok records)
    (hentry : (entryOf setup.serialize (admitted setup.options shown records)).1
      = .failure path reason) : RejectedFor setup fs p reason := by
  have hlength := length_of_flattenRaw hrecords
  rcases admitted_cases setup.options shown records with
    ⟨hleast, hgreatest, heq⟩ | ⟨hfew, heq⟩ | ⟨hleast, hmany, heq⟩
  · rw [heq] at hentry
    cases hserialize : setup.serialize records with
    | ok document =>
      simp only [entryOf, hserialize] at hentry
      cases hentry
    | error e =>
      simp only [entryOf, hserialize, rejectedEntry] at hentry
      obtain ⟨-, rfl⟩ := Entry.failure.inj hentry
      exact .noDocument hbreak hparse hrecords (hlength ▸ hleast) (hlength ▸ hgreatest) hserialize
  · rw [heq] at hentry
    obtain ⟨-, rfl⟩ := Entry.failure.inj hentry
    exact .tooFewNodes hbreak hparse hrecords (hlength ▸ hfew)
  · rw [heq] at hentry
    obtain ⟨-, rfl⟩ := Entry.failure.inj hentry
    exact .tooManyNodes hbreak hparse hrecords (hlength ▸ hleast) (hlength ▸ hmany)

/-- A rejected file gets a failure line with the reason. -/
theorem RejectedFor.workOut_eq {setup : Setup} {reason : String}
    (h : RejectedFor setup fs p reason) :
    (workOut setup fs p).1 = .ok (.failure (failedPath setup fs p) reason) := by
  cases h with
  | brokenPath hbreak => exact workOut_of_broken hbreak
  | parseFailed hbreak hparse =>
    rw [workOut_of_unbroken hbreak, hparse, outcomeOf_of_failure, failedPath_of_unbroken hbreak]
    rfl
  | @tooFewNodes tree records hbreak hparse hrecords hfew =>
    rw [workOut_of_records hbreak hparse hrecords, failedPath_of_unbroken hbreak]
    rw [← length_of_flattenRaw hrecords] at hfew
    rcases admitted_cases setup.options (shownPath setup fs p) records with
      ⟨hleast, -⟩ | ⟨-, heq⟩ | ⟨hleast, -⟩
    · omega
    · rw [heq]
      rfl
    · omega
  | @tooManyNodes tree records hbreak hparse hrecords hleast hmany =>
    rw [workOut_of_records hbreak hparse hrecords, failedPath_of_unbroken hbreak]
    rw [← length_of_flattenRaw hrecords] at hleast hmany
    rcases admitted_cases setup.options (shownPath setup fs p) records with
      ⟨-, hgreatest, -⟩ | ⟨hfew, -⟩ | ⟨-, -, heq⟩
    · omega
    · omega
    · rw [heq]
      rfl
  | @noDocument tree records e hbreak hparse hrecords hleast hgreatest hdocument =>
    rw [workOut_of_records hbreak hparse hrecords, failedPath_of_unbroken hbreak]
    rw [← length_of_flattenRaw hrecords] at hleast hgreatest
    rcases admitted_cases setup.options (shownPath setup fs p) records with
      ⟨-, -, heq⟩ | ⟨hfew, -⟩ | ⟨-, hmany, -⟩
    · rw [heq]
      simp only [entryOf, hdocument, rejectedEntry]
    · omega
    · omega

/-- A failure line is written for a file exactly if it is rejected, with the reason of
the rejection. -/
theorem rejectedFor_iff {setup : Setup} {reason : String} :
    RejectedFor setup fs p reason ↔
      ∃ path, (workOut setup fs p).1 = .ok (.failure path reason) := by
  refine ⟨fun h => ⟨_, h.workOut_eq⟩, fun ⟨path, h⟩ => ?_⟩
  rw [workOut_fst] at h
  generalize houtcome : (processFile fs setup.parser .worker setup.options setup.root p).1
    = result at h
  cases result with
  | error stop => cases h
  | ok outcome =>
    have hentry : (entryOf setup.serialize outcome).1 = .failure path reason := Except.ok.inj h
    rcases processFile_cases houtcome with
      ⟨hbreak, rfl⟩ | ⟨hbreak, ⟨f, hparse, rfl⟩ | ⟨tree, records, hparse, hrecords, rfl⟩⟩
    · obtain ⟨-, rfl⟩ := Entry.failure.inj hentry
      exact .brokenPath hbreak
    · obtain ⟨-, rfl⟩ := Entry.failure.inj hentry
      exact .parseFailed hbreak hparse
    · exact rejectedFor_of_records hbreak hparse hrecords hentry

/-! ## What is written in any case -/

/-- What a worker may write for a file, whatever the parser does: a pair of
lines if its path is on one line and its records have a document, or a failure
line. -/
inductive Writes (setup : Setup) (fs : FileSystem) (p : Path) : Entry → Prop
  | pair {records document} (hbreak : hasLineBreak (shownPath setup fs p) = false)
      (hdocument : setup.serialize records = .ok document) :
      Writes setup fs p (.pair (shownPath setup fs p) document)
  | failure (reason) : Writes setup fs p (.failure (failedPath setup fs p) reason)

theorem outcomeOf_eq_ok {options : BatchOptions} {path : String}
    {parsed : Except ParseStop (Tree RawLabel)} {outcome : Outcome}
    (h : outcomeOf options path parsed = .ok outcome) :
    (∃ records, outcome = .accepted path records) ∨
      ∃ kind reason, outcome = .rejected ⟨path, kind, reason⟩ := by
  unfold outcomeOf at h
  split at h
  · cases h
    exact .inr ⟨_, _, rfl⟩
  · cases h
  · cases h
  · cases h
  · split at h
    · rename_i records hrecords
      cases h
      rcases admitted_eq options path records with ⟨-, -, heq⟩ | ⟨-, kind, reason, heq⟩
      · exact .inl ⟨records, heq⟩
      · exact .inr ⟨kind, reason, heq⟩
    · cases h

theorem entryOf_writes (setup : Setup) (hbreak : hasLineBreak (shownPath setup fs p) = false)
    {parsed : Except ParseStop (Tree RawLabel)} {outcome : Outcome}
    (h : outcomeOf setup.options (shownPath setup fs p) parsed = .ok outcome) :
    Writes setup fs p (entryOf setup.serialize outcome).1 := by
  rcases outcomeOf_eq_ok h with ⟨records, rfl⟩ | ⟨kind, reason, rfl⟩
  · cases hserialize : setup.serialize records with
    | ok document =>
      simp only [entryOf, hserialize]
      exact .pair hbreak hserialize
    | error e =>
      simp only [entryOf, hserialize, rejectedEntry]
      rw [← failedPath_of_unbroken hbreak]
      exact .failure _
  · simp only [entryOf, rejectedEntry]
    rw [← failedPath_of_unbroken hbreak]
    exact .failure _

/-- A worker writes nothing else. -/
theorem workOut_writes {setup : Setup} {e : Entry} (h : (workOut setup fs p).1 = .ok e) :
    Writes setup fs p e := by
  cases hbreak : hasLineBreak (shownPath setup fs p) with
  | true =>
    obtain rfl := Except.ok.inj ((workOut_of_broken hbreak).symm.trans h)
    exact .failure _
  | false =>
    rw [workOut_of_unbroken hbreak] at h
    generalize houtcome : outcomeOf setup.options (shownPath setup fs p) _ = outcome at h
    cases outcome with
    | error stop => cases h
    | ok outcome =>
      obtain rfl := Except.ok.inj h
      exact entryOf_writes setup hbreak houtcome

/-- What may be written depends on the working directory alone. -/
theorem Writes.congr {setup : Setup} {after : FileSystem} {e : Entry} (h : Writes setup after p e)
    (hsame : after.workingDirectory = fs.workingDirectory) : Writes setup fs p e := by
  have hshown := shownPath_congr (p := p) hsame setup
  cases h with
  | pair hbreak hdocument =>
    rw [hshown] at hbreak ⊢
    exact .pair hbreak hdocument
  | failure reason =>
    rw [failedPath, hshown]
    exact .failure reason

/-! ## Other files -/

/-- What is written for a file does not depend on the files that were written
meanwhile, if it is none of them. -/
theorem workOut_congr (setup : Setup) {ls : List Location} {after : FileSystem}
    (hframe : Frame ls fs after) (hproper : p.IsProper) {l : Location} {n : Node}
    (hstatus : fs.status p.text = .ok (l, n)) (hl : l ∉ ls) :
    workOut setup after p = workOut setup fs p := by
  have hshown : relativePath after p setup.root = relativePath fs p setup.root :=
    shownPath_congr hframe.workingDirectory setup
  have hsource : fileSource after p.text = fileSource fs p.text := by
    rw [fileSource, fileSource, Path.ofText_text hproper, hframe.read_eq hstatus hl]
  simp only [workOut, processFile, hshown, parseFile, hsource]

end

end Batch
end SyntaxCorpus
