/-
SyntaxCorpus.Proofs.Batch.Isolation — what the files of a batch have to do with
each other.

A file that cannot be parsed, or whose records have no document, has a failure
line, and the batch goes on. What is written for a file is worked out from that
file alone, so it is the same in every batch that the file is in. Two things are
different, and end the whole batch: a tree with a label that is none, as the labels
are checked where nothing catches the problems, and a crash of the parser that has
no text.

* `Isolated` — a batch returns unless the parser gives such a tree or crashes so, and
  then every file has one entry, with a document or a reason of its own.
* `runBatch_isolated` — the documents and reasons are the same in every batch.
-/
import SyntaxCorpus.Proofs.Batch.Outputs

namespace SyntaxCorpus.Batch

/-! ## Files that end a batch -/

theorem EndsBatch.workOut_eq {setup : Setup} {fs : FileSystem} {p : Path} {stop : FileStop}
    (hproper : p.IsProper) (h : EndsBatch setup fs p stop) :
    (workOut setup fs p).1 = .error stop := by
  cases h with
  | invalidTree hinvalid =>
    obtain ⟨hbreak, tree, hparse, -, hproblems⟩ := hinvalid
    rw [workOut_of_unbroken hbreak, hparse, outcomeOf_of_problems setup.options _ hproblems]
    rfl
  | escaped hbreak hcrashes =>
    obtain ⟨source, language, kind, hsource, hlanguage, hparse⟩ := hcrashes
    have hread : fileSource fs p.text = .ok source := by
      rw [fileSource, Path.ofText_text hproper, hsource]
      rfl
    rw [workOut_of_unbroken hbreak, parseFile, BatchOptions.settings, hlanguage]
    simp only [hread, parseSource, hparse]
    rfl

/-- What a batch leaves whose files have nothing to do with each other: every
file has one entry, with its own document or its own reason, unless one of them ends
the batch. -/
structure Isolated (files : FileSystem) (setup : Setup) (outputs : String) (found : List Path)
    (sinks : Sinks) (report : Report) (document reason : Path → String) : Prop where
  /-- A file is matched once. -/
  once : found.Nodup
  returns : (∃ t, report.result = .ok t) ↔ ∀ p ∈ found, ∀ stop, ¬ EndsBatch setup files p stop
  stops : ∀ e, report.result = .error e →
    ∃ p ∈ found, ∃ stop, EndsBatch setup files p stop ∧ e = .stopped stop
  entries : sinks.locations.Nodup → (∃ t, report.result = .ok t) →
    ∃ accepted rejected, Correlated files setup outputs found report accepted rejected document
      reason

section

variable {files opened : FileSystem} {parser : SourceParser} {serialize : Serializer}
  {options : BatchOptions} {input outputs : String} {found : List Path} {sinks : Sinks}

theorem Placed.workOut_cases {setup : Setup}
    (h : Placed files setup input outputs found sinks opened) {p : Path} (hp : p ∈ found)
    (hquiet : ParsesQuietly setup files p) :
    (∃ e, (workOut setup files p).1 = .ok e ∧ IsEntryOf setup files p e) ∨
      ∃ stop, EndsBatch setup files p stop ∧ (workOut setup files p).1 = .error stop := by
  obtain ⟨hproper, l, content, hstatus⟩ := h.isFile hp
  exact Batch.workOut_cases setup hproper hstatus hquiet

/-- A batch returns and all its files have entries, or it is ended by one of them. -/
theorem Placed.result_cases
    (h : Placed files (setupOf files parser serialize options) input outputs found sinks opened)
    (hquiet : ∀ p ∈ found, ParsesQuietly (setupOf files parser serialize options) files p)
    (schedule : List Move) :
    (HasEntries files (setupOf files parser serialize options) found ∧
        ∃ t, (runBatch files parser serialize options schedule input outputs).result = .ok t) ∨
      ∃ p ∈ found, ∃ stop, EndsBatch (setupOf files parser serialize options) files p stop ∧
        (runBatch files parser serialize options schedule input outputs).result
          = .error (.stopped stop) := by
  by_cases hne : found = []
  · subst hne
    exact .inl ⟨fun p hp => absurd hp List.not_mem_nil,
      _, (runBatch_of_nil h.isFound h.isOpened schedule).1⟩
  · obtain ⟨hsound, r, hr⟩ := h.sound_endState hne schedule
    rw [(runBatch_of_ne_nil h.isFound h.isOpened hne schedule).1, State.outcome, hr]
    cases r with
    | ok _ =>
      refine .inl ⟨fun p hp => (h.workOut_cases hp (hquiet p hp)).resolve_right ?_, _, rfl⟩
      rintro ⟨stop, -, hstop⟩
      obtain ⟨e, he⟩ := hsound.exists_entry (hsound.finished_of_ok hr) p
        (List.mem_mergeSort.mpr hp)
      rw [he] at hstop
      cases hstop
    | error stop =>
      obtain ⟨p, hp, hstop⟩ := hsound.exists_stop hr
      rw [List.mem_mergeSort] at hp
      rcases h.workOut_cases hp (hquiet p hp) with ⟨e, he, -⟩ | ⟨stop', hends, hstop'⟩
      · rw [he] at hstop
        cases hstop
      · rw [hstop'] at hstop
        obtain rfl : stop' = stop := Except.error.inj hstop
        exact .inr ⟨p, hp, stop', hends, rfl⟩

/-- A batch returns exactly if none of its files ends it. -/
theorem Placed.returns_iff
    (h : Placed files (setupOf files parser serialize options) input outputs found sinks opened)
    (hquiet : ∀ p ∈ found, ParsesQuietly (setupOf files parser serialize options) files p)
    (schedule : List Move) :
    (∃ t, (runBatch files parser serialize options schedule input outputs).result = .ok t) ↔
      ∀ p ∈ found, ∀ stop, ¬ EndsBatch (setupOf files parser serialize options) files p stop := by
  rcases h.result_cases hquiet schedule with ⟨hentries, hok⟩ | ⟨p, hp, stop, hends, herror⟩
  · refine ⟨fun _ p hp stop hends => ?_, fun _ => hok⟩
    obtain ⟨e, he, -⟩ := hentries p hp
    obtain ⟨hproper, -⟩ := h.isFile hp
    rw [hends.workOut_eq hproper] at he
    cases he
  · refine ⟨fun ⟨t, ht⟩ => ?_, fun hnone => absurd hends (hnone p hp stop)⟩
    rw [herror] at ht
    cases ht

/-- **The files of a batch are isolated.** For each file there is a document and
a reason such that any batch of any files, as long as it returns, writes nothing
else for the file. -/
theorem runBatch_isolated (files : FileSystem) (parser : SourceParser) (serialize : Serializer)
    (options : BatchOptions) :
    ∃ document reason : Path → String, ∀ {input outputs found sinks opened},
      Placed files (setupOf files parser serialize options) input outputs found sinks opened →
      (∀ p ∈ found, ParsesQuietly (setupOf files parser serialize options) files p) →
      ∀ schedule, Isolated files (setupOf files parser serialize options) outputs found sinks
        (runBatch files parser serialize options schedule input outputs) document reason := by
  refine ⟨documentOf (setupOf files parser serialize options) files,
    reasonOf (setupOf files parser serialize options) files, ?_⟩
  intro input outputs found sinks opened h hquiet schedule
  refine ⟨findFiles_nodup h.isFound, h.returns_iff hquiet schedule, fun e he => ?_,
    fun hdistinct ⟨t, ht⟩ => ?_⟩
  · rcases h.result_cases hquiet schedule with ⟨-, t, hok⟩ | ⟨p, hp, stop, hends, herror⟩
    · rw [hok] at he
      cases he
    · rw [herror] at he
      exact ⟨p, hp, stop, hends, (Except.error.inj he).symm⟩
  · rcases h.result_cases hquiet schedule with ⟨hentries, -⟩ | ⟨p, hp, stop, -, herror⟩
    · obtain ⟨order, hleaves⟩ := h.exists_leaves schedule hentries hdistinct
      exact ⟨_, _, hleaves.correlated_of_entries h hentries (h.frame_runBatch schedule)⟩
    · rw [herror] at ht
      cases ht

end

/-! ## Two files -/

/-- A directory with two source files, one of them empty. -/
def mixedFiles : FileSystem where
  entries := [(["work"], .directory), (["work", "a.py"], .file "tree".toUTF8),
    (["work", "b.py"], .file .empty)]
  workingDirectory := ["work"]

/-- A parser that finds a tree of one node in an empty source, and something else
in all others. -/
def mixedParser (other : ParserOutcome) : SourceParser :=
  ⟨fun call => if call.source.isEmpty then .tree (.node ⟨.text "root", .null⟩ []) else other⟩

theorem status_mixed {name : String} {content : ByteArray}
    (hname : FileSystem.IsName .reach name)
    (hnode : mixedFiles.node? (["work"] ++ [name]) = some (.file content)) :
    mixedFiles.status name = .ok (["work", name], .file content) :=
  FileSystem.status_file hname rfl hnode

/-- A pattern without directories stands for the names that fit it. -/
theorem expand_of_listing {fs : FileSystem} {here : Location} {found : List String}
    (hstatus : fs.status "." = .ok (here, .directory)) (hlisted : fs.unlisted = [])
    (hlisting : ((fs.listing here).map (·.1)).filter (Pattern.matchesName "*.py") = found)
    {depth : Nat} (hdepth : fs.searchDepth = depth + 1) :
    Pattern.expand fs "*.py" = .ok found := by
  have hempty : "".isEmpty = true := by decide
  have hnames : Pattern.namesIn fs false "" = .ok ((fs.listing here).map (·.1)) := by
    rw [Pattern.namesIn, hempty, if_pos rfl, hstatus]
    simp [hlisted]
  have hpart : Pattern.expandPart fs depth false "" "*.py" = .ok found := by
    rw [Pattern.expandPart, if_neg (by decide), if_pos (by decide), hnames, ← hlisting]
    rfl
  rw [Pattern.expand, hdepth, Pattern.expandReversed]
  exact hpart

/-- The two source files of a directory are found. -/
theorem findFiles_pair {fs : FileSystem} {here : Location} {content content' : ByteArray}
    (hstatus : fs.status "." = .ok (here, .directory)) (hlisted : fs.unlisted = [])
    (hlisting : ((fs.listing here).map (·.1)).filter (Pattern.matchesName "*.py")
      = ["a.py", "b.py"])
    {depth : Nat} (hdepth : fs.searchDepth = depth + 1)
    (hsa : fs.status "a.py" = .ok (["work", "a.py"], .file content))
    (hsb : fs.status "b.py" = .ok (["work", "b.py"], .file content')) :
    findFiles fs "*.py" = .ok [Path.ofText "a.py", Path.ofText "b.py"] := by
  have ha : (Path.ofText "a.py").text = "a.py" := by decide
  have hb : (Path.ofText "b.py").text = "b.py" := by decide
  rw [findFiles, if_neg (by decide), candidates, if_pos (by decide),
    expand_of_listing hstatus hlisted hlisting hdepth]
  simp [selectFiles, fileLocation?, FileSystem.isFile, ha, hb, hsa, hsb, Except.bind, Except.map,
    Except.mapError, Except.toOption]

theorem findFiles_mixed :
    findFiles mixedFiles "*.py" = .ok [Path.ofText "a.py", Path.ofText "b.py"] :=
  findFiles_pair (FileSystem.status_dot rfl) rfl (by decide +kernel) rfl
    (status_mixed (by decide) rfl) (status_mixed (by decide) rfl)

theorem open_mixed : ∃ opened, Sinks.open_ mixedFiles (.of "out")
    = (.ok ⟨{ location := ["work", "out.json"] }, { location := ["work", "out.txt"] },
        { location := ["work", "out_failed.txt"] }⟩, opened) :=
  open_free rfl rfl rfl rfl rfl

theorem placed_mixed (parser : SourceParser) : ∃ sinks opened,
    Placed mixedFiles (setupOf mixedFiles parser writeDocument anySize) "*.py" "out"
      [Path.ofText "a.py", Path.ofText "b.py"] sinks opened ∧ sinks.locations.Nodup := by
  obtain ⟨opened, hopen⟩ := open_mixed
  refine ⟨_, opened, ⟨findFiles_mixed, hopen, fun p hp l n hl => ?_,
    fun records document hdocument => (Except.ok.inj hdocument).symm⟩, by decide⟩
  have ha : (Path.ofText "a.py").text = "a.py" := by decide
  have hb : (Path.ofText "b.py").text = "b.py" := by decide
  rcases List.mem_pair.mp hp with rfl | rfl
  · rw [ha, status_mixed (by decide) rfl] at hl
    cases hl
    decide
  · rw [hb, status_mixed (by decide) rfl] at hl
    cases hl
    decide

theorem parsesQuietly_mixed (other : ParserOutcome) (hother : ∀ text, other ≠ .interrupt text)
    (p : Path) : ParsesQuietly (setupOf mixedFiles (mixedParser other) writeDocument anySize)
      mixedFiles p := by
  intro source language _ _ text
  show (if source.isEmpty then _ else other) ≠ .interrupt text
  split
  · simp
  · exact hother text

theorem runBatch_isolated_mixed : ∃ document reason sinks opened,
    Placed mixedFiles (setupOf mixedFiles (mixedParser (.failure "no tree")) writeDocument anySize)
      "*.py" "out" [Path.ofText "a.py", Path.ofText "b.py"] sinks opened ∧
    (∀ p ∈ [Path.ofText "a.py", Path.ofText "b.py"], ParsesQuietly
      (setupOf mixedFiles (mixedParser (.failure "no tree")) writeDocument anySize) mixedFiles p) ∧
    Isolated mixedFiles
      (setupOf mixedFiles (mixedParser (.failure "no tree")) writeDocument anySize) "out"
      [Path.ofText "a.py", Path.ofText "b.py"] sinks
      (runBatch mixedFiles (mixedParser (.failure "no tree")) writeDocument anySize
        [.submit, .start, .advance 0] "*.py" "out") document reason := by
  obtain ⟨document, reason, hisolated⟩ :=
    runBatch_isolated mixedFiles (mixedParser (.failure "no tree")) writeDocument anySize
  obtain ⟨sinks, opened, hplaced, -⟩ := placed_mixed (mixedParser (.failure "no tree"))
  have hquiet := fun p (_ : p ∈ [Path.ofText "a.py", Path.ofText "b.py"]) =>
    parsesQuietly_mixed (.failure "no tree") (by simp) p
  exact ⟨document, reason, sinks, opened, hplaced, hquiet, hisolated hplaced hquiet _⟩

/-- A tree whose root has a number for its type. -/
def numberedTree : Tree RawLabel := .node ⟨.int 5, .null⟩ []

theorem flattenRaw_numberedTree : ∃ ps, flattenRaw numberedTree = .error ps := by
  rw [flattenRaw, Tree.outline_eq]
  exact ⟨_, rfl⟩

theorem hasInvalidTree_mixed : ∃ ps, HasInvalidTree
    (setupOf mixedFiles (mixedParser (.tree numberedTree)) writeDocument anySize) mixedFiles
    (Path.ofText "a.py") ps := by
  obtain ⟨ps, hinvalid⟩ := flattenRaw_numberedTree
  have hparse := parseFile_source (mixedParser (.tree numberedTree))
    (status_mixed (by decide) rfl)
  exact ⟨ps, by decide, numberedTree, congrArg Prod.fst hparse,
    flattenRaw_eq_error_iff.mp ⟨ps, hinvalid⟩, hinvalid⟩

/-- A batch does not return if a single tree has no records, whatever the other
files are. -/
theorem not_returns_mixed : ∃ sinks opened,
    Placed mixedFiles (setupOf mixedFiles (mixedParser (.tree numberedTree)) writeDocument anySize)
      "*.py" "out" [Path.ofText "a.py", Path.ofText "b.py"] sinks opened ∧
    (∀ p ∈ [Path.ofText "a.py", Path.ofText "b.py"], ParsesQuietly
      (setupOf mixedFiles (mixedParser (.tree numberedTree)) writeDocument anySize)
      mixedFiles p) ∧
    sinks.locations.Nodup ∧
    ∀ schedule t, (runBatch mixedFiles (mixedParser (.tree numberedTree)) writeDocument anySize
      schedule "*.py" "out").result ≠ .ok t := by
  obtain ⟨sinks, opened, hplaced, hdistinct⟩ := placed_mixed (mixedParser (.tree numberedTree))
  have hquiet := fun p (_ : p ∈ [Path.ofText "a.py", Path.ofText "b.py"]) =>
    parsesQuietly_mixed (.tree numberedTree) (by simp) p
  refine ⟨sinks, opened, hplaced, hquiet, hdistinct, fun schedule t ht => ?_⟩
  obtain ⟨ps, hinvalid⟩ := hasInvalidTree_mixed
  exact (hplaced.returns_iff hquiet schedule).mp ⟨t, ht⟩ _ (by simp) _ (.invalidTree hinvalid)

end SyntaxCorpus.Batch
