/-
SyntaxCorpus.Proofs.Parser.File — how the tree of a file comes out, or why there
is none.

A file is parsed in three stages: its language is settled, it is read, and the
parser is called. Each stage has errors of its own, and each of these is made a
failure of the file, but for two: a path with a null character is no path for any
operation, and the error on it is none of those that reading a file deals with; and a
crash of the parser that has no text raises another error while the failure is made.

* `ParseStage` — the stage that a file comes to, and what comes out of it;
  `parseFile_stage`.
* `parseCalls` — the calls of the parser among what is done for a file.
* `resolve_python` — the language of a file by its ending.
* `Surfaces`, `parseFile_surfaces` — what comes out for any file, path, language
  and parser.
* `not_tree_or_failed_nullCharacter` — a path whose error is no failure.
-/
import SyntaxCorpus.Parser.File
import SyntaxCorpus.Proofs.FileSystem.Walk
import SyntaxCorpus.Proofs.Path.Basic

namespace SyntaxCorpus

/-! ## Stages -/

/-- The stage that a file comes to, with what comes out of it and what is done
for it. -/
inductive ParseStage (fs : FileSystem) (parser : SourceParser) (origin : Origin)
    (settings : ParseSettings) (path : String) :
    Except ParseStop (Tree RawLabel) × List Event → Prop
  | language {e}
      (hlanguage : Language.resolve settings.language (some (Path.ofText path)) = .error e) :
      ParseStage fs parser origin settings path (.error (.failed (.language e)), [])
  | read {language cause}
      (hlanguage : Language.resolve settings.language (some (Path.ofText path)) = .ok language)
      (hread : fs.read (Path.ofText path).text = .error cause) :
      ParseStage fs parser origin settings path (.error (readFailure path cause), [])
  | call {language source}
      (hlanguage : Language.resolve settings.language (some (Path.ofText path)) = .ok language)
      (hread : fs.read (Path.ofText path).text = .ok source) :
      ParseStage fs parser origin settings path
        (parseSource parser origin ⟨source, language, settings.methodOnly⟩)

section

variable {fs : FileSystem} {parser : SourceParser} {origin : Origin} {settings : ParseSettings}
  {path : String}

theorem parseFile_stage (fs : FileSystem) (parser : SourceParser) (origin : Origin)
    (settings : ParseSettings) (path : String) :
    ParseStage fs parser origin settings path (parseFile fs parser origin settings path) := by
  unfold parseFile fileLanguage
  cases hlanguage : Language.resolve settings.language (some (Path.ofText path)) with
  | error e => exact .language hlanguage
  | ok language =>
    unfold fileSource
    cases hread : fs.read (Path.ofText path).text with
    | error cause => exact .read hlanguage hread
    | ok source => exact .call hlanguage hread

theorem readFailure_eq_nullCharacter_iff {cause : FileError} :
    readFailure path cause = .nullCharacter ↔ cause = .nullCharacter := by
  cases cause <;> simp [readFailure]

/-- The text of a failure to read a file. -/
theorem message_of_readFailure (path : String) {cause : FileError}
    (h : cause ≠ .nullCharacter) :
    ∃ f, readFailure path cause = .failed f ∧ f.message =
      if cause = .notFound then s!"File not found: {path}"
      else s!"Cannot read {path}: {cause.reason}" := by
  cases cause with
  | nullCharacter => exact absurd rfl h
  | notFound => exact ⟨_, rfl, rfl⟩
  | _ => exact ⟨_, rfl, rfl⟩

/-- A file is not read for its null character exactly if its path has one. -/
theorem read_ofText_eq_nullCharacter_iff (fs : FileSystem) :
    fs.read (Path.ofText path).text = .error .nullCharacter ↔ Char.ofNat 0 ∈ path.toList := by
  rw [FileSystem.read_eq_nullCharacter_iff, Path.mem_text_ofText_iff (by decide) (by decide)]

/-! ## Calls of the parser -/

/-- The calls of the parser among what is done for a file. -/
def parseCalls (events : List Event) : List ParseCall :=
  events.filterMap fun
    | .parse call => some call
    | .log _ => none

theorem parseCalls_parseSource (parser : SourceParser) (origin : Origin) (call : ParseCall) :
    parseCalls (parseSource parser origin call).2 = [call] := by
  unfold parseSource
  cases parser.parse call <;> rfl

/-- What comes out of a call of the parser. -/
theorem parseSource_fst (parser : SourceParser) (origin : Origin) (call : ParseCall) :
    (parseSource parser origin call).1 =
      match parser.parse call with
      | .tree t => .ok t
      | .failure message => .error (.failed (.reported message))
      | .crash c => .error (.failed (.crashed c))
      | .untold _ raised => .error (.escaped raised)
      | .interrupt text => .error (.interrupted text) := by
  unfold parseSource
  cases parser.parse call <;> rfl

end

/-! ## Files of one language -/

/-- The language of files with this ending. -/
theorem resolve_python {path : String} (h : (Path.ofText path).suffix = ".py") :
    Language.resolve none (some (Path.ofText path)) = .ok "python" := by
  have hname : (languages.find? (·.endings.contains (Text.lower ".py"))).map (·.name)
      = some "python" := by decide +kernel
  change Language.ofPath (Path.ofText path) = .ok "python"
  -- the ending is put in lower case once only, by the kernel
  rw [← h] at hname
  unfold Language.ofPath
  generalize languages.find? _ = found at hname
  obtain ⟨l, rfl, hl⟩ := Option.map_eq_some_iff.mp hname
  exact congrArg Except.ok hl

theorem fileLanguage_python {path : String} (h : (Path.ofText path).suffix = ".py") :
    fileLanguage path none = .ok "python" := by
  rw [fileLanguage, resolve_python h]
  rfl

/-! ## Trees and failures -/

/-- What comes out when a file is parsed. -/
structure Surfaces (fs : FileSystem) (parser : SourceParser) (origin : Origin)
    (settings : ParseSettings) (path : String)
    (result : Except ParseStop (Tree RawLabel)) (events : List Event) : Prop where
  /-- There is a tree or a failure, if the path is one that can be looked up and a crash of
  the parser has a text. -/
  ends : (∃ t, result = .ok t) ∨ (∃ f, result = .error (.failed f)) ∨
    result = .error .nullCharacter ∨ ∃ raised, result = .error (.escaped raised)
  nullCharacter : result = .error .nullCharacter ↔
    (∃ language, Language.resolve settings.language (some (Path.ofText path)) = .ok language) ∧
      Char.ofNat 0 ∈ path.toList
  /-- A tree is what the parser gives when it is called. -/
  tree : ∀ t, result = .ok t ↔ ∃ call ∈ parseCalls events, parser.parse call = .tree t
  /-- What the parser says is wrong is the message of the failure. -/
  reported : ∀ call ∈ parseCalls events, ∀ message, parser.parse call = .failure message →
    ∃ f, result = .error (.failed f) ∧ f.message = message
  crashed : ∀ call ∈ parseCalls events, ∀ c, parser.parse call = .crash c →
    ∃ f, result = .error (.failed f) ∧ f.message = s!"{c.kind}: {c.text}"
  /-- What a crash raises instead of its text comes out as it is. -/
  escaped : ∀ raised, result = .error (.escaped raised) ↔
    ∃ call ∈ parseCalls events, ∃ kind, parser.parse call = .untold kind raised
  /-- The parser is called at most once. -/
  once : (parseCalls events).length ≤ 1
  /-- It is called with the language and the content of the file, when there are
  both. -/
  called : ∀ call, call ∈ parseCalls events ↔
    Language.resolve settings.language (some (Path.ofText path)) = .ok call.language ∧
      fs.read (Path.ofText path).text = .ok call.source ∧ call.methodOnly = settings.methodOnly
  /-- A file that has a language and is not read is a failure that says why. -/
  unread : ∀ language cause,
    Language.resolve settings.language (some (Path.ofText path)) = .ok language →
      fs.read (Path.ofText path).text = .error cause → cause ≠ .nullCharacter →
        ∃ f, result = .error (.failed f) ∧ f.message =
          if cause = .notFound then s!"File not found: {path}"
          else s!"Cannot read {path}: {cause.reason}"
  /-- A language that is not known is a failure, whatever the files are. -/
  unknown : ∀ e, Language.resolve settings.language (some (Path.ofText path)) = .error e →
    ∀ others, parseFile others parser origin settings path = (.error (.failed (.language e)), [])

section

variable {fs : FileSystem} {parser : SourceParser} {origin : Origin} {settings : ParseSettings}
  {path : String} {result : Except ParseStop (Tree RawLabel)} {events : List Event}

theorem parseFile_of_language {e : LanguageError}
    (h : Language.resolve settings.language (some (Path.ofText path)) = .error e)
    (fs : FileSystem) (parser : SourceParser) (origin : Origin) :
    parseFile fs parser origin settings path = (.error (.failed (.language e)), []) := by
  unfold parseFile fileLanguage
  rw [h]
  rfl

/-- A file without a language. -/
theorem surfaces_of_language {e : LanguageError}
    (h : Language.resolve settings.language (some (Path.ofText path)) = .error e) :
    Surfaces fs parser origin settings path (.error (.failed (.language e))) [] where
  ends := .inr (.inl ⟨_, rfl⟩)
  nullCharacter := by simp [h]
  tree := by simp [parseCalls]
  reported := by simp [parseCalls]
  crashed := by simp [parseCalls]
  escaped := by simp [parseCalls]
  once := by simp [parseCalls]
  called := by simp [parseCalls, h]
  unread := by simp [h]
  unknown e' he := by
    obtain rfl := Except.error.inj (h.symm.trans he)
    exact fun others => parseFile_of_language h others parser origin

/-- A file with a language that is not read. -/
theorem surfaces_of_unread {language : String} {cause : FileError}
    (hlanguage : Language.resolve settings.language (some (Path.ofText path)) = .ok language)
    (hread : fs.read (Path.ofText path).text = .error cause) :
    Surfaces fs parser origin settings path (.error (readFailure path cause)) [] where
  ends := by
    by_cases hnull : cause = .nullCharacter
    · exact .inr (.inr (.inl (congrArg _ (readFailure_eq_nullCharacter_iff.mpr hnull))))
    · obtain ⟨f, hf, -⟩ := message_of_readFailure path hnull
      exact .inr (.inl ⟨f, congrArg _ hf⟩)
  nullCharacter := by
    rw [← read_ofText_eq_nullCharacter_iff fs, hread, Except.error.injEq,
      Except.error.injEq, readFailure_eq_nullCharacter_iff]
    simp [hlanguage]
  tree := by simp [parseCalls]
  reported := by simp [parseCalls]
  crashed := by simp [parseCalls]
  escaped raised := by
    have hraised : readFailure path cause ≠ .escaped raised := by
      cases cause <;> simp [readFailure]
    simp [parseCalls, hraised]
  once := by simp [parseCalls]
  called := by simp [parseCalls, hread]
  unread _ cause' _ hread' hnull := by
    obtain rfl := Except.error.inj (hread.symm.trans hread')
    obtain ⟨f, hf, hmessage⟩ := message_of_readFailure path hnull
    exact ⟨f, congrArg _ hf, hmessage⟩
  unknown := by simp [hlanguage]

/-- A file that the parser is called for. -/
theorem surfaces_of_call {call : ParseCall} (hparser : ∀ text, parser.parse call ≠ .interrupt text)
    (hlanguage : Language.resolve settings.language (some (Path.ofText path)) = .ok call.language)
    (hread : fs.read (Path.ofText path).text = .ok call.source)
    (hmethod : call.methodOnly = settings.methodOnly) :
    Surfaces fs parser origin settings path (parseSource parser origin call).1
      (parseSource parser origin call).2 := by
  have hcalls := parseCalls_parseSource parser origin call
  have hnull : Char.ofNat 0 ∉ path.toList := by
    rw [← read_ofText_eq_nullCharacter_iff fs, hread]
    simp
  rw [parseSource_fst]
  refine {
    ends := ?_, nullCharacter := ?_, tree := ?_, reported := ?_, crashed := ?_, escaped := ?_
    once := by rw [hcalls]; exact Nat.le_refl 1
    called := fun other => ?_
    unread := by simp [hread]
    unknown := by simp [hlanguage] }
  · cases hparse : parser.parse call with
    | tree t => exact .inl ⟨t, rfl⟩
    | failure message => exact .inr (.inl ⟨_, rfl⟩)
    | crash c => exact .inr (.inl ⟨_, rfl⟩)
    | untold kind raised => exact .inr (.inr (.inr ⟨raised, rfl⟩))
    | interrupt text => exact absurd hparse (hparser text)
  · cases parser.parse call <;> simp [hnull]
  · intro t
    rw [hcalls]
    cases hparse : parser.parse call <;> simp [hparse]
  · intro other hother message hparse
    rw [hcalls, List.mem_singleton] at hother
    rw [← hother, hparse]
    exact ⟨_, rfl, rfl⟩
  · intro other hother c hparse
    rw [hcalls, List.mem_singleton] at hother
    rw [← hother, hparse]
    exact ⟨_, rfl, rfl⟩
  · intro raised
    rw [hcalls]
    cases hparse : parser.parse call <;> simp [hparse]
  · rw [hcalls, List.mem_singleton, hlanguage, hread, Except.ok.injEq, Except.ok.injEq, ← hmethod]
    constructor
    · rintro rfl
      exact ⟨rfl, rfl, rfl⟩
    · rintro ⟨hl, hs, hm⟩
      obtain ⟨source, language, methodOnly⟩ := other
      obtain ⟨source', language', methodOnly'⟩ := call
      simp_all

/-- **Parsing a file gives the tree of the parser or a failure**, for any path
without a null character, whatever the file, its language and the parser are like,
unless the parser crashes without a text. A path with a null character whose language is
known gives neither. -/
theorem parseFile_surfaces (hparser : ∀ call text, parser.parse call ≠ .interrupt text)
    (fs : FileSystem) (origin : Origin) (settings : ParseSettings) (path : String) :
    Surfaces fs parser origin settings path (parseFile fs parser origin settings path).1
      (parseFile fs parser origin settings path).2 := by
  have hstage := parseFile_stage fs parser origin settings path
  generalize parseFile fs parser origin settings path = outcome at hstage
  cases hstage with
  | language hlanguage => exact surfaces_of_language hlanguage
  | read hlanguage hread => exact surfaces_of_unread hlanguage hread
  | call hlanguage hread => exact surfaces_of_call (hparser _) hlanguage hread rfl

/-- A parser that does not work. -/
def brokenParser : SourceParser := ⟨fun _ => .crash ⟨"RuntimeError", "no tree"⟩⟩

/-- A file system with one empty file. -/
def emptyFile : FileSystem where
  entries := [(["a.py"], .file .empty)]
  workingDirectory := []

theorem read_emptyFile : emptyFile.read (Path.ofText "a.py").text = .ok .empty := by
  have htext : (Path.ofText "a.py").text = "a.py" := by decide
  rw [htext, FileSystem.read, FileSystem.status_file (by decide) rfl rfl]
  rfl

/-- A parser that does not work is a failure of the file. -/
theorem parseFile_surfaces_broken :
    (∀ call text, brokenParser.parse call ≠ .interrupt text) ∧
      ∃ f, (parseFile emptyFile brokenParser .main {} "a.py").1 = .error (.failed f) ∧
        f.message = "RuntimeError: no tree" := by
  have hparser : ∀ call text, brokenParser.parse call ≠ .interrupt text := by
    intro call text h
    cases h
  have h := parseFile_surfaces hparser emptyFile .main {} "a.py"
  have hcall := (h.called ⟨.empty, "python", false⟩).mpr
    ⟨resolve_python (by decide), read_emptyFile, rfl⟩
  exact ⟨hparser, h.crashed _ hcall ⟨"RuntimeError", "no tree"⟩ rfl⟩

/-- A path with a null character has neither a tree nor a failure. -/
theorem not_tree_or_failed_nullCharacter :
    ¬ ((∃ t, (parseFile emptyFile brokenParser .main {} "a\x00b.py").1 = .ok t) ∨
      ∃ f, (parseFile emptyFile brokenParser .main {} "a\x00b.py").1 = .error (.failed f)) := by
  have hlanguage : fileLanguage "a\x00b.py" none = .ok "python" := fileLanguage_python (by decide)
  have hread : emptyFile.read (Path.ofText "a\x00b.py").text = .error .nullCharacter :=
    (read_ofText_eq_nullCharacter_iff _).mpr (by decide)
  have hresult : (parseFile emptyFile brokenParser .main {} "a\x00b.py").1
      = .error .nullCharacter := by
    simp only [parseFile, hlanguage, fileSource, hread]
    rfl
  simp [hresult]

end
end SyntaxCorpus
