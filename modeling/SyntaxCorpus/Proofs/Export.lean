/-
SyntaxCorpus.Proofs.Export — what the export of a file does.

An export has three ends before anything is written: the file has no tree, its
tree has no records, or they have no document. After these there is a document,
and it is written whole.

* `Surroundings.Unchanged` — neither the files nor the output have changed.
* `Exports` — what the export of a file with a document does.
* `parseFile_fst_congr` — the tree of a file depends on the content of the file
  alone, and not on the thread that asks for it.
* `exportFile_of_stop`, `exportFile_of_problems`, `exportFile_of_serialization`,
  `exportFile_of_document` — the ends of an export.
* `exports_of_tree`, `exports_iff` — a file is exported exactly if it has a tree whose
  records have a document.
-/
import SyntaxCorpus.Export
import SyntaxCorpus.Proofs.FileSystem.Frame

namespace SyntaxCorpus

/-- Neither the files nor what has gone to the standard output are different. -/
structure Surroundings.Unchanged (before after : Surroundings) : Prop where
  files : after.files = before.files
  output : after.output = before.output

/-- The surroundings when a file has been parsed. -/
def Surroundings.parsed (s : Surroundings) (parser : SourceParser) (settings : ParseSettings)
    (path : String) : Surroundings :=
  { s with events := s.events ++ (parseFile s.files parser .main settings path).2 }

theorem Surroundings.unchanged_parsed (s : Surroundings) (parser : SourceParser)
    (settings : ParseSettings) (path : String) : s.Unchanged (s.parsed parser settings path) :=
  ⟨rfl, rfl⟩

theorem Surroundings.Unchanged.trans {s t u : Surroundings} (hst : s.Unchanged t)
    (htu : t.Unchanged u) : s.Unchanged u :=
  ⟨htu.files.trans hst.files, htu.output.trans hst.output⟩

/-- What the export of a file does whose records are `records` and whose document
is `document`: it prints the document, or it writes it to the file that it is
given; a file that cannot be written is an error, and nothing has changed then. -/
structure Exports (before : Surroundings) (parser : SourceParser) (serialize : Serializer)
    (settings : ParseSettings) (path : String) (records : List Record) (document : String) :
    Prop where
  printed : ∃ after,
    exportFile before parser serialize settings path none = (.ok records, after) ∧
      after.files = before.files ∧ after.output = before.output ++ (document ++ "\n")
  saved : ∀ target files,
    before.files.write (Path.ofText target).text (document ++ "\n").toUTF8 = .ok files →
      ∃ after, exportFile before parser serialize settings path (some target)
          = (.ok records, after) ∧
        after.files = files ∧ after.output = before.output ∧
        files.read (Path.ofText target).text = .ok (document ++ "\n").toUTF8
  refused : ∀ target e,
    before.files.write (Path.ofText target).text (document ++ "\n").toUTF8 = .error e →
      ∃ after, exportFile before parser serialize settings path (some target)
          = (.error (.unwritable (Path.ofText target).text e), after) ∧
        before.Unchanged after

/-! ## Parsing -/

section

variable {fs fs' : FileSystem} {path : String}

theorem parseSource_fst_congr (parser : SourceParser) (origin origin' : Origin)
    (call : ParseCall) :
    (parseSource parser origin call).1 = (parseSource parser origin' call).1 := by
  unfold parseSource
  cases parser.parse call <;> rfl

/-- Files with the same content have the same tree, in any thread. -/
theorem parseFile_fst_congr (hsource : fileSource fs path = fileSource fs' path)
    (parser : SourceParser) (origin origin' : Origin) (settings : ParseSettings) :
    (parseFile fs parser origin settings path).1
      = (parseFile fs' parser origin' settings path).1 := by
  unfold parseFile
  rw [hsource]
  cases fileLanguage path settings.language with
  | error e => rfl
  | ok language =>
    cases fileSource fs' path with
    | error e => rfl
    | ok source => exact parseSource_fst_congr parser origin origin' _

end

/-! ## What steps do -/

namespace Exporting

variable {α β : Type}

theorem runIn_bind (m : Exporting α) (f : α → Exporting β) (s : Surroundings) :
    (m >>= f).runIn s =
      match m.runIn s with
      | (.ok a, s') => (f a).runIn s'
      | (.error e, s') => (.error e, s') := by
  unfold runIn
  rw [ExceptT.run_bind, StateT.run_bind]
  generalize StateT.run (ExceptT.run m) s = ended
  obtain ⟨_ | a, s'⟩ := ended <;> rfl

theorem mapError_ok {ε ε' : Type} (f : ε → ε') (a : α) :
    (Except.ok a).mapError f = .ok a := rfl

theorem mapError_error {ε ε' : Type} (f : ε → ε') (e : ε) :
    (Except.error e : Except ε α).mapError f = .error (f e) := rfl

theorem runIn_pure (a : α) (s : Surroundings) : (pure a : Exporting α).runIn s = (.ok a, s) := rfl

theorem runIn_ofExcept (x : Except ExportError α) (s : Surroundings) :
    (ofExcept x : Exporting α).runIn s = (x, s) := by
  cases x <;> rfl

theorem runIn_get (s : Surroundings) : (get : Exporting Surroundings).runIn s = (.ok s, s) := rfl

theorem runIn_tree (parser : SourceParser) (settings : ParseSettings) (path : String)
    (s : Surroundings) :
    (tree parser settings path).runIn s
      = ((parseFile s.files parser .main settings path).1.mapError .parse,
          s.parsed parser settings path) := by
  rw [tree, runIn_bind, runIn_get]
  exact runIn_ofExcept _ (s.parsed parser settings path)

theorem runIn_openFile (target : String) (s : Surroundings) :
    (openFile target).runIn s =
      match s.files.openForWriting target with
      | .ok (l, files) => (.ok l, { s with files })
      | .error e => (.error (.unwritable target e), s) := by
  rw [openFile, runIn_bind, runIn_get]
  dsimp only
  cases s.files.openForWriting target with
  | error e => rfl
  | ok opened => rfl

theorem runIn_put_none (text : String) (s : Surroundings) :
    (put none text).runIn s = (.ok (), { s with output := s.output ++ text }) := rfl

theorem runIn_put_some (target text : String) (s : Surroundings) :
    (put (some target) text).runIn s =
      match s.files.write (Path.ofText target).text text.toUTF8 with
      | .ok files => (.ok (), { s with files })
      | .error e => (.error (.unwritable (Path.ofText target).text e), s) := by
  rw [put, runIn_bind, runIn_openFile, FileSystem.write]
  cases s.files.openForWriting (Path.ofText target).text with
  | error e => rfl
  | ok opened => rfl

end Exporting

/-! ## The ends of an export -/

section

open Exporting

variable {before : Surroundings} {parser : SourceParser} {serialize : Serializer}
  {settings : ParseSettings} {path : String} {tree : Tree RawLabel} {records : List Record}
  {document : String}

/-- A file without a tree is not exported. -/
theorem exportFile_of_stop {stop : ParseStop}
    (hparse : (parseFile before.files parser .main settings path).1 = .error stop)
    (serialize : Serializer) (output : Option String) :
    exportFile before parser serialize settings path output
      = (.error (.parse stop), before.parsed parser settings path) := by
  simp only [exportFile, steps, runIn_bind, runIn_tree, hparse, mapError_error]

/-- A tree without records is not exported. -/
theorem exportFile_of_problems {ps : List Validation.Problem}
    (hparse : (parseFile before.files parser .main settings path).1 = .ok tree)
    (hrecords : flattenRaw tree = .error ps) (serialize : Serializer) (output : Option String) :
    exportFile before parser serialize settings path output
      = (.error (.invalidTree ps), before.parsed parser settings path) := by
  simp only [exportFile, steps, runIn_bind, runIn_tree, runIn_ofExcept, hparse, hrecords,
    mapError_ok, mapError_error]

/-- Records without a document are not exported. -/
theorem exportFile_of_serialization {e : SerializationError}
    (hparse : (parseFile before.files parser .main settings path).1 = .ok tree)
    (hrecords : flattenRaw tree = .ok records) (hdocument : serialize records = .error e)
    (output : Option String) :
    exportFile before parser serialize settings path output
      = (.error (.serialization e), before.parsed parser settings path) := by
  simp only [exportFile, steps, runIn_bind, runIn_tree, runIn_ofExcept, hparse, hrecords,
    hdocument, mapError_ok, mapError_error]

/-- A document is put where it is asked for. -/
theorem exportFile_of_document
    (hparse : (parseFile before.files parser .main settings path).1 = .ok tree)
    (hrecords : flattenRaw tree = .ok records) (hdocument : serialize records = .ok document)
    (output : Option String) :
    exportFile before parser serialize settings path output
      = (put output (document ++ "\n") >>= fun _ => pure records).runIn
          (before.parsed parser settings path) := by
  simp only [exportFile, steps, runIn_bind, runIn_tree, runIn_ofExcept, hparse, hrecords,
    hdocument, mapError_ok]

/-- A file with a document is exported. -/
theorem exports_of_tree (hparse : (parseFile before.files parser .main settings path).1 = .ok tree)
    (hrecords : flattenRaw tree = .ok records) (hdocument : serialize records = .ok document) :
    Exports before parser serialize settings path records document := by
  have hresult := exportFile_of_document hparse hrecords hdocument
  have hfiles : (before.parsed parser settings path).files = before.files := rfl
  refine ⟨⟨{ before.parsed parser settings path with
      output := before.output ++ (document ++ "\n") }, ?_, rfl, rfl⟩,
    fun target files hwrite => ⟨{ before.parsed parser settings path with files }, ?_, rfl, rfl,
      FileSystem.read_write hwrite⟩,
    fun target e hwrite => ⟨_, ?_, before.unchanged_parsed parser settings path⟩⟩
  · rw [hresult, runIn_bind, runIn_put_none]
    rfl
  · rw [hresult, runIn_bind, runIn_put_some, hfiles, hwrite]
    exact runIn_pure _ _
  · rw [hresult, runIn_bind, runIn_put_some, hfiles, hwrite]

/-- Only a file with a document is exported. -/
theorem exports_iff : Exports before parser serialize settings path records document ↔
    ∃ tree, (parseFile before.files parser .main settings path).1 = .ok tree ∧
      flattenRaw tree = .ok records ∧ serialize records = .ok document := by
  constructor
  · intro h
    obtain ⟨after, hprinted, -, houtput⟩ := h.printed
    cases hparse : (parseFile before.files parser .main settings path).1 with
    | error stop => cases (exportFile_of_stop hparse serialize none).symm.trans hprinted
    | ok tree =>
      cases hrecords : flattenRaw tree with
      | error ps => cases (exportFile_of_problems hparse hrecords serialize none).symm.trans hprinted
      | ok others =>
        cases hdocument : serialize others with
        | error e =>
          cases (exportFile_of_serialization hparse hrecords hdocument none).symm.trans hprinted
        | ok text =>
          obtain ⟨after', hprinted', -, houtput'⟩ :=
            (exports_of_tree hparse hrecords hdocument).printed
          obtain ⟨hothers, rfl⟩ := Prod.mk.inj (hprinted'.symm.trans hprinted)
          obtain rfl := Except.ok.inj hothers
          have htext : text = document :=
            (String.append_left_inj "\n").mp
              ((String.append_right_inj before.output).mp (houtput'.symm.trans houtput))
          exact ⟨tree, rfl, hrecords, htext ▸ hdocument⟩
  · rintro ⟨tree, hparse, hrecords, hdocument⟩
    exact exports_of_tree hparse hrecords hdocument

end
end SyntaxCorpus
