/-
SyntaxCorpus.Proofs.Export.Atomic — an export delivers a whole document or
changes nothing.

The export of a file goes through its steps in order and ends at the first error.
Each step works on the files and the standard output as the step before left
them, and an error leaves them as they are at that moment; that nothing has been
written by then is to be proved. The steps before the output is opened only look,
opening a file changes nothing if it fails, and what comes after it does not fail.

* `Exporting.Looks`, `Exporting.Succeeds`, `Exporting.Atomic` — what a step may
  change, and how this is handed on from steps to sequences of steps.
* `exportFile_atomic` — an export that fails has changed nothing.
* `FailsToExport` — which step fails; `Delivered` — where the document goes.
* `ExportsWhole`, `exportFile_whole` — the export as a whole.
-/
import SyntaxCorpus.Proofs.Export
import SyntaxCorpus.Proofs.Record.ReadBack

namespace SyntaxCorpus

open FileSystem (Frame)
open Surroundings (Unchanged)

namespace Exporting

variable {α β : Type}

/-! ## Atomic steps -/

/-- Steps that change nothing. -/
def Looks (m : Exporting α) : Prop := ∀ s, Unchanged s (m.runIn s).2

/-- Steps that do not fail. -/
def Succeeds (m : Exporting α) : Prop := ∀ s, ∃ a, (m.runIn s).1 = .ok a

/-- Steps that change nothing unless all of them succeed. -/
def Atomic (m : Exporting α) : Prop := ∀ s e, (m.runIn s).1 = .error e → Unchanged s (m.runIn s).2

section

variable {m : Exporting α} {f : α → Exporting β}

theorem Succeeds.atomic (h : Succeeds m) : Atomic m := by
  intro s e he
  obtain ⟨a, ha⟩ := h s
  cases ha.symm.trans he

/-- What only looks comes first. -/
theorem Looks.bind_atomic (hm : Looks m) (hf : ∀ a, Atomic (f a)) : Atomic (m >>= f) := by
  intro s e
  have hs := hm s
  rw [runIn_bind]
  generalize m.runIn s = ended at hs
  obtain ⟨result, s'⟩ := ended
  cases result with
  | error e' => exact fun _ => hs
  | ok a => exact fun he => hs.trans (hf a s' e he)

/-- What does not fail comes last. -/
theorem Atomic.bind_succeeds (hm : Atomic m) (hf : ∀ a, Succeeds (f a)) : Atomic (m >>= f) := by
  intro s e he
  have hs := hm s
  rw [runIn_bind] at he ⊢
  generalize m.runIn s = ended at hs he
  obtain ⟨result, s'⟩ := ended
  cases result with
  | error e' => exact hs e' rfl
  | ok a => exact absurd he (by obtain ⟨b, hb⟩ := hf a s'; simp [hb])

end

theorem looks_tree (parser : SourceParser) (settings : ParseSettings) (path : String) :
    Looks (tree parser settings path) := by
  intro s
  rw [runIn_tree]
  exact s.unchanged_parsed parser settings path

theorem looks_ofExcept (x : Except ExportError α) : Looks (ofExcept x : Exporting α) := by
  intro s
  rw [runIn_ofExcept]
  exact ⟨rfl, rfl⟩

theorem succeeds_print (text : String) : Succeeds (print text) := fun _ => ⟨(), rfl⟩

theorem succeeds_fill (l : Location) (text : String) : Succeeds (fill l text) :=
  fun _ => ⟨(), rfl⟩

theorem atomic_openFile (target : String) : Atomic (openFile target) := by
  intro s e
  rw [runIn_openFile]
  cases s.files.openForWriting target with
  | error e' => exact fun _ => ⟨rfl, rfl⟩
  | ok opened => exact fun he => by cases he

theorem atomic_put (output : Option String) (text : String) : Atomic (put output text) := by
  cases output with
  | none => exact (succeeds_print text).atomic
  | some target => exact (atomic_openFile _).bind_succeeds fun l => succeeds_fill l text

theorem atomic_steps (parser : SourceParser) (serialize : Serializer) (settings : ParseSettings)
    (path : String) (output : Option String) :
    Atomic (steps parser serialize settings path output) := by
  refine (looks_tree parser settings path).bind_atomic fun tree => ?_
  refine (looks_ofExcept _).bind_atomic fun records => ?_
  refine (looks_ofExcept _).bind_atomic fun document => ?_
  exact (atomic_put output _).bind_succeeds fun _ _ => ⟨records, rfl⟩

end Exporting

/-- An export that fails has changed nothing. -/
theorem exportFile_atomic {before after : Surroundings} {parser : SourceParser}
    {serialize : Serializer} {settings : ParseSettings} {path : String} {output : Option String}
    {e : ExportError}
    (h : exportFile before parser serialize settings path output = (.error e, after)) :
    before.Unchanged after := by
  have hatomic := Exporting.atomic_steps parser serialize settings path output before e
  rw [← exportFile, h] at hatomic
  exact hatomic rfl

/-! ## What an export leaves -/

/-- Why a file is not exported: the first step that fails. -/
inductive FailsToExport (fs : FileSystem) (parser : SourceParser) (serialize : Serializer)
    (settings : ParseSettings) (path : String) (output : Option String) : ExportError → Prop
  | parse {stop} (hparse : (parseFile fs parser .main settings path).1 = .error stop) :
      FailsToExport fs parser serialize settings path output (.parse stop)
  | invalidTree {tree ps} (hparse : (parseFile fs parser .main settings path).1 = .ok tree)
      (hrecords : flattenRaw tree = .error ps) :
      FailsToExport fs parser serialize settings path output (.invalidTree ps)
  | serialization {tree records e}
      (hparse : (parseFile fs parser .main settings path).1 = .ok tree)
      (hrecords : flattenRaw tree = .ok records) (hdocument : serialize records = .error e) :
      FailsToExport fs parser serialize settings path output (.serialization e)
  | unwritable {tree records document target cause}
      (hparse : (parseFile fs parser .main settings path).1 = .ok tree)
      (hrecords : flattenRaw tree = .ok records) (hdocument : serialize records = .ok document)
      (houtput : output = some target)
      (hopen : fs.openForWriting (Path.ofText target).text = .error cause) :
      FailsToExport fs parser serialize settings path output
        (.unwritable (Path.ofText target).text cause)

/-- A text has gone where it was asked for, and nothing else is different. -/
inductive Delivered (before : Surroundings) (text : String) :
    Option String → Surroundings → Prop
  | printed {after} (hfiles : after.files = before.files)
      (houtput : after.output = before.output ++ text) : Delivered before text none after
  | saved {target l opened after}
      (hopen : before.files.openForWriting (Path.ofText target).text = .ok (l, opened))
      (hcontent : after.files.read (Path.ofText target).text = .ok text.toUTF8)
      (hframe : Frame [l] before.files after.files) (houtput : after.output = before.output) :
      Delivered before text (some target) after

/-- Whether the value of a raw label is text or absent. -/
def RawLabel.HasPlainValue (l : RawLabel) : Prop := l.value = .null ∨ ∃ s, l.value = .text s

/-- What the export of a file comes to, and what it leaves: all of the document,
or nothing. -/
structure ExportsWhole (before : Surroundings) (parser : SourceParser) (serialize : Serializer)
    (settings : ParseSettings) (path : String) (output : Option String)
    (result : Except ExportError (List Record)) (after : Surroundings) : Prop where
  unchanged : ∀ e, result = .error e → before.Unchanged after
  fails : ∀ e, result = .error e ↔
    FailsToExport before.files parser serialize settings path output e
  /-- An output that cannot be opened is an error, whatever comes before. -/
  refused : ∀ target cause, output = some target →
    before.files.openForWriting (Path.ofText target).text = .error cause → ∃ e, result = .error e
  /-- The records are those of the tree that the file has before the export. -/
  returns : ∀ records, result = .ok records → ∃ tree document,
    (parseFile before.files parser .main settings path).1 = .ok tree ∧
      flattenRaw tree = .ok records ∧ serialize records = .ok document ∧
      Delivered before (document ++ "\n") output after ∧
      (document = Document.write records → (∀ l ∈ tree.labels, l.HasPlainValue) →
        Document.ReadsBack (document ++ "\n") records)

section

variable {fs : FileSystem} {before : Surroundings} {parser : SourceParser}
  {serialize : Serializer} {settings : ParseSettings} {path : String} {output : Option String}

/-- Either a step fails, or there is a document, and its output can be opened. -/
theorem failsToExport_or (fs : FileSystem) (parser : SourceParser) (serialize : Serializer)
    (settings : ParseSettings) (path : String) (output : Option String) :
    (∃ e, FailsToExport fs parser serialize settings path output e) ∨
      ∃ tree records document, (parseFile fs parser .main settings path).1 = .ok tree ∧
        flattenRaw tree = .ok records ∧ serialize records = .ok document ∧
        ∀ target, output = some target →
          ∃ l opened, fs.openForWriting (Path.ofText target).text = .ok (l, opened) := by
  cases hparse : (parseFile fs parser .main settings path).1 with
  | error stop => exact .inl ⟨_, .parse hparse⟩
  | ok tree =>
    cases hrecords : flattenRaw tree with
    | error ps => exact .inl ⟨_, .invalidTree hparse hrecords⟩
    | ok records =>
      cases hdocument : serialize records with
      | error e => exact .inl ⟨_, .serialization hparse hrecords hdocument⟩
      | ok document =>
        by_cases hopen : ∃ target cause, output = some target ∧
            fs.openForWriting (Path.ofText target).text = .error cause
        · obtain ⟨target, cause, houtput, hopen⟩ := hopen
          exact .inl ⟨_, .unwritable hparse hrecords hdocument houtput hopen⟩
        · refine .inr ⟨tree, records, document, rfl, hrecords, hdocument, fun target houtput => ?_⟩
          cases hresult : fs.openForWriting (Path.ofText target).text with
          | error cause => exact absurd ⟨target, cause, houtput, hresult⟩ hopen
          | ok opened => exact ⟨_, _, rfl⟩

/-- A step that fails is the error of the export. -/
theorem FailsToExport.exportFile {e : ExportError}
    (h : FailsToExport before.files parser serialize settings path output e) :
    ∃ after, exportFile before parser serialize settings path output = (.error e, after) := by
  cases h with
  | parse hparse => exact ⟨_, exportFile_of_stop hparse serialize output⟩
  | invalidTree hparse hrecords => exact ⟨_, exportFile_of_problems hparse hrecords serialize output⟩
  | serialization hparse hrecords hdocument =>
    exact ⟨_, exportFile_of_serialization hparse hrecords hdocument output⟩
  | unwritable hparse hrecords hdocument houtput hopen =>
    obtain ⟨after, hexport, -⟩ :=
      (exports_of_tree hparse hrecords hdocument).refused _ _ (FileSystem.write_eq_error hopen)
    rw [houtput]
    exact ⟨after, hexport⟩

/-- A label that passes its check has the value that it was given, if this is text or
absent. -/
theorem RawLabel.HasPlainValue.isPlain_checked {l : RawLabel} {label : Label}
    (hplain : l.HasPlainValue) (hcheck : l.check = .ok label) : l.checked.isPlain = true := by
  rw [RawLabel.checked_of_check hcheck]
  obtain ⟨type, value⟩ := l
  simp only [RawLabel.check] at hcheck
  cases htype : Validation.string type with
  | error ps => rcases hplain with h | ⟨s, h⟩ <;> subst h <;> rw [htype] at hcheck <;> cases hcheck
  | ok t =>
    rcases hplain with h | ⟨s, h⟩ <;> subst h <;> rw [htype] at hcheck <;>
      exact Except.ok.inj hcheck ▸ rfl

/-- The records of a tree whose values are text or absent. -/
theorem readsBack_of_flattenRaw {tree : Tree RawLabel} {records : List Record}
    (hrecords : flattenRaw tree = .ok records) (hplain : ∀ l ∈ tree.labels, l.HasPlainValue) :
    Document.ReadsBack (Document.write records ++ "\n") records := by
  obtain ⟨hchecks, rfl⟩ := flattenRaw_eq_ok_iff.mp hrecords
  refine Document.readsBack_line fun l hl => ?_
  rw [Tree.labels_map] at hl
  obtain ⟨raw, hraw, rfl⟩ := List.mem_map.mp hl
  obtain ⟨label, hcheck⟩ := hchecks raw hraw
  exact (hplain raw hraw).isPlain_checked hcheck

/-- A document whose output can be opened is delivered there. -/
theorem exists_delivered {tree : Tree RawLabel} {records : List Record} {document : String}
    (hparse : (parseFile before.files parser .main settings path).1 = .ok tree)
    (hrecords : flattenRaw tree = .ok records) (hdocument : serialize records = .ok document)
    (hopens : ∀ target, output = some target →
      ∃ l opened, before.files.openForWriting (Path.ofText target).text = .ok (l, opened)) :
    ∃ after, SyntaxCorpus.exportFile before parser serialize settings path output
        = (.ok records, after) ∧ Delivered before (document ++ "\n") output after := by
  have hexports := exports_of_tree hparse hrecords hdocument
  cases output with
  | none =>
    obtain ⟨after, hexport, hfiles, houtput⟩ := hexports.printed
    exact ⟨after, hexport, .printed hfiles houtput⟩
  | some target =>
    obtain ⟨l, opened, hopen⟩ := hopens target rfl
    obtain ⟨files, hwrite, hframe, hread⟩ := FileSystem.exists_write hopen (document ++ "\n").toUTF8
    obtain ⟨after, hexport, rfl, houtput, -⟩ := hexports.saved target files hwrite
    exact ⟨after, hexport, .saved hopen hread hframe houtput⟩

/-- **An export delivers the whole document or changes nothing**, for any files,
paths, settings, parser and serializer. -/
theorem exportFile_whole (before : Surroundings) (parser : SourceParser)
    (serialize : Serializer) (settings : ParseSettings) (path : String)
    (output : Option String) :
    ∃ result after, exportFile before parser serialize settings path output = (result, after) ∧
      ExportsWhole before parser serialize settings path output result after := by
  rcases failsToExport_or before.files parser serialize settings path output with
    ⟨e, he⟩ | ⟨tree, records, document, hparse, hrecords, hdocument, hopens⟩
  · -- a step fails
    obtain ⟨after, hexport⟩ := he.exportFile
    refine ⟨.error e, after, hexport, ?_⟩
    exact {
      unchanged := fun _ _ => exportFile_atomic hexport
      fails := fun e' => ⟨fun h => Except.error.inj h ▸ he, fun h => by
        obtain ⟨after', hexport'⟩ := h.exportFile
        exact (Prod.mk.inj (hexport.symm.trans hexport')).1⟩
      refused := fun _ _ _ _ => ⟨e, rfl⟩
      returns := fun _ h => by cases h }
  · obtain ⟨after, hexport, hdelivered⟩ := exists_delivered hparse hrecords hdocument hopens
    refine ⟨.ok records, after, hexport, ?_⟩
    refine {
      unchanged := fun e h => by cases h
      fails := fun e => ⟨fun h => (by cases h), fun h => ?_⟩
      refused := fun target cause houtput hopen => ?_
      returns := fun records' h => ?_ }
    · obtain ⟨after', hexport'⟩ := h.exportFile
      cases hexport.symm.trans hexport'
    · obtain ⟨l, opened, hopened⟩ := hopens target houtput
      cases hopened.symm.trans hopen
    · obtain rfl := Except.ok.inj h
      refine ⟨tree, document, hparse, hrecords, hdocument, hdelivered, fun hwrite hplain => ?_⟩
      rw [hwrite]
      exact readsBack_of_flattenRaw hrecords hplain

end
end SyntaxCorpus
