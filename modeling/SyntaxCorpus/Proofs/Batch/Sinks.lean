/-
SyntaxCorpus.Proofs.Batch.Sinks — what the three outputs of a batch hold.

* `Sinks.Keeps` — every operation on the outputs changes no other file.
* `Sinks.Hold` — the texts written to the three outputs so far.
* `Sinks.hold_writeDocument`, `Sinks.hold_writePath`,
  `Sinks.hold_writeFailure` — a write adds a line to one output and leaves the
  others as they are, if the outputs are different files.
* `Sinks.node?_close` — in the end the texts are in the files.
* `Sinks.read_opened` — the paths that the outputs were opened by lead to their
  files.
-/
import SyntaxCorpus.Batch.Sinks
import SyntaxCorpus.Proofs.Batch.Sink

namespace SyntaxCorpus

open FileSystem (Frame)

namespace Sinks

/-- The locations of the outputs. -/
def locations (s : Sinks) : List Location :=
  [s.documents.location, s.paths.location, s.failures.location]

/-! ## Other files -/

/-- Whether there are files at the locations of the outputs. -/
structure HaveFiles (fs : FileSystem) (s : Sinks) : Prop where
  documents : s.documents.HasFile fs
  paths : s.paths.HasFile fs
  failures : s.failures.HasFile fs

/-- What an operation on the outputs may change. -/
structure Keeps (before after : FileSystem × Sinks) : Prop where
  locations : after.2.locations = before.2.locations
  frame : Frame before.2.locations before.1 after.1

variable {fs : FileSystem} {s : Sinks}

theorem haveFiles_iff :
    HaveFiles fs s ↔ ∀ l ∈ s.locations, ∃ content, fs.node? l = some (.file content) := by
  simp only [locations, List.forall_mem_cons, List.not_mem_nil, false_implies, implies_true,
    and_true]
  exact ⟨fun ⟨h₁, h₂, h₃⟩ => ⟨h₁, h₂, h₃⟩, fun ⟨h₁, h₂, h₃⟩ => ⟨h₁, h₂, h₃⟩⟩

/-- Another file of the outputs may be written. -/
theorem HaveFiles.frame {fs' : FileSystem} {l : Location} (h : HaveFiles fs s)
    (hframe : Frame [l] fs fs') (hl : l ∈ s.locations) : Frame s.locations fs fs' := by
  refine hframe.mono (by simpa using hl) fun m hm => ?_
  by_cases hml : m ∈ [l]
  · exact hframe.isFile m hml
  · rw [hframe.outside m hml]
    exact haveFiles_iff.mp h m hm

theorem keeps_writeDocument (h : HaveFiles fs s) (document : String) :
    Keeps (fs, s) (s.writeDocument fs document) := by
  unfold writeDocument
  generalize document ++ "\n" = line
  have hkeeps := Sink.keeps_write h.documents line
  generalize s.documents.write fs line = r at hkeeps
  obtain ⟨hlocation, hframe⟩ := hkeeps
  refine ⟨?_, h.frame hframe (by simp [locations])⟩
  simpa [locations] using hlocation

theorem keeps_writePath (h : HaveFiles fs s) (path : String) :
    Keeps (fs, s) (s.writePath fs path) := by
  unfold writePath
  generalize path ++ "\n" = line
  have hkeeps := Sink.keeps_write h.paths line
  generalize s.paths.write fs line = r at hkeeps
  obtain ⟨hlocation, hframe⟩ := hkeeps
  refine ⟨?_, h.frame hframe (by simp [locations])⟩
  simpa [locations] using hlocation

theorem keeps_writeFailure (h : HaveFiles fs s) (path reason : String) :
    Keeps (fs, s) (s.writeFailure fs path reason) := by
  unfold writeFailure
  generalize failureLine path reason = line
  have hkeeps := Sink.keeps_write h.failures line
  generalize s.failures.write fs line = r at hkeeps
  obtain ⟨hlocation, hframe⟩ := hkeeps
  refine ⟨?_, h.frame hframe (by simp [locations])⟩
  simpa [locations] using hlocation

theorem frame_close (h : HaveFiles fs s) : Frame s.locations fs (s.close fs) := by
  have hframe₁ := Sink.frame_close h.documents
  have hall₁ := h.frame hframe₁ (by simp [locations])
  have h₁ : HaveFiles (s.documents.close fs) s := haveFiles_iff.mpr hall₁.isFile
  have hframe₂ := Sink.frame_close h₁.paths
  have h₂ : HaveFiles (s.paths.close (s.documents.close fs)) s :=
    haveFiles_iff.mpr (h₁.frame hframe₂ (by simp [locations])).isFile
  exact (hframe₁.trans hframe₂).trans (Sink.frame_close h₂.failures)

/-! ## The lines that were written

Every output is written like the others; a line of any form may go to it.
-/

/-- The texts written to the outputs so far. -/
structure Hold (fs : FileSystem) (s : Sinks) (documents paths failures : String) : Prop where
  documents : s.documents.Holds fs documents.toUTF8
  paths : s.paths.Holds fs paths.toUTF8
  failures : s.failures.Holds fs failures.toUTF8

variable {documents paths failures : String}

theorem distinct_locations (h : s.locations.Nodup) :
    s.documents.location ≠ s.paths.location ∧ s.documents.location ≠ s.failures.location ∧
      s.paths.location ≠ s.failures.location := by
  simpa [locations, not_or, and_assoc] using h

theorem toUTF8_append (a b : String) : a.toUTF8 ++ b.toUTF8 = (a ++ b).toUTF8 := by
  simp

theorem hold_writeDocument (h : Hold fs s documents paths failures) (hdistinct : s.locations.Nodup)
    (document : String) :
    Hold (s.writeDocument fs document).1 (s.writeDocument fs document).2
      (documents ++ (document ++ "\n")) paths failures := by
  obtain ⟨hpaths, hfailures, -⟩ := distinct_locations hdistinct
  unfold writeDocument
  generalize document ++ "\n" = line
  have hholds := Sink.holds_write h.documents line
  have hframe := (Sink.keeps_write h.documents.hasFile line).frame
  rw [toUTF8_append] at hholds
  generalize s.documents.write fs line = r at hholds hframe
  exact ⟨hholds, h.paths.of_frame hframe (by simpa using Ne.symm hpaths),
    h.failures.of_frame hframe (by simpa using Ne.symm hfailures)⟩

theorem hold_writePath (h : Hold fs s documents paths failures) (hdistinct : s.locations.Nodup)
    (path : String) :
    Hold (s.writePath fs path).1 (s.writePath fs path).2 documents (paths ++ (path ++ "\n"))
      failures := by
  obtain ⟨hdocuments, -, hfailures⟩ := distinct_locations hdistinct
  unfold writePath
  generalize path ++ "\n" = line
  have hholds := Sink.holds_write h.paths line
  have hframe := (Sink.keeps_write h.paths.hasFile line).frame
  rw [toUTF8_append] at hholds
  generalize s.paths.write fs line = r at hholds hframe
  exact ⟨h.documents.of_frame hframe (by simpa using hdocuments), hholds,
    h.failures.of_frame hframe (by simpa using Ne.symm hfailures)⟩

theorem hold_writeFailure (h : Hold fs s documents paths failures) (hdistinct : s.locations.Nodup)
    (path reason : String) :
    Hold (s.writeFailure fs path reason).1 (s.writeFailure fs path reason).2 documents paths
      (failures ++ failureLine path reason) := by
  obtain ⟨-, hdocuments, hpaths⟩ := distinct_locations hdistinct
  unfold writeFailure
  generalize failureLine path reason = line
  have hholds := Sink.holds_write h.failures line
  have hframe := (Sink.keeps_write h.failures.hasFile line).frame
  rw [toUTF8_append] at hholds
  generalize s.failures.write fs line = r at hholds hframe
  exact ⟨h.documents.of_frame hframe (by simpa using hdocuments),
    h.paths.of_frame hframe (by simpa using hpaths), hholds⟩

theorem node?_close (h : Hold fs s documents paths failures) (hdistinct : s.locations.Nodup) :
    (s.close fs).node? s.documents.location = some (.file documents.toUTF8) ∧
      (s.close fs).node? s.paths.location = some (.file paths.toUTF8) ∧
      (s.close fs).node? s.failures.location = some (.file failures.toUTF8) := by
  obtain ⟨hdp, hdf, hpf⟩ := distinct_locations hdistinct
  have hframe₁ := Sink.frame_close h.documents.hasFile
  have hpaths := h.paths.of_frame hframe₁ (by simpa using Ne.symm hdp)
  have hfailures := h.failures.of_frame hframe₁ (by simpa using Ne.symm hdf)
  have hframe₂ := Sink.frame_close hpaths.hasFile
  have hfailures' := hfailures.of_frame hframe₂ (by simpa using Ne.symm hpf)
  have hframe₃ := Sink.frame_close hfailures'.hasFile
  refine ⟨?_, ?_, Sink.node?_close hfailures'⟩
  · exact (hframe₃.outside _ (by simpa using hdf)).trans
      ((hframe₂.outside _ (by simpa using hdp)).trans (Sink.node?_close h.documents))
  · exact (hframe₃.outside _ (by simpa using hpf)).trans (Sink.node?_close hpaths)

/-! ## Opened outputs -/

section Opened

variable {after later : FileSystem} {p : SinkPaths}

theorem openSink_eq_ok {path : Path} {sink : Sink} (h : openSink fs path = (.ok sink, after)) :
    fs.openForWriting path.text = .ok (sink.location, after) ∧
      sink = { location := sink.location } := by
  unfold openSink at h
  split at h
  · rename_i heq
    cases h
    exact ⟨heq, rfl⟩
  · cases h

theorem holds_openSink {path : Path} {sink : Sink} (h : openSink fs path = (.ok sink, after)) :
    sink.Holds after "".toUTF8 := by
  obtain ⟨hopen, hsink⟩ := openSink_eq_ok h
  have hn := FileSystem.node?_openForWriting hopen
  rw [hsink]
  exact ⟨.empty, ⟨.empty, hn, rfl, rfl⟩, rfl⟩

theorem frame_openSink {path : Path} {sink : Sink} (h : openSink fs path = (.ok sink, after)) :
    Frame [sink.location] fs after :=
  Frame.openForWriting (openSink_eq_ok h).1

/-- The outputs are opened one after the other. -/
theorem open_eq_ok (h : open_ fs p = (.ok s, after)) :
    ∃ fs₁ fs₂, openSink fs p.documents = (.ok s.documents, fs₁) ∧
      openSink fs₁ p.paths = (.ok s.paths, fs₂) ∧
      openSink fs₂ p.failures = (.ok s.failures, after) := by
  unfold open_ at h
  split at h
  · cases h
  · rename_i hdocuments
    split at h
    · cases h
    · rename_i hpaths
      split at h
      · cases h
      · rename_i hfailures
        cases h
        exact ⟨_, _, hdocuments, hpaths, hfailures⟩

/-- Outputs are opened if each of them is. -/
theorem open_of_openForWriting {fs₁ fs₂ fs₃ : FileSystem} {l₁ l₂ l₃ : Location}
    (h₁ : fs.openForWriting p.documents.text = .ok (l₁, fs₁))
    (h₂ : fs₁.openForWriting p.paths.text = .ok (l₂, fs₂))
    (h₃ : fs₂.openForWriting p.failures.text = .ok (l₃, fs₃)) :
    open_ fs p = (.ok ⟨{ location := l₁ }, { location := l₂ }, { location := l₃ }⟩, fs₃) := by
  simp only [open_, openSink, h₁, h₂, h₃]

theorem frame_open (h : open_ fs p = (.ok s, after)) : Frame s.locations fs after := by
  obtain ⟨fs₁, fs₂, hdocuments, hpaths, hfailures⟩ := open_eq_ok h
  exact ((frame_openSink hdocuments).trans (frame_openSink hpaths)).trans
    (frame_openSink hfailures)

/-- Outputs that are different files are empty when they are open. -/
theorem hold_open (h : open_ fs p = (.ok s, after)) (hdistinct : s.locations.Nodup) :
    Hold after s "" "" "" := by
  obtain ⟨hdp, hdf, hpf⟩ := distinct_locations hdistinct
  obtain ⟨fs₁, fs₂, hdocuments, hpaths, hfailures⟩ := open_eq_ok h
  have hframe := frame_openSink hfailures
  refine ⟨?_, ?_, holds_openSink hfailures⟩
  · have hholds := (holds_openSink hdocuments).of_frame (frame_openSink hpaths) (by simpa using hdp)
    exact hholds.of_frame hframe (by simpa using hdf)
  · exact (holds_openSink hpaths).of_frame hframe (by simpa using hpf)

/-- The paths that the outputs were opened by lead to the outputs, however much
was written to them since. -/
theorem read_opened (h : open_ fs p = (.ok s, after)) (hframe : Frame s.locations after later)
    {documents paths failures : ByteArray}
    (hdocuments : later.node? s.documents.location = some (.file documents))
    (hpaths : later.node? s.paths.location = some (.file paths))
    (hfailures : later.node? s.failures.location = some (.file failures)) :
    later.read p.documents.text = .ok documents ∧ later.read p.paths.text = .ok paths ∧
      later.read p.failures.text = .ok failures := by
  obtain ⟨fs₁, fs₂, hopen₁, hopen₂, hopen₃⟩ := open_eq_ok h
  have hframe₃ := (frame_openSink hopen₃).trans hframe
  have hframe₂ := (frame_openSink hopen₂).trans hframe₃
  have hframe₁ := (frame_openSink hopen₁).trans hframe₂
  exact ⟨Frame.read_opened (openSink_eq_ok hopen₁).1 hframe₁ hdocuments,
    Frame.read_opened (openSink_eq_ok hopen₂).1 hframe₂ hpaths,
    Frame.read_opened (openSink_eq_ok hopen₃).1 hframe₃ hfailures⟩

end Opened

end Sinks
end SyntaxCorpus
