/-
SyntaxCorpus.Proofs.Batch.Sink — nothing that is written is lost.

* `Sink.Keeps` — every operation on a sink changes no file but its own.
* `Sink.Stores` — what is in the file and in the block, in this order.
* `Sink.Holds` — the same with the text that waits: everything that was
  written so far.
* `Sink.holds_write` — a write adds its text to that, wherever it goes.
* `Sink.node?_close` — in the end everything is in the file.
-/
import SyntaxCorpus.Batch.Sink
import SyntaxCorpus.Proofs.FileSystem.Frame

namespace SyntaxCorpus

open FileSystem (Frame node?_writeAt)

namespace Sink

/-! ## Other files -/

/-- Whether there is a file at the location of a sink. -/
def HasFile (fs : FileSystem) (s : Sink) : Prop :=
  ∃ content, fs.node? s.location = some (.file content)

/-- What an operation on a sink may change: its file, and what waits for
it. -/
structure Keeps (before after : FileSystem × Sink) : Prop where
  location : after.2.location = before.2.location
  frame : Frame [before.2.location] before.1 after.1

variable {fs : FileSystem} {s : Sink} {bytes : ByteArray}

theorem Keeps.refl (h : HasFile fs s) {s' : Sink} (hl : s'.location = s.location) :
    Keeps (fs, s) (fs, s') :=
  ⟨hl, (Frame.refl fs).mono (by simp) (List.forall_mem_singleton.mpr h)⟩

theorem Keeps.hasFile {fs' : FileSystem} {s' : Sink} (h : Keeps (fs, s) (fs', s')) :
    HasFile fs' s' := by
  have hl : s'.location = s.location := h.location
  rw [HasFile, hl]
  exact h.frame.isFile _ (by simp)

theorem Keeps.trans {a b c : FileSystem × Sink} (h : Keeps a b) (h' : Keeps b c) : Keeps a c := by
  refine ⟨h'.location.trans h.location, ?_⟩
  have hframe := h'.frame
  rw [h.location] at hframe
  exact (h.frame.trans hframe).mono (by simp) hframe.isFile

theorem keeps_emit (h : HasFile fs s) (bytes : ByteArray) : Keeps (fs, s) (emit fs s bytes) := by
  unfold emit
  split
  · exact .refl h rfl
  · exact ⟨rfl, Frame.writeAt h _ _⟩

theorem keeps_emitBlock (h : HasFile fs s) : Keeps (fs, s) (emitBlock fs s) := by
  have hfile : HasFile fs { s with block := .empty } := h
  have hemit := keeps_emit hfile s.block
  exact ⟨hemit.location, hemit.frame⟩

theorem keeps_addToBlock (h : HasFile fs s) (bytes : ByteArray) :
    Keeps (fs, s) (addToBlock fs s bytes) := by
  unfold addToBlock
  split
  · exact .refl h rfl
  · have hblock := keeps_emitBlock h
    generalize emitBlock fs s = r at hblock
    obtain ⟨fs', s'⟩ := r
    dsimp only
    split
    · exact hblock.trans (keeps_emit hblock.hasFile bytes)
    · exact ⟨hblock.location, hblock.frame⟩

theorem keeps_passText (h : HasFile fs s) : Keeps (fs, s) (passText fs s) := by
  have hfile : HasFile fs { s with text := .empty } := h
  have hadd := keeps_addToBlock hfile s.text
  exact ⟨hadd.location, hadd.frame⟩

theorem keeps_write (h : HasFile fs s) (more : String) : Keeps (fs, s) (s.write fs more) := by
  have hfirst : Keeps (fs, s)
      (if textLimit < s.text.size + more.toUTF8.size then passText fs s else (fs, s)) := by
    split
    · exact keeps_passText h
    · exact .refl h rfl
  unfold write
  dsimp only
  generalize (if textLimit < s.text.size + more.toUTF8.size then passText fs s else (fs, s)) = r
    at hfirst
  obtain ⟨fs', s'⟩ := r
  have hadd : Keeps (fs, s) (fs', { s' with text := s'.text ++ more.toUTF8 }) :=
    ⟨hfirst.location, hfirst.frame⟩
  split
  · exact hadd.trans (keeps_passText hadd.hasFile)
  · exact hadd

theorem frame_close (h : HasFile fs s) : Frame [s.location] fs (s.close fs) := by
  have hpass := keeps_passText h
  unfold close
  generalize passText fs s = r at hpass
  obtain ⟨fs', s'⟩ := r
  exact (hpass.trans (keeps_emitBlock hpass.hasFile)).frame

/-! ## The bytes that were written -/

/-- The bytes in the file and in the block. -/
def Stores (fs : FileSystem) (s : Sink) (bytes : ByteArray) : Prop :=
  ∃ content, fs.node? s.location = some (.file content) ∧ s.offset = content.size ∧
    content ++ s.block = bytes

/-- Everything that was written so far. -/
def Holds (fs : FileSystem) (s : Sink) (bytes : ByteArray) : Prop :=
  ∃ stored, Stores fs s stored ∧ stored ++ s.text = bytes

theorem Stores.hasFile (h : Stores fs s bytes) : HasFile fs s := by
  obtain ⟨content, hn, -⟩ := h
  exact ⟨content, hn⟩

theorem Holds.hasFile (h : Holds fs s bytes) : HasFile fs s := by
  obtain ⟨stored, hstored, -⟩ := h
  exact hstored.hasFile

/-- What is written to other files does not matter. -/
theorem Holds.of_frame {ls : List Location} {after : FileSystem} (h : Holds fs s bytes)
    (hframe : Frame ls fs after) (hl : s.location ∉ ls) : Holds after s bytes := by
  obtain ⟨stored, ⟨content, hn, hoffset, hstored⟩, htext⟩ := h
  exact ⟨stored, ⟨content, by rw [hframe.outside _ hl, hn], hoffset, hstored⟩, htext⟩

/-- Bytes that go into the file. -/
theorem emit_spec {content : ByteArray} (hn : fs.node? s.location = some (.file content))
    (hoffset : s.offset = content.size) (bytes : ByteArray) :
    (emit fs s bytes).1.node? s.location = some (.file (content ++ bytes)) ∧
      (emit fs s bytes).2 = { s with offset := (content ++ bytes).size } := by
  unfold emit
  split
  · rename_i hempty
    obtain rfl : bytes = .empty := by
      rw [← ByteArray.size_eq_zero_iff]
      simpa [ByteArray.isEmpty] using hempty
    rw [ByteArray.append_empty]
    exact ⟨hn, by rw [← hoffset]⟩
  · have hwritten := node?_writeAt hn s.offset bytes
    rw [hoffset, overwrite_end] at hwritten
    exact ⟨by rw [hoffset]; exact hwritten, by rw [hoffset, ByteArray.size_append]⟩

theorem emitBlock_spec (h : Stores fs s bytes) :
    (emitBlock fs s).1.node? s.location = some (.file bytes) ∧
      (emitBlock fs s).2 = { s with offset := bytes.size, block := .empty } := by
  obtain ⟨content, hn, hoffset, rfl⟩ := h
  exact emit_spec (s := { s with block := .empty }) hn hoffset s.block

theorem addToBlock_spec (h : Stores fs s bytes) (more : ByteArray) :
    Stores (addToBlock fs s more).1 (addToBlock fs s more).2 (bytes ++ more) ∧
      (addToBlock fs s more).2.text = s.text := by
  unfold addToBlock
  split
  · -- the bytes fit
    obtain ⟨content, hn, hoffset, rfl⟩ := h
    exact ⟨⟨content, hn, hoffset, by rw [ByteArray.append_assoc]⟩, rfl⟩
  · obtain ⟨hn, hs⟩ := emitBlock_spec h
    generalize emitBlock fs s = r at hn hs
    obtain ⟨fs', s'⟩ := r
    dsimp only at hn hs ⊢
    subst hs
    split
    · -- they are more than a block, and go directly
      obtain ⟨hn', hs'⟩ :=
        emit_spec (s := { s with offset := bytes.size, block := .empty }) hn rfl more
      rw [hs']
      exact ⟨⟨bytes ++ more, hn', rfl, by rw [ByteArray.append_empty]⟩, rfl⟩
    · exact ⟨⟨bytes, hn, rfl, rfl⟩, rfl⟩

theorem passText_spec (h : Holds fs s bytes) :
    Stores (passText fs s).1 (passText fs s).2 bytes ∧ (passText fs s).2.text = .empty := by
  obtain ⟨stored, hstored, rfl⟩ := h
  exact addToBlock_spec (s := { s with text := .empty }) hstored s.text

theorem holds_passText (h : Holds fs s bytes) :
    Holds (passText fs s).1 (passText fs s).2 bytes := by
  obtain ⟨hstores, htext⟩ := passText_spec h
  exact ⟨bytes, hstores, by rw [htext, ByteArray.append_empty]⟩

/-- A write adds its text to what was written so far. -/
theorem holds_write (h : Holds fs s bytes) (more : String) :
    Holds (s.write fs more).1 (s.write fs more).2 (bytes ++ more.toUTF8) := by
  -- what came before goes first, if the text does not fit
  have hfirst : ∀ r : FileSystem × Sink,
      r = (if textLimit < s.text.size + more.toUTF8.size then passText fs s else (fs, s)) →
      Holds r.1 r.2 bytes := by
    rintro r rfl
    split
    · exact holds_passText h
    · exact h
  unfold write
  dsimp only
  generalize (if textLimit < s.text.size + more.toUTF8.size then passText fs s else (fs, s)) = r
    at hfirst
  obtain ⟨stored, hstored, rfl⟩ := hfirst r rfl
  have hadd : Holds r.1 { r.2 with text := r.2.text ++ more.toUTF8 }
      (stored ++ r.2.text ++ more.toUTF8) :=
    ⟨stored, hstored, by rw [ByteArray.append_assoc]⟩
  split
  · exact holds_passText hadd
  · exact hadd

/-- In the end everything that was written is in the file. -/
theorem node?_close (h : Holds fs s bytes) :
    (s.close fs).node? s.location = some (.file bytes) := by
  obtain ⟨hstores, -⟩ := passText_spec h
  have hlocation := (keeps_passText h.hasFile).location
  unfold close
  generalize passText fs s = r at hstores hlocation
  obtain ⟨hn, -⟩ := emitBlock_spec hstores
  rw [hlocation] at hn
  exact hn

/-! ## Short texts -/

/-- A short text waits. -/
theorem write_of_short {more : String} (h : s.text.size + more.toUTF8.size < textLimit) :
    s.write fs more = (fs, { s with text := s.text ++ more.toUTF8 }) := by
  have hfits : ¬ textLimit < s.text.size + more.toUTF8.size := by omega
  have hwaits : ¬ textLimit ≤ (s.text ++ more.toUTF8).size := by
    rw [ByteArray.size_append]
    omega
  rw [write, if_neg hfits]
  dsimp only
  rw [if_neg hwaits]

/-- It goes into the file in the end. -/
theorem close_of_short {l : Location} {text : ByteArray} (hshort : text.size ≤ blockLimit)
    (hne : text.isEmpty = false) :
    close fs { location := l, text := text } = fs.writeAt l 0 text := by
  simp [close, passText, addToBlock, emitBlock, emit, hshort, hne]

end Sink
end SyntaxCorpus
