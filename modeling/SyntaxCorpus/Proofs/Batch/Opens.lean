/-
SyntaxCorpus.Proofs.Batch.Opens — outputs opened one after the other.

The outputs are opened in a loop that keeps those that are open at hand. At the
first one that cannot be opened it closes them, and gives up.

* `openAll` — the loop; `open_eq_openAll` says that opening the three outputs is
  this loop.
* `Opens` — outputs that can be opened one after the other.
* `openAll_cases` — all outputs are opened, or those before the first one that
  cannot be.
* `Opens.read`, `Opens.frame`, `Opens.closeAll` — opened outputs are empty, all
  other files are as they were, and closing the outputs changes nothing.
-/
import SyntaxCorpus.Proofs.Batch.Sinks
import SyntaxCorpus.Proofs.FileSystem.Opening

namespace SyntaxCorpus

open FileSystem (Frame)

/-! ## The loop -/

/-- The end of some outputs. -/
def closeAll (fs : FileSystem) (sinks : List Sink) : FileSystem :=
  sinks.foldl (fun fs s => s.close fs) fs

/-- The outputs at some paths, opened one after the other, while others are open
already. At the first one that cannot be opened, all that are open are closed. -/
def openAll (fs : FileSystem) (opened : List Sink) :
    List Path → Except SinkOpenError (List Sink) × FileSystem
  | [] => (.ok opened, fs)
  | p :: ps =>
    match openSink fs p with
    | (.error e, fs) => (.error e, closeAll fs opened)
    | (.ok sink, fs) => openAll fs (opened ++ [sink]) ps

/-- Outputs that are opened one after the other, the file system before and
after that. -/
inductive Opens : FileSystem → List Path → List Sink → FileSystem → Prop
  | nil {fs} : Opens fs [] [] fs
  | cons {fs mid after p ps sink sinks} (hfirst : openSink fs p = (.ok sink, mid))
      (hrest : Opens mid ps sinks after) : Opens fs (p :: ps) (sink :: sinks) after

theorem openSink_eq_error {fs after : FileSystem} {p : Path} {e : SinkOpenError}
    (h : openSink fs p = (.error e, after)) :
    e.path = p.text ∧ fs.openForWriting p.text = .error e.cause ∧ after = fs := by
  unfold openSink at h
  split at h
  · cases h
  · rename_i heq
    cases h
    exact ⟨rfl, heq, rfl⟩

/-- Either all outputs are opened, or those before the first one that cannot
be. -/
theorem openAll_cases (fs : FileSystem) (opened : List Sink) (ps : List Path) :
    (∃ sinks after, Opens fs ps sinks after ∧
      openAll fs opened ps = (.ok (opened ++ sinks), after)) ∨
    ∃ earlier p later sinks now e, ps = earlier ++ p :: later ∧ Opens fs earlier sinks now ∧
      e.path = p.text ∧ now.openForWriting p.text = .error e.cause ∧
      openAll fs opened ps = (.error e, closeAll now (opened ++ sinks)) := by
  induction ps generalizing fs opened with
  | nil => exact .inl ⟨[], fs, .nil, by rw [openAll, List.append_nil]⟩
  | cons p ps ih =>
    cases hopen : openSink fs p with
    | mk result mid =>
      rw [openAll, hopen]
      cases result with
      | error e =>
        obtain ⟨hpath, hcause, rfl⟩ := openSink_eq_error hopen
        exact .inr ⟨[], p, ps, [], mid, e, rfl, .nil, hpath, hcause, by rw [List.append_nil]⟩
      | ok sink =>
        dsimp only
        rcases ih mid (opened ++ [sink]) with ⟨sinks, after, hopens, heq⟩ |
          ⟨earlier, q, later, sinks, now, e, rfl, hopens, hpath, hcause, heq⟩
        · exact .inl ⟨sink :: sinks, after, .cons hopen hopens, by simp [heq]⟩
        · exact .inr ⟨p :: earlier, q, later, sink :: sinks, now, e, rfl, .cons hopen hopens,
            hpath, hcause, by simp [heq]⟩

/-! ## Opened outputs -/

/-- Closing an output to which nothing was written changes nothing. -/
theorem Sink.close_openSink {fs mid : FileSystem} {p : Path} {sink : Sink}
    (h : openSink fs p = (.ok sink, mid)) (now : FileSystem) : sink.close now = now := by
  rw [(Sinks.openSink_eq_ok h).2]
  rfl

namespace Opens

variable {fs after later : FileSystem} {ps : List Path} {sinks : List Sink}

/-- Only the files of the outputs are different. -/
theorem frame (h : Opens fs ps sinks after) : Frame (sinks.map (·.location)) fs after := by
  induction h with
  | nil => exact Frame.refl _
  | cons hfirst _ ih => exact (Sinks.frame_openSink hfirst).trans ih

/-- The files of the outputs are empty. -/
theorem node? (h : Opens fs ps sinks after) :
    ∀ l ∈ sinks.map (·.location), after.node? l = some (.file .empty) := by
  induction h with
  | nil => simp
  | @cons fs mid after p ps sink sinks hfirst hrest ih =>
    intro l hl
    by_cases hlater : l ∈ sinks.map (·.location)
    · exact ih l hlater
    · obtain rfl : l = sink.location := by
        rw [List.map_cons, List.mem_cons] at hl
        exact hl.resolve_right hlater
      rw [hrest.frame.outside _ hlater]
      exact FileSystem.node?_openForWriting (Sinks.openSink_eq_ok hfirst).1

/-- The outputs are there under their paths, and empty. -/
theorem read (h : Opens fs ps sinks after) : ∀ p ∈ ps, after.read p.text = .ok .empty := by
  induction h with
  | nil => simp
  | cons hfirst hrest ih =>
    intro q hq
    rcases List.mem_cons.mp hq with rfl | hq
    · have hopens := Opens.cons hfirst hrest
      exact Frame.read_opened (Sinks.openSink_eq_ok hfirst).1 hopens.frame
        (hopens.node? _ (by simp))
    · exact ih q hq

/-- Nothing was written to the outputs that their end could change. -/
theorem closeAll_eq (h : Opens fs ps sinks after) (now : FileSystem) :
    closeAll now sinks = now := by
  induction h with
  | nil => rfl
  | cons hfirst _ ih =>
    rw [closeAll, List.foldl_cons, Sink.close_openSink hfirst]
    exact ih

/-- Each of the outputs could be opened at the start, if directories are in
directories then. -/
theorem canOpen (h : Opens fs ps sinks after) (hgrounded : fs.IsGrounded) :
    ∀ p ∈ ps, fs.CanOpen p.text := by
  induction h with
  | nil => simp
  | cons hfirst _ ih =>
    intro q hq
    have hframe := Sinks.frame_openSink hfirst
    rcases List.mem_cons.mp hq with rfl | hq
    · exact ⟨_, (Sinks.openSink_eq_ok hfirst).1⟩
    · exact hframe.canOpen_before hgrounded (ih (hframe.isGrounded hgrounded) q hq)

end Opens

/-! ## Three outputs -/

/-- The outputs, in the order in which they are opened. -/
def Sinks.toList (s : Sinks) : List Sink := [s.documents, s.paths, s.failures]

/-- The three outputs are opened in the loop. -/
theorem openAll_toList (fs : FileSystem) (p : SinkPaths) :
    openAll fs [] p.toList = ((Sinks.open_ fs p).1.map Sinks.toList, (Sinks.open_ fs p).2) := by
  simp only [SinkPaths.toList, openAll, Sinks.open_]
  obtain ⟨r₁, fs₁, hdocuments⟩ : ∃ r₁ fs₁, openSink fs p.documents = (r₁, fs₁) := ⟨_, _, rfl⟩
  rw [hdocuments]
  cases r₁ with
  | error e => rfl
  | ok documents =>
    dsimp only
    obtain ⟨r₂, fs₂, hpaths⟩ : ∃ r₂ fs₂, openSink fs₁ p.paths = (r₂, fs₂) := ⟨_, _, rfl⟩
    rw [hpaths]
    have hone : closeAll fs₂ [documents] = fs₂ := Sink.close_openSink hdocuments fs₂
    cases r₂ with
    | error e => exact Prod.ext rfl hone
    | ok paths =>
      dsimp only
      obtain ⟨r₃, fs₃, hfailures⟩ : ∃ r₃ fs₃, openSink fs₂ p.failures = (r₃, fs₃) := ⟨_, _, rfl⟩
      rw [hfailures]
      have htwo : closeAll fs₃ [documents, paths] = fs₃ :=
        (Opens.cons hdocuments (.cons hpaths .nil)).closeAll_eq fs₃
      cases r₃ with
      | error e => exact Prod.ext rfl htwo
      | ok failures => rfl

/-- Outputs that are open were opened one after the other. -/
theorem Sinks.opens_of_open {fs after : FileSystem} {p : SinkPaths} {s : Sinks}
    (h : open_ fs p = (.ok s, after)) : Opens fs p.toList s.toList after := by
  obtain ⟨fs₁, fs₂, hdocuments, hpaths, hfailures⟩ := open_eq_ok h
  exact .cons hdocuments (.cons hpaths (.cons hfailures .nil))

end SyntaxCorpus
