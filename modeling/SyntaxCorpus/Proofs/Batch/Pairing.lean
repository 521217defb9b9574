/-
SyntaxCorpus.Proofs.Batch.Pairing — the outputs of a batch keep together.

The workers write at the same time, each line in a step of its own. What they
have written is nevertheless a list of pairs of lines and a list of failure
lines, at any moment and when the outputs are closed: between the two lines of
a pair, the worker has the lock that any other worker would need to write a
line of a pair.

* `WrittenPair`, `WrittenFailure` — what is written for a call.
* `Paired` — the lines of the outputs are those of the calls that are
  completed, and of at most one call that is half written.
* `Traced.paired` — that is so in every state that a batch can come to.
* `KeepsTogether`, `runBatch_keepsTogether` — so it is in the outputs that a
  batch leaves, however it ends, if the outputs are three different files.
-/
import Mathlib.Data.List.Nodup
import SyntaxCorpus.Proofs.Batch.Calls
import SyntaxCorpus.Proofs.Batch.Outputs

namespace SyntaxCorpus

/-- Whether what was written to a file so far are these lines, each with a line
break at its end. -/
def Sink.HasWritten (fs : FileSystem) (s : Sink) (lines : List String) : Prop :=
  ∃ text : String, s.Holds fs text.toUTF8 ∧ Text.pieces '\n' text = lines ++ [""]

namespace Batch

open FileSystem (Frame)

/-! ## Lines of calls -/

/-- The lines of a completed call for an accepted file. -/
structure WrittenPair where
  job : Nat
  path : String
  document : String

/-- The line of a completed call for a rejected file. -/
structure WrittenFailure where
  job : Nat
  path : String
  reason : String

def WrittenPair.call (w : WrittenPair) : Call := (w.job, .pair w.path w.document)

def WrittenFailure.call (w : WrittenFailure) : Call := (w.job, .failure w.path w.reason)

def WrittenFailure.line (w : WrittenFailure) : String := failureText w.path w.reason

/-- The lines of the outputs are those of the completed calls: `pairs` and
`failures`, in the order in which they were completed. `half` is the call whose
document is written and whose path is not. -/
structure Paired (p : SinkPaths) (calls : List Call) (s : State) (pairs : List WrittenPair)
    (half : Option WrittenPair) (failures : List WrittenFailure) : Prop where
  /-- A worker makes one call for its file. -/
  once : (calls.map Prod.fst).Nodup
  nodup_pairs : pairs.Nodup
  nodup_failures : failures.Nodup
  pair : ∀ w, w ∈ pairs ↔ w.call ∈ calls ∧ s.isAt Stage.isWritten w.job = true
  failure : ∀ w, w ∈ failures ↔ w.call ∈ calls ∧ s.isAt Stage.isWritten w.job = true
  between : ∀ w, half = some w ↔
    w.call ∈ calls ∧ s.stage? w.job = some (.halfWritten w.path w.document)
  /-- Only the holder of the lock for pairs is between the lines of a pair. -/
  lock : ∀ w, half = some w → s.pairLock = some w.job
  written : (∀ r, s.phase ≠ .ended r) →
    s.sinks.documents.HasWritten s.files ((pairs ++ half.toList).map (·.document)) ∧
      s.sinks.paths.HasWritten s.files (pairs.map (·.path)) ∧
      s.sinks.failures.HasWritten s.files (failures.map (·.line))
  /-- The outputs are closed when all workers are done. -/
  done : ∀ r, s.phase = .ended r → (∀ j ∈ s.jobs, j.stage.isOver = true) ∧ half = none ∧
    ∀ c ∈ calls, s.isAt Stage.isWritten c.1 = true
  closed : ∀ r, s.phase = .ended r → HasLines s.files p.documents (pairs.map (·.document)) ∧
    HasLines s.files p.paths (pairs.map (·.path)) ∧
    HasLines s.files p.failures (failures.map (·.line))

/-! ## Kinds of calls -/

/-- A kind of calls, with what a call of the kind is recorded as. -/
structure CallKind (α : Type) where
  of? : Nat → Entry → Option α
  call : α → Call
  of?_eq_some_iff : ∀ i e w, of? i e = some w ↔ (i, e) = call w

/-- The calls for accepted files. -/
def pairKind : CallKind WrittenPair where
  of? i
    | .pair path document => some ⟨i, path, document⟩
    | .failure .. => none
  call := WrittenPair.call
  of?_eq_some_iff := by
    rintro i e ⟨job, path, document⟩
    cases e <;> simp [WrittenPair.call]

/-- The calls for rejected files. -/
def failureKind : CallKind WrittenFailure where
  of? i
    | .pair .. => none
    | .failure path reason => some ⟨i, path, reason⟩
  call := WrittenFailure.call
  of?_eq_some_iff := by
    rintro i e ⟨job, path, reason⟩
    cases e <;> simp [WrittenFailure.call]

/-- Lines, each with a line break at its end. -/
def textOf (lines : List String) : String := String.join (lines.map (· ++ "\n"))

namespace CallKind

variable {α : Type} (k : CallKind α) {entry : Nat → Except FileStop Entry} {i : Nat} {w : α}

/-- The call for a file, if it is of the kind. -/
def at? (entry : Nat → Except FileStop Entry) (i : Nat) : Option α :=
  match entry i with
  | .ok e => k.of? i e
  | .error _ => none

/-- The calls for some files that are of the kind. -/
def list (entry : Nat → Except FileStop Entry) (log : List Nat) : List α :=
  log.filterMap (k.at? entry)

theorem at?_eq_some_iff :
    k.at? entry i = some w ↔ i = (k.call w).1 ∧ entry i = .ok (k.call w).2 := by
  unfold at?
  cases hentry : entry i with
  | error stop => simp
  | ok e =>
    simp only [k.of?_eq_some_iff, Except.ok.injEq]
    exact Prod.ext_iff

theorem mem_list_iff {log : List Nat} :
    w ∈ k.list entry log ↔ (k.call w).1 ∈ log ∧ entry (k.call w).1 = .ok (k.call w).2 := by
  simp only [list, List.mem_filterMap, k.at?_eq_some_iff]
  constructor
  · rintro ⟨i, hi, rfl, hentry⟩
    exact ⟨hi, hentry⟩
  · rintro ⟨hi, hentry⟩
    exact ⟨_, hi, rfl, hentry⟩

theorem nodup_list {log : List Nat} (h : log.Nodup) : (k.list entry log).Nodup := by
  refine h.filterMap fun i j w hi hj => ?_
  exact (k.at?_eq_some_iff.mp hi).1.trans (k.at?_eq_some_iff.mp hj).1.symm

theorem call_inj {w w' : α} (h : k.call w = k.call w') : w = w' := by
  have hw := (k.of?_eq_some_iff (k.call w).1 (k.call w).2 w).mpr rfl
  have hw' := (k.of?_eq_some_iff (k.call w).1 (k.call w).2 w').mpr h
  exact Option.some.inj (hw.symm.trans hw')

theorem pairwise_list {log : List Nat} (h : log.Pairwise (· < ·)) :
    ((k.list entry log).map fun w => (k.call w).1).Pairwise (· < ·) := by
  refine List.pairwise_map.mpr (h.filterMap _ fun i j hlt w hw w' hw' => ?_)
  rw [← (k.at?_eq_some_iff.mp hw).1, ← (k.at?_eq_some_iff.mp hw').1]
  exact hlt

theorem list_append_toList (entry : Nat → Except FileStop Entry) (log : List Nat)
    (half : Option Nat) :
    k.list entry (log ++ half.toList)
      = k.list entry log ++ (half.bind (k.at? entry)).toList := by
  rw [list, List.filterMap_append]
  cases half with
  | none => rfl
  | some i => cases hcall : k.at? entry i <;> simp [list, hcall]

/-- What some files add to an output are lines, if entries of the kind add a
line and others add nothing. -/
theorem written_eq {part : Entry → String} {line : α → String}
    (h : ∀ i e, part e = ((k.of? i e).map fun w => line w ++ "\n").getD "") (log : List Nat) :
    written part entry log = textOf ((k.list entry log).map line) := by
  have hadds : ∀ i, addition part (entry i)
      = ((k.at? entry i).map fun w => line w ++ "\n").getD "" := by
    intro i
    unfold addition at?
    cases entry i with
    | error stop => rfl
    | ok e => exact h i e
  induction log with
  | nil => rfl
  | cons i log ih =>
    rw [written] at ih ⊢
    rw [List.map_cons, String.join_cons, ih, hadds i]
    cases hcall : k.at? entry i with
    | none => simp [list, List.filterMap_cons_none hcall]
    | some w => simp [list, List.filterMap_cons_some hcall, textOf]

end CallKind

section

variable (entry : Nat → Except FileStop Entry) (log : List Nat)

theorem written_toDocuments :
    written Entry.toDocuments entry log = textOf ((pairKind.list entry log).map (·.document)) :=
  pairKind.written_eq (fun _ e => by cases e <;> rfl) log

theorem written_toPaths :
    written Entry.toPaths entry log = textOf ((pairKind.list entry log).map (·.path)) :=
  pairKind.written_eq (fun _ e => by cases e <;> rfl) log

theorem written_toFailures :
    written Entry.toFailures entry log = textOf ((failureKind.list entry log).map (·.line)) := by
  refine failureKind.written_eq (fun _ e => ?_) log
  cases e with
  | pair path document => rfl
  | failure path reason => exact failureLine_eq path reason

end

/-! ## Single lines -/

/-- Records are written as their document, or not at all. -/
def Faithful (serialize : Serializer) : Prop :=
  ∀ records document, serialize records = .ok document → document = Document.write records

/-- Whether each line of an entry is a single line. -/
def Entry.OnLines : Entry → Prop
  | pair path document => '\n' ∉ path.toList ∧ '\n' ∉ document.toList
  | failure path reason => '\n' ∉ (failureText path reason).toList

/-- What may be written for a file is on single lines. -/
theorem Writes.onLines {setup : Setup} {fs : FileSystem} {p : Path} {e : Entry}
    (hfaithful : Faithful setup.serialize) (h : Writes setup fs p e) : e.OnLines := by
  cases h with
  | pair hbreak hdocument =>
    refine ⟨(hasLineBreak_eq_false_iff.mp hbreak).1, ?_⟩
    rw [hfaithful _ _ hdocument]
    exact Document.newline_not_mem_write _
  | failure reason => exact not_mem_failureText (not_mem_failedPath setup fs p) reason

section

variable {calls : List Call} {s : State}

/-- The entries of a batch that has ended are those of its calls. -/
theorem Paired.entries_perm {p : SinkPaths} {r : Except FileStop Unit}
    {pairs : List WrittenPair}
    {between : Option WrittenPair} {failures : List WrittenFailure}
    (h : Paired p calls s pairs between failures) (hr : s.phase = .ended r) :
    (pairs.map (·.call) ++ failures.map (·.call)).Perm calls := by
  have hnodup : (pairs.map (·.call) ++ failures.map (·.call)).Nodup := by
    refine List.nodup_append.mpr ⟨h.nodup_pairs.map fun _ _ => pairKind.call_inj,
      h.nodup_failures.map fun _ _ => failureKind.call_inj, fun c hc c' hc' => ?_⟩
    obtain ⟨w, -, rfl⟩ := List.mem_map.mp hc
    obtain ⟨w', -, rfl⟩ := List.mem_map.mp hc'
    simp [WrittenPair.call, WrittenFailure.call]
  refine (List.perm_ext_iff_of_nodup hnodup h.once.of_map).mpr fun c => ?_
  rw [List.mem_append, List.mem_map, List.mem_map]
  constructor
  · rintro (⟨w, hw, rfl⟩ | ⟨w, hw, rfl⟩)
    · exact ((h.pair w).mp hw).1
    · exact ((h.failure w).mp hw).1
  · obtain ⟨i, e⟩ := c
    intro hc
    have hwritten := (h.done r hr).2.2 _ hc
    cases e with
    | pair path document => exact .inl ⟨⟨i, path, document⟩, (h.pair _).mpr ⟨hc, hwritten⟩, rfl⟩
    | failure path reason =>
      exact .inr ⟨⟨i, path, reason⟩, (h.failure _).mpr ⟨hc, hwritten⟩, rfl⟩

end

/-! ## In every state -/

section

variable {setup : Setup} {paths : List Path} {opened : FileSystem} {locations : List Location}
  {calls : List Call} {entry : Nat → Except FileStop Entry} {s : State} {log : List Nat}
  {half : Option Nat}

theorem isAt_mono {kind kind' : Stage → Bool} (h : ∀ stage, kind stage = true → kind' stage = true)
    {i : Nat} (hi : s.isAt kind i = true) : s.isAt kind' i = true := by
  obtain ⟨stage, hstage, hkind⟩ := State.isAt_iff.mp hi
  exact State.isAt_iff.mpr ⟨stage, hstage, h stage hkind⟩

theorem hasCalled_of_isWritten (stage : Stage) (h : stage.isWritten = true) :
    stage.hasCalled = true := by
  cases stage with
  | written e => rfl
  | done r =>
    cases r with
    | ok accepted => rfl
    | error stop => cases h
  | _ => cases h

theorem hasCalled_of_isHalfWritten (stage : Stage) (h : stage.isHalfWritten = true) :
    stage.hasCalled = true := by
  cases stage with
  | halfWritten path document => rfl
  | _ => cases h

theorem isWritten_of_isOver (stage : Stage) (hover : stage.isOver = true)
    (h : stage.hasCalled = true) : stage.isWritten = true := by
  cases stage with
  | done r =>
    cases r with
    | ok accepted => rfl
    | error stop => cases h
  | cancelled => cases h
  | _ => cases hover

/-- A lock is with the file that is half written. -/
theorem pairLock_of_halfWritten (h : Guarded s) {i : Nat} {path document : String}
    (hstage : s.stage? i = some (.halfWritten path document)) : s.pairLock = some i := by
  have hheld : s.lockOf true = some i := by
    rw [h, State.holds, hstage]
    rfl
  exact hheld

namespace Traced

/-- The calls of a kind that are completed. -/
theorem mem_list_iff {α : Type} (h : Traced setup paths opened locations calls entry s)
    (hlog : Logged entry log half s) (k : CallKind α) (w : α) :
    w ∈ k.list entry log ↔
      k.call w ∈ calls ∧ s.isAt Stage.isWritten (k.call w).1 = true := by
  have hmem := h.mem (k.call w).1 (k.call w).2
  rw [k.mem_list_iff, hlog.mem]
  constructor
  · rintro ⟨hwritten, hentry⟩
    exact ⟨hmem.mpr ⟨isAt_mono hasCalled_of_isWritten hwritten, hentry⟩, hwritten⟩
  · rintro ⟨hcall, hwritten⟩
    exact ⟨hwritten, (hmem.mp hcall).2⟩

/-- The file whose document is written and whose path is not is at a stage of
its own call. -/
theorem half_eq_some_iff (h : Traced setup paths opened locations calls entry s)
    (hlog : Logged entry log half s) (w : WrittenPair) :
    half.bind (pairKind.at? entry) = some w ↔
      w.call ∈ calls ∧ s.stage? w.job = some (.halfWritten w.path w.document) := by
  have hmem : w.call ∈ calls ↔ s.isAt Stage.hasCalled w.job = true ∧
      entry w.job = .ok (.pair w.path w.document) := h.mem _ _
  rw [hmem, Option.bind_eq_some_iff]
  constructor
  · rintro ⟨i, hi, hcall⟩
    obtain ⟨rfl, hentry⟩ := pairKind.at?_eq_some_iff.mp hcall
    obtain ⟨stage, hstage, hkind⟩ := State.isAt_iff.mp ((hlog.between _).mp hi)
    have hcalled := State.isAt_iff.mpr ⟨stage, hstage, hasCalled_of_isHalfWritten stage hkind⟩
    refine ⟨⟨hcalled, hentry⟩, ?_⟩
    have hagrees := h.agreed _ stage hstage
    cases stage with
    | halfWritten path document =>
      have hsame := hagrees.symm.trans hentry
      cases hsame
      exact hstage
    | _ => cases hkind
  · rintro ⟨⟨-, hentry⟩, hstage⟩
    refine ⟨w.job, (hlog.between _).mpr ?_, pairKind.at?_eq_some_iff.mpr ⟨rfl, hentry⟩⟩
    rw [isAt_of_stage? hstage]
    rfl

theorem onLines (hfaithful : Faithful setup.serialize)
    (h : Traced setup paths opened locations calls entry s) {c : Call} (hc : c ∈ calls) :
    c.2.OnLines := by
  obtain ⟨p, -, hwrites⟩ := h.made c hc
  exact hwrites.onLines hfaithful

/-- What is written to the outputs are single lines. -/
theorem lines (hfaithful : Faithful setup.serialize)
    (h : Traced setup paths opened locations calls entry s) (hlog : Logged entry log half s) :
    (∀ line ∈ (pairKind.list entry (log ++ half.toList)).map (·.document), '\n' ∉ line.toList) ∧
      (∀ line ∈ (pairKind.list entry log).map (·.path), '\n' ∉ line.toList) ∧
      ∀ line ∈ (failureKind.list entry log).map (·.line), '\n' ∉ line.toList := by
  have hpair : ∀ w ∈ pairKind.list entry log, w.call ∈ calls :=
    fun w hw => ((h.mem_list_iff hlog pairKind w).mp hw).1
  have hhalf : ∀ w ∈ (half.bind (pairKind.at? entry)).toList, w.call ∈ calls :=
    fun w hw => ((h.half_eq_some_iff hlog w).mp (Option.mem_toList.mp hw)).1
  refine ⟨fun line hline => ?_, fun line hline => ?_, fun line hline => ?_⟩
  · obtain ⟨w, hw, rfl⟩ := List.mem_map.mp hline
    rw [pairKind.list_append_toList, List.mem_append] at hw
    have hlines : w.call.2.OnLines := h.onLines hfaithful (hw.elim (hpair w) (hhalf w))
    exact hlines.2
  · obtain ⟨w, hw, rfl⟩ := List.mem_map.mp hline
    have hlines : w.call.2.OnLines := h.onLines hfaithful (hpair w hw)
    exact hlines.1
  · obtain ⟨w, hw, rfl⟩ := List.mem_map.mp hline
    have hlines : w.call.2.OnLines :=
      h.onLines hfaithful ((h.mem_list_iff hlog failureKind w).mp hw).1
    exact hlines

theorem hasWritten (hfaithful : Faithful setup.serialize)
    (h : Traced setup paths opened locations calls entry s) (hlog : Logged entry log half s)
    (hopen : ∀ r, s.phase ≠ .ended r) :
    s.sinks.documents.HasWritten s.files
        ((pairKind.list entry (log ++ half.toList)).map (·.document)) ∧
      s.sinks.paths.HasWritten s.files ((pairKind.list entry log).map (·.path)) ∧
      s.sinks.failures.HasWritten s.files ((failureKind.list entry log).map (·.line)) := by
  obtain ⟨hdocuments, hpaths, hfailures⟩ := h.lines hfaithful hlog
  have hhold := hlog.hold hopen
  rw [written_toDocuments, written_toPaths, written_toFailures] at hhold
  exact ⟨⟨_, hhold.documents, Text.pieces_join_lines hdocuments⟩,
    ⟨_, hhold.paths, Text.pieces_join_lines hpaths⟩,
    ⟨_, hhold.failures, Text.pieces_join_lines hfailures⟩⟩

/-- When a batch has ended, every call is completed. -/
theorem isWritten_of_ended (h : Traced setup paths opened locations calls entry s)
    {r : Except FileStop Unit} (hr : s.phase = .ended r) :
    ∀ c ∈ calls, s.isAt Stage.isWritten c.1 = true := by
  rintro ⟨i, e⟩ hc
  obtain ⟨stage, hstage, hkind⟩ := State.isAt_iff.mp ((h.mem i e).mp hc).1
  have hover := h.settled.isOver_of_stage? hr hstage
  exact State.isAt_iff.mpr ⟨stage, hstage, isWritten_of_isOver stage hover hkind⟩

theorem half_eq_none_of_ended (h : Traced setup paths opened locations calls entry s)
    (hlog : Logged entry log half s) {r : Except FileStop Unit} (hr : s.phase = .ended r) :
    half = none := by
  cases hhalf : half with
  | none => rfl
  | some i =>
    obtain ⟨stage, hstage, hkind⟩ := State.isAt_iff.mp ((hlog.between i).mp hhalf)
    have hover := h.settled.isOver_of_stage? hr hstage
    cases stage with
    | halfWritten path document => cases hover
    | _ => cases hkind

/-- The outputs that a batch leaves have the lines of the completed calls. -/
theorem read_ended {p : SinkPaths} {sinks : Sinks} {files : FileSystem}
    (hopen : Sinks.open_ files p = (.ok sinks, opened))
    (h : Traced setup paths opened sinks.locations calls entry s)
    (hlog : Logged entry log half s) {r : Except FileStop Unit} (hr : s.phase = .ended r) :
    s.files.read p.documents.text
        = .ok (textOf ((pairKind.list entry log).map (·.document))).toUTF8 ∧
      s.files.read p.paths.text = .ok (textOf ((pairKind.list entry log).map (·.path))).toUTF8 ∧
      s.files.read p.failures.text
        = .ok (textOf ((failureKind.list entry log).map (·.line))).toUTF8 := by
  obtain rfl := h.half_eq_none_of_ended hlog hr
  obtain ⟨hd, hp, hf⟩ := hlog.closed r hr
  obtain ⟨hdl, hpl, hfl⟩ := locations_eq_iff.mp h.framed.sinks
  rw [hdl, Option.toList_none, List.append_nil, written_toDocuments] at hd
  rw [hpl, written_toPaths] at hp
  rw [hfl, written_toFailures] at hf
  exact Sinks.read_opened hopen h.framed.frame hd hp hf

theorem hasLines {p : SinkPaths} {sinks : Sinks} {files : FileSystem}
    (hfaithful : Faithful setup.serialize) (hopen : Sinks.open_ files p = (.ok sinks, opened))
    (h : Traced setup paths opened sinks.locations calls entry s)
    (hlog : Logged entry log half s) {r : Except FileStop Unit} (hr : s.phase = .ended r) :
    HasLines s.files p.documents ((pairKind.list entry log).map (·.document)) ∧
      HasLines s.files p.paths ((pairKind.list entry log).map (·.path)) ∧
      HasLines s.files p.failures ((failureKind.list entry log).map (·.line)) := by
  obtain ⟨hd, hp, hf⟩ := h.read_ended hopen hlog hr
  obtain rfl := h.half_eq_none_of_ended hlog hr
  obtain ⟨hdocuments, hpaths, hfailures⟩ := h.lines hfaithful hlog
  rw [Option.toList_none, List.append_nil] at hdocuments
  exact ⟨hasLines_of_read hd hdocuments, hasLines_of_read hp hpaths,
    hasLines_of_read hf hfailures⟩

/-- The lines of the outputs are those of the calls, in the order of the
account. -/
theorem paired_of_logged {p : SinkPaths} {sinks : Sinks} {files : FileSystem}
    (hfaithful : Faithful setup.serialize) (hopen : Sinks.open_ files p = (.ok sinks, opened))
    (h : Traced setup paths opened sinks.locations calls entry s)
    (hlog : Logged entry log half s) :
    Paired p calls s (pairKind.list entry log) (half.bind (pairKind.at? entry))
      (failureKind.list entry log) where
  once := h.once
  nodup_pairs := pairKind.nodup_list hlog.nodup
  nodup_failures := failureKind.nodup_list hlog.nodup
  pair := h.mem_list_iff hlog pairKind
  failure := h.mem_list_iff hlog failureKind
  between := h.half_eq_some_iff hlog
  lock w hw := pairLock_of_halfWritten h.guarded ((h.half_eq_some_iff hlog w).mp hw).2
  written := by
    rw [← pairKind.list_append_toList]
    exact h.hasWritten hfaithful hlog
  done := by
    intro r hr
    refine ⟨(h.settled.ended r hr).2, ?_, h.isWritten_of_ended hr⟩
    rw [h.half_eq_none_of_ended hlog hr, Option.bind_none]
  closed r hr := h.hasLines hfaithful hopen hlog hr

/-- The lines of the outputs are those of the calls. -/
theorem paired {p : SinkPaths} {sinks : Sinks} {files : FileSystem}
    (hfaithful : Faithful setup.serialize) (hopen : Sinks.open_ files p = (.ok sinks, opened))
    (hdistinct : sinks.locations.Nodup)
    (h : Traced setup paths opened sinks.locations calls entry s) :
    ∃ pairs half failures, Paired p calls s pairs half failures := by
  obtain ⟨log, half, hlog⟩ := h.logged hdistinct
  exact ⟨_, _, _, h.paired_of_logged hfaithful hopen hlog⟩

end Traced
end

/-! ## A whole batch -/

/-- The outputs of a batch keep together. -/
structure KeepsTogether (files : FileSystem) (setup : Setup) (outputs : String)
    (found : List Path) (sinks : Sinks) (opened : FileSystem) (report : List Move → Report) :
    Prop where
  /-- In every state that the batch can come to, their lines are those of the
  calls. -/
  always : ∀ calls s, Reached setup (initial opened sinks (found.mergeSort Path.le)) calls s →
    ∃ pairs half failures, Paired (.of outputs) calls s pairs half failures
  /-- What a call writes is the document and the path of a file, or its path
  with a reason. -/
  writes : ∀ calls s, Reached setup (initial opened sinks (found.mergeSort Path.le)) calls s →
    ∀ c ∈ calls, ∃ p ∈ found, Writes setup files p c.2
  /-- The batch leaves the files of such a state in which it has ended, whatever
  it ends with; without files, it leaves empty outputs. -/
  ends : ∀ schedule,
    (∃ calls s r, Reached setup (initial opened sinks (found.mergeSort Path.le)) calls s ∧
      s.phase = .ended r ∧ (report schedule).result = s.outcome ∧
      (report schedule).files = s.files) ∨
    found = [] ∧ HasLines (report schedule).files (SinkPaths.of outputs).documents [] ∧
      HasLines (report schedule).files (SinkPaths.of outputs).paths [] ∧
      HasLines (report schedule).files (SinkPaths.of outputs).failures []

section

variable {files opened : FileSystem} {parser : SourceParser} {serialize : Serializer}
  {options : BatchOptions} {input outputs : String} {found : List Path} {sinks : Sinks}

/-- A batch with files ends, whatever its files are, and what the dispatcher
keeps up holds there. -/
theorem complete_dispatched (setup : Setup) (opened : FileSystem) (sinks : Sinks)
    {paths : List Path} (hne : paths ≠ []) (schedule : List Move) :
    (∃ counted pending,
        Dispatched setup paths counted pending (endState setup opened sinks paths schedule)) ∧
      ∃ r, (endState setup opened sinks paths schedule).phase = .ended r := by
  have hstep : ∀ s s', ((∃ counted pending, Dispatched setup paths counted pending s) ∧
      Guarded s) → Step setup s s' →
      (∃ counted pending, Dispatched setup paths counted pending s') ∧ Guarded s' := by
    rintro s s' ⟨⟨counted, pending, hd⟩, hguarded⟩ hstep
    exact ⟨hd.step hstep, hguarded.step hstep⟩
  have hrun := run_induction hstep schedule
    ⟨⟨_, _, dispatched_initial opened sinks hne⟩, guarded_initial opened sinks paths⟩
  obtain ⟨⟨counted, pending, hd⟩, hguarded⟩ := hrun
  exact ⟨(completeWithin_induction hstep _ ⟨⟨_, _, hd⟩, hguarded⟩).1,
    completeWithin_ended hd hguarded (Nat.le_refl _)⟩

theorem complete_ended (setup : Setup) (opened : FileSystem) (sinks : Sinks) {paths : List Path}
    (hne : paths ≠ []) (schedule : List Move) :
    ∃ r, (endState setup opened sinks paths schedule).phase = .ended r :=
  (complete_dispatched setup opened sinks hne schedule).2

theorem hasLines_nil (hopen : Sinks.open_ files (.of outputs) = (.ok sinks, opened))
    (hdistinct : sinks.locations.Nodup) :
    HasLines (sinks.close opened) (SinkPaths.of outputs).documents [] ∧
      HasLines (sinks.close opened) (SinkPaths.of outputs).paths [] ∧
      HasLines (sinks.close opened) (SinkPaths.of outputs).failures [] := by
  have hfiles : sinks.HaveFiles opened := Sinks.haveFiles_iff.mpr (Sinks.frame_open hopen).isFile
  obtain ⟨hd, hp, hf⟩ := Sinks.node?_close (Sinks.hold_open hopen hdistinct) hdistinct
  obtain ⟨hd, hp, hf⟩ := Sinks.read_opened hopen (Sinks.frame_close hfiles) hd hp hf
  exact ⟨hasLines_of_read hd (by simp), hasLines_of_read hp (by simp),
    hasLines_of_read hf (by simp)⟩

/-- **The outputs of a batch keep together.** -/
theorem runBatch_keepsTogether (hfound : findFiles files input = .ok found)
    (hopen : Sinks.open_ files (.of outputs) = (.ok sinks, opened))
    (hdistinct : sinks.locations.Nodup) (hfaithful : Faithful serialize) :
    KeepsTogether files (setupOf files parser serialize options) outputs found sinks opened
      fun schedule => runBatch files parser serialize options schedule input outputs where
  always := by
    intro calls s h
    obtain ⟨entry, htraced⟩ := h.traced hopen
    exact htraced.paired hfaithful hopen hdistinct
  writes := by
    intro calls s h c hc
    obtain ⟨entry, htraced⟩ := h.traced hopen
    obtain ⟨p, hp, hwrites⟩ := htraced.made c hc
    rw [List.mem_mergeSort] at hp
    exact ⟨p, hp, hwrites.congr (Sinks.frame_open hopen).workingDirectory⟩
  ends := by
    intro schedule
    by_cases hne : found = []
    · subst hne
      have hlines := hasLines_nil hopen hdistinct
      rw [(runBatch_of_nil hfound hopen schedule).2]
      exact .inr ⟨rfl, hlines⟩
    · obtain ⟨calls, hreached⟩ := exists_reached_complete _ _ schedule
      obtain ⟨r, hr⟩ := complete_ended _ opened sinks (mergeSort_ne_nil hne) schedule
      exact .inl ⟨calls, _, r, hreached, hr, runBatch_of_ne_nil hfound hopen hne schedule⟩

/-- A file that is accepted gets its call with a pair of lines. -/
theorem Feasible.exists_call {setup : Setup}
    (h : Feasible files setup input outputs found sinks opened) {i : Nat} {p : Path}
    (hp : (found.mergeSort Path.le)[i]? = some p) {document : String}
    (haccepts : Accepts setup files p document) :
    ∃ calls s r path document,
      Reached setup (initial opened sinks (found.mergeSort Path.le)) calls s ∧
      s.phase = .ended r ∧ (i, .pair path document) ∈ calls ∧
      Frame sinks.locations opened s.files := by
  have hmem : p ∈ found := List.mem_mergeSort.mp (List.mem_of_getElem? hp)
  have hlt := (List.getElem?_eq_some_iff.mp hp).1
  obtain ⟨hsound, hfinished⟩ := h.sound_endState (List.ne_nil_of_mem hmem) []
  obtain ⟨calls, hreached⟩ : ∃ calls,
      Reached setup (initial opened sinks (found.mergeSort Path.le)) calls
        (endState setup opened sinks (found.mergeSort Path.le) []) :=
    exists_reached_complete _ _ []
  obtain ⟨entry, htraced⟩ := hreached.traced h.isOpened
  obtain ⟨accepted, hdone⟩ := hfinished.isDone i hlt
  have haccepted : accepted = true := by
    obtain ⟨e, he, hentry⟩ := h.isEntryOf hmem
    have hagrees : Except.ok accepted
        = (entryAt setup files (found.mergeSort Path.le) i).map Entry.isPair :=
      hsound.agreed i _ hdone
    rw [entryAt, pathAt_of_getElem? hp, he] at hagrees
    cases hentry with
    | pair _ => exact Except.ok.inj hagrees
    | failure hrejects => exact absurd haccepts (hrejects document)
  subst haccepted
  have hagrees : Except.ok true = (entry i).map Entry.isPair := htraced.agreed i _ hdone
  cases hentry : entry i with
  | error stop =>
    rw [hentry] at hagrees
    cases hagrees
  | ok e =>
    rw [hentry] at hagrees
    have hcall : (i, e) ∈ calls := by
      rw [htraced.mem, isAt_of_stage? hdone]
      exact ⟨rfl, hentry⟩
    cases e with
    | pair path document =>
      exact ⟨calls, _, _, path, document, hreached, hfinished.phase, hcall, htraced.framed.frame⟩
    | failure path reason => cases hagrees

end

/-! ## A single source file -/

theorem faithful_writeDocument : Faithful writeDocument :=
  fun _ _ h => (Except.ok.inj h).symm

theorem runBatch_keepsTogether_source : ∃ sinks opened,
    findFiles sourceFiles "a.py" = .ok [Path.ofText "a.py"] ∧
    Sinks.open_ sourceFiles (.of "out") = (.ok sinks, opened) ∧ sinks.locations.Nodup ∧
    Faithful writeDocument ∧
    KeepsTogether sourceFiles (setupOf sourceFiles oneNodeParser writeDocument anySize) "out"
      [Path.ofText "a.py"] sinks opened fun schedule =>
        runBatch sourceFiles oneNodeParser writeDocument anySize schedule "a.py" "out" := by
  obtain ⟨opened, hopen⟩ := open_source
  have hfound := findFiles_single status_source
  exact ⟨_, opened, hfound, hopen, by decide, faithful_writeDocument,
    runBatch_keepsTogether hfound hopen (by decide) faithful_writeDocument⟩

theorem write_ne (records : List Record) : Document.write records ≠ "a.py" := by
  intro hwrite
  have hhead := congrArg (fun s : String => s.toList.head?) hwrite
  simp [Document.write, Document.arrayText] at hhead

/-- Outputs that are one file do not keep together. -/
theorem not_keepsTogether_linked : ∃ sinks opened,
    findFiles linkedFiles "a.py" = .ok [Path.ofText "a.py"] ∧
    Sinks.open_ linkedFiles (.of "out") = (.ok sinks, opened) ∧ Faithful writeDocument ∧
    ¬ KeepsTogether linkedFiles (setupOf linkedFiles oneNodeParser writeDocument anySize) "out"
      [Path.ofText "a.py"] sinks opened fun schedule =>
        runBatch linkedFiles oneNodeParser writeDocument anySize schedule "a.py" "out" := by
  obtain ⟨opened, hopen⟩ := open_linked
  have hfeasible := feasible_single status_linked hopen (by decide)
  refine ⟨_, opened, hfeasible.isFound, hopen, faithful_writeDocument, fun h => ?_⟩
  obtain ⟨text, haccepts⟩ := accepts_linked
  have hfirst : ([Path.ofText "a.py"].mergeSort Path.le)[0]? = some (Path.ofText "a.py") := by
    rw [List.mergeSort_singleton]
    rfl
  obtain ⟨calls, s, r, path, document, hreached, hr, hcall, hframe⟩ :=
    hfeasible.exists_call hfirst haccepts
  obtain ⟨pairs, half, failures, hpaired⟩ := h.always calls s hreached
  obtain ⟨hdocuments, hpaths, -⟩ := hpaired.closed r hr
  have hlines := hasLines_unique (read_of_same_location hopen hframe rfl) hdocuments hpaths
  have hmem : ⟨0, path, document⟩ ∈ pairs :=
    (hpaired.pair ⟨0, path, document⟩).mpr ⟨hcall, (hpaired.done r hr).2.2 _ hcall⟩
  have hsame : document = path := List.map_inj_left.mp hlines _ hmem
  obtain ⟨p, hp, hwrites⟩ := h.writes calls s hreached _ hcall
  obtain rfl := List.mem_singleton.mp hp
  have hshown : shownPath (setupOf linkedFiles oneNodeParser writeDocument anySize) linkedFiles
      (Path.ofText "a.py") = "a.py" := by decide
  subst hsame
  generalize hentry : Entry.pair document document = e at hwrites
  cases hwrites with
  | pair _ hdocument =>
    obtain ⟨hpath, hsame⟩ := Entry.pair.inj hentry
    rw [hshown] at hpath
    rw [← hsame, hpath] at hdocument
    exact write_ne _ (Except.ok.inj hdocument)
  | failure _ => cases hentry

end Batch
end SyntaxCorpus
