/-
SyntaxCorpus.Proofs.Batch.WorkedOut — what workers work out, and when.

The parser is called once for a file, with what the file holds at that moment.
A file that is an output of the batch itself may hold something else at every
moment; what is worked out for it is nevertheless the result of one moment.

* `parseFile_cases`, `workOut_error` — what ends a batch at a file: with a parser
  that gives only plain trees, nothing but an interrupt.
* `workOut_interrupted_iff` — a worker is interrupted exactly if its call of the
  parser is.
* `WorkedOut` — what was worked out for the file at a position, at some moment.
* `Reached.fromWork` — that is so for every call to write, and for every file
  that ends the batch.
* `WorkedOut.isInterrupt` — such a file was interrupted, if the parser gives only
  plain trees.
* `Reached.raises_iff` — a parser has been interrupted exactly if a file is done
  with an interrupt.
-/
import SyntaxCorpus.Proofs.Batch.Pairing

namespace SyntaxCorpus

/-- Whether a parser gives only trees of text labels with text or absent values.
It may fail in any way that has a text. -/
structure SourceParser.IsPlain (parser : SourceParser) : Prop where
  tree : ∀ call t, parser.parse call = .tree t → t.all RawLabel.isPlain = true
  told : ∀ call kind raised, parser.parse call ≠ .untold kind raised

/-- A path that leads somewhere leads to the same place when files have been
written. -/
theorem FileSystem.Frame.exists_status {ls : List Location} {before after : FileSystem}
    (h : FileSystem.Frame ls before after) {path : String} {l : Location} {n : Node}
    (hstatus : before.status path = .ok (l, n)) : ∃ n', after.status path = .ok (l, n') := by
  rcases h.node? (FileSystem.node?_of_status hstatus) with hn | ⟨-, -, content, hn⟩
  · exact ⟨n, h.status hstatus hn⟩
  · exact ⟨_, h.status hstatus hn⟩

namespace Batch

open FileSystem (Frame)

/-! ## What ends a batch at a file -/

section

variable {setup : Setup} {fs : FileSystem} {p : Path} {text : String}

/-- A file is parsed by a call of the parser, or it has no tree for a reason that
is no interrupt. -/
theorem parseFile_cases (fs : FileSystem) (parser : SourceParser) (origin : Origin)
    (settings : ParseSettings) (path : String) :
    (∃ call, parseFile fs parser origin settings path = parseSource parser origin call) ∨
      ∃ e, parseFile fs parser origin settings path = (.error e, []) ∧
        ((∃ f, e = .failed f) ∨ e = .nullCharacter ∧ fileSource fs path = .error e) := by
  have hstage := parseFile_stage fs parser origin settings path
  generalize parseFile fs parser origin settings path = outcome at hstage
  cases hstage with
  | language _ => exact .inr ⟨_, rfl, .inl ⟨_, rfl⟩⟩
  | @read language cause _ hread =>
    refine .inr ⟨_, rfl, ?_⟩
    by_cases hcause : cause = .nullCharacter
    · subst hcause
      have hsource : fileSource fs path = .error (readFailure path .nullCharacter) := by
        rw [fileSource, hread]
        rfl
      exact .inr ⟨rfl, hsource⟩
    · obtain ⟨f, hf, -⟩ := message_of_readFailure path hcause
      exact .inl ⟨f, hf⟩
  | call _ _ => exact .inl ⟨_, rfl⟩

/-- A call of the parser gives a tree, fails, crashes without a text, or is
interrupted. -/
theorem parseSource_cases (parser : SourceParser) (origin : Origin) (call : ParseCall) :
    (∃ t, parser.parse call = .tree t ∧ (parseSource parser origin call).1 = .ok t) ∨
      (∃ f, (parseSource parser origin call).1 = .error (.failed f)) ∨
      (∃ kind raised, parser.parse call = .untold kind raised ∧
        (parseSource parser origin call).1 = .error (.escaped raised)) ∨
      ∃ text, parser.parse call = .interrupt text ∧
        (parseSource parser origin call).1 = .error (.interrupted text) := by
  unfold parseSource
  cases parser.parse call with
  | tree t => exact .inl ⟨t, rfl, rfl⟩
  | failure message => exact .inr (.inl ⟨_, rfl⟩)
  | crash c => exact .inr (.inl ⟨_, rfl⟩)
  | untold kind raised => exact .inr (.inr (.inl ⟨kind, raised, rfl, rfl⟩))
  | interrupt text => exact .inr (.inr (.inr ⟨text, rfl, rfl⟩))

theorem not_hasLineBreak_of_error {stop : FileStop} (h : (workOut setup fs p).1 = .error stop) :
    hasLineBreak (shownPath setup fs p) = false := by
  rw [← Bool.not_eq_true]
  intro hbreak
  cases (workOut_of_broken hbreak).symm.trans h

/-- With a parser that gives only plain trees, a file ends the batch by an
interrupt or not at all. -/
theorem workOut_error (hplain : setup.parser.IsPlain) (hproper : p.IsProper) {l : Location}
    {n : Node} (hstatus : fs.status p.text = .ok (l, n)) {stop : FileStop}
    (h : (workOut setup fs p).1 = .error stop) : ∃ text, stop = .interrupted text := by
  rw [workOut_of_unbroken (not_hasLineBreak_of_error h)] at h
  rcases parseFile_cases fs setup.parser .worker setup.options.settings p.text with
    ⟨call, heq⟩ | ⟨e, heq, ⟨f, rfl⟩ | ⟨rfl, hsource⟩⟩
  · rw [heq] at h
    rcases parseSource_cases setup.parser .worker call with
      ⟨t, ht, hresult⟩ | ⟨f, hresult⟩ | ⟨kind, raised, hcrash, -⟩ | ⟨text, -, hresult⟩
    · rw [hresult, outcomeOf, flattenRaw_of_isPlain (hplain.tree call t ht)] at h
      cases h
    · rw [hresult] at h
      cases h
    · exact (hplain.told call kind raised hcrash).elim
    · rw [hresult] at h
      exact ⟨text, (Except.error.inj h).symm⟩
  · rw [heq] at h
    cases h
  · obtain ⟨f, hf⟩ := exists_failed_of_fileSource hproper hstatus hsource
    cases hf

/-! ## Interrupts -/

theorem parse_not_mem_entryOf (serialize : Serializer) (outcome : Outcome) (call : ParseCall) :
    Event.parse call ∉ (entryOf serialize outcome).2 := by
  cases outcome with
  | rejected r => simp [entryOf, rejectedEntry]
  | accepted path records =>
    cases hserialize : serialize records with
    | ok document => simp [entryOf, hserialize]
    | error e => simp [entryOf, hserialize, rejectedEntry]

/-- A worker calls the parser for a file whose path is on one line. -/
theorem parse_mem_workOut_iff {call : ParseCall} :
    Event.parse call ∈ (workOut setup fs p).2 ↔
      hasLineBreak (shownPath setup fs p) = false ∧
        Event.parse call
          ∈ (parseFile fs setup.parser .worker setup.options.settings p.text).2 := by
  have hprocess : Event.parse call ∈ (workOut setup fs p).2 ↔ Event.parse call
      ∈ (processFile fs setup.parser .worker setup.options setup.root p).2 := by
    unfold workOut
    generalize processFile fs setup.parser .worker setup.options setup.root p = result
    obtain ⟨_ | outcome, events⟩ := result
    · rfl
    · simp [parse_not_mem_entryOf]
  rw [hprocess, processFile]
  dsimp only
  rw [shownPath]
  cases hasLineBreak (relativePath fs p setup.root) <;> simp

theorem parse_mem_parseSource_iff {parser : SourceParser} {origin : Origin}
    {call call' : ParseCall} :
    Event.parse call' ∈ (parseSource parser origin call).2 ↔ call' = call := by
  unfold parseSource
  split <;> simp

theorem outcomeOf_interrupted {options : BatchOptions} {path : String}
    {parsed : Except ParseStop (Tree RawLabel)}
    (h : outcomeOf options path parsed = .error (.interrupted text)) :
    parsed = .error (.interrupted text) := by
  unfold outcomeOf at h
  split at h
  · cases h
  · cases h
    rfl
  · cases h
  · cases h
  · split at h <;> cases h

/-- A worker is interrupted exactly if its call of the parser is. -/
theorem workOut_interrupted_iff :
    (workOut setup fs p).1 = .error (.interrupted text) ↔
      ∃ call, Event.parse call ∈ (workOut setup fs p).2 ∧
        setup.parser.parse call = .interrupt text := by
  simp only [parse_mem_workOut_iff]
  constructor
  · intro h
    have hbreak := not_hasLineBreak_of_error h
    rw [workOut_of_unbroken hbreak] at h
    have hparsed : (parseFile fs setup.parser .worker setup.options.settings p.text).1
        = .error (.interrupted text) := by
      generalize houtcome : outcomeOf setup.options (shownPath setup fs p) _ = outcome at h
      cases outcome with
      | ok outcome => cases h
      | error stop =>
        obtain rfl : stop = .interrupted text := Except.error.inj h
        exact outcomeOf_interrupted houtcome
    rcases parseFile_cases fs setup.parser .worker setup.options.settings p.text with
      ⟨call, heq⟩ | ⟨e, heq, ⟨f, rfl⟩ | ⟨rfl, -⟩⟩
    · rw [heq] at hparsed ⊢
      refine ⟨call, ⟨hbreak, parse_mem_parseSource_iff.mpr rfl⟩, ?_⟩
      rcases parseSource_cases setup.parser .worker call with
        ⟨t, -, hresult⟩ | ⟨f, hresult⟩ | ⟨kind, raised, -, hresult⟩ | ⟨text', hparse, hresult⟩
      · rw [hresult] at hparsed
        cases hparsed
      · rw [hresult] at hparsed
        cases hparsed
      · rw [hresult] at hparsed
        cases hparsed
      · rw [hresult] at hparsed
        cases hparsed
        exact hparse
    · rw [heq] at hparsed
      cases hparsed
    · rw [heq] at hparsed
      cases hparsed
  · rintro ⟨call, ⟨hbreak, hevent⟩, hparse⟩
    rw [workOut_of_unbroken hbreak]
    rcases parseFile_cases fs setup.parser .worker setup.options.settings p.text with
      ⟨call', heq⟩ | ⟨e, heq, -⟩
    · rw [heq, parse_mem_parseSource_iff] at hevent
      subst hevent
      rw [heq, parseSource, hparse]
      rfl
    · rw [heq] at hevent
      cases hevent

end

/-! ## What was worked out -/

/-- What was worked out for the file at a position, at a moment of a batch that
writes to nothing but some locations. -/
def WorkedOut (setup : Setup) (paths : List Path) (opened : FileSystem)
    (locations : List Location) (i : Nat) (result : Except FileStop Entry) : Prop :=
  ∃ p now, paths[i]? = some p ∧ Frame locations opened now ∧ (workOut setup now p).1 = result

/-- What a file has come to was worked out for it: what its worker writes, and
what the batch ends with. -/
structure FromWork (setup : Setup) (paths : List Path) (opened : FileSystem)
    (locations : List Location) (calls : List Call) (s : State) : Prop where
  call : ∀ c ∈ calls, WorkedOut setup paths opened locations c.1 (.ok c.2)
  stop : ∀ i stop, s.stage? i = some (.done (.error stop)) →
    WorkedOut setup paths opened locations i (.error stop)

/-- Whether all files of a batch lead somewhere. -/
def LeadSomewhere (files : FileSystem) (paths : List Path) : Prop :=
  ∀ p ∈ paths, p.IsProper ∧ ∃ l n, files.status p.text = .ok (l, n)

theorem leadSomewhere_of_found {files : FileSystem} {input : String}
    {found : List Path} (hfound : findFiles files input = .ok found) :
    LeadSomewhere files (found.mergeSort Path.le) := by
  intro p hp
  obtain ⟨hproper, l, content, hstatus⟩ := findFiles_isFile hfound p (List.mem_mergeSort.mp hp)
  exact ⟨hproper, l, _, hstatus⟩

/-- Whether the parser was interrupted. -/
def Raises (parser : SourceParser) (events : List Event) : Prop :=
  ∃ call text, Event.parse call ∈ events ∧ parser.parse call = .interrupt text

section

variable {setup : Setup} {start s s' s₁ : State} {calls : List Call} {paths : List Path}
  {opened : FileSystem} {locations : List Location} {job : Nat} {path : Path}
  {before after : Stage}

theorem FromWork.of_undisturbed (h : FromWork setup paths opened locations calls s)
    (hsame : Undisturbed s s') : FromWork setup paths opened locations calls s' :=
  ⟨h.call, fun i stop hi => h.stop i stop ((hsame.stage i _ rfl).mp hi)⟩

/-- The step in which a worker works out its file settles what the file comes
to. -/
theorem FromWork.worker (h : FromWork setup paths opened locations calls s)
    (hpath : paths[job]? = some path) (hframe : Frame locations opened s.files)
    (hjob : s.jobs[job]? = some ⟨path, before⟩)
    (hstep : WorkerStep setup s job path before after s₁) :
    FromWork setup paths opened locations (calls ++ callsAt job after)
      (s₁.setStage job after) := by
  have hwork : ∀ {result events}, workOut setup s.files path = (result, events) →
      WorkedOut setup paths opened locations job result := by
    intro result events hresult
    exact ⟨path, s.files, hpath, hframe, by rw [hresult]⟩
  constructor
  · intro c hc
    rcases List.mem_append.mp hc with hc | hc
    · exact h.call c hc
    · cases hstep with
      | work hresult =>
        obtain rfl := List.mem_singleton.mp hc
        exact hwork hresult
      | _ => simp [callsAt] at hc
  · intro i stop hi
    by_cases heq : i = job
    · subst heq
      rw [hstep.stage?_self hjob] at hi
      obtain rfl := Option.some.inj hi
      cases hstep with
      | fail hresult => exact hwork hresult
    · rw [hstep.stage?_of_ne heq] at hi
      exact h.stop i stop hi

/-- What every file has come to was worked out for it. -/
theorem Reached.fromWork {p : SinkPaths} {sinks : Sinks} {files : FileSystem}
    (hopen : Sinks.open_ files p = (.ok sinks, opened))
    (h : Reached setup (initial opened sinks paths) calls s) :
    FromWork setup paths opened sinks.locations calls s := by
  induction h with
  | start => exact ⟨by simp, fun i stop hi => by cases hi⟩
  | worker hreached hjob hstep ih =>
    obtain ⟨entry, htraced⟩ := hreached.traced hopen
    exact ih.worker (getElem?_of_handedOut htraced.handedOut hjob) htraced.framed.frame hjob hstep
  | dispatcher _ _ hsame ih => exact ih.of_undisturbed hsame
  | interrupt text _ _ ih => exact ih.of_undisturbed (undisturbed_stopAt _ _)

/-- With a parser that gives only plain trees, nothing but an interrupt ends a
batch at a file. -/
theorem WorkedOut.isInterrupt {files : FileSystem} {sinks : Sinks} {p : SinkPaths} {i : Nat}
    (hopen : Sinks.open_ files p = (.ok sinks, opened)) (hplain : setup.parser.IsPlain)
    (hfiles : LeadSomewhere files paths) {stop : FileStop}
    (h : WorkedOut setup paths opened sinks.locations i (.error stop)) :
    ∃ text, stop = .interrupted text := by
  obtain ⟨p, now, hp, hframe, hwork⟩ := h
  obtain ⟨hproper, l, n, hstatus⟩ := hfiles p (List.mem_of_getElem? hp)
  obtain ⟨n', hstatus'⟩ :=
    ((Sinks.frame_open hopen).trans_same hframe).exists_status hstatus
  exact workOut_error hplain hproper hstatus' hwork

/-! ## Interrupts of a batch -/

/-- Whether a file is done with an interrupt. -/
def State.IsInterrupted (s : State) : Prop :=
  ∃ i text, s.stage? i = some (.done (.error (.interrupted text)))

theorem Raises.append_iff {parser : SourceParser} {events more : List Event} :
    Raises parser (events ++ more) ↔ Raises parser events ∨ Raises parser more := by
  simp only [Raises, List.mem_append, or_and_right, exists_or]

theorem not_raises_of_log {parser : SourceParser} {events : List Event}
    (h : ∀ call, Event.parse call ∉ events) : ¬ Raises parser events := by
  rintro ⟨call, text, hcall, -⟩
  exact h call hcall

theorem Undisturbed.isInterrupted_iff (h : Undisturbed s s') :
    s'.IsInterrupted ↔ s.IsInterrupted :=
  exists_congr fun i => exists_congr fun _ => h.stage i _ rfl

namespace WorkerStep

theorem isInterrupted_iff (h : WorkerStep setup s job path before after s₁)
    (hjob : s.jobs[job]? = some ⟨path, before⟩) :
    (s₁.setStage job after).IsInterrupted ↔
      s.IsInterrupted ∨ ∃ text, after = .done (.error (.interrupted text)) := by
  constructor
  · rintro ⟨i, text, hi⟩
    by_cases heq : i = job
    · rw [heq, h.stage?_self hjob] at hi
      exact .inr ⟨text, Option.some.inj hi⟩
    · rw [h.stage?_of_ne heq] at hi
      exact .inl ⟨i, text, hi⟩
  · rintro (⟨i, text, hi⟩ | ⟨text, rfl⟩)
    · exact ⟨i, text, h.stage?_of_over hjob hi rfl⟩
    · exact ⟨job, text, h.stage?_self hjob⟩

/-- The parser is interrupted in the step that brings the file to its
interrupt. -/
theorem raises_iff (h : WorkerStep setup s job path before after s₁) :
    Raises setup.parser s₁.events.toList ↔
      Raises setup.parser s.events.toList ∨
        ∃ text, after = .done (.error (.interrupted text)) := by
  have hnote : ∀ {result events}, workOut setup s.files path = (result, events) →
      (Raises setup.parser (s.note events).events.toList ↔
        Raises setup.parser s.events.toList ∨
          ∃ text, result = .error (.interrupted text)) := by
    intro result events hresult
    have hevents : (s.note events).events.toList = s.events.toList ++ events := by
      simp [State.note]
    rw [hevents, Raises.append_iff]
    refine or_congr_right ?_
    rw [Raises, exists_comm]
    refine exists_congr fun text => ?_
    have hiff : (workOut setup s.files path).1 = .error (.interrupted text) ↔ _ :=
      workOut_interrupted_iff
    rw [hresult] at hiff
    exact hiff.symm
  have hlock : ∀ e holder, (s.setLock e holder).events = s.events := by
    intro e holder
    unfold State.setLock
    split <;> rfl
  cases h with
  | work hwork => simpa using hnote hwork
  | fail hwork => simpa using hnote hwork
  | lock _ => simp [hlock]
  | unlock e => simp [hlock]
  | _ => simp [State.setSinks]

end WorkerStep

theorem raises_stopAt_iff {parser : SourceParser} (s : State) (stop : FileStop) :
    Raises parser (stopAt s stop).events.toList ↔ Raises parser s.events.toList := by
  cases stop with
  | interrupted text =>
    have hlog : ¬ Raises parser [.log (interruptEntry s.inFlight.length)] :=
      not_raises_of_log (by simp)
    have hevents : (stopAt s (.interrupted text)).events.toList
        = s.events.toList ++ [.log (interruptEntry s.inFlight.length)] := by
      simp [stopAt, State.note]
    rw [hevents, Raises.append_iff, or_iff_left hlog]
  | invalidTree ps => rfl
  | nullCharacter => rfl
  | escaped raised => rfl

theorem Step.raises_iff (hstep : Step setup s s')
    (h : Raises setup.parser s.events.toList ↔ s.IsInterrupted) :
    Raises setup.parser s'.events.toList ↔ s'.IsInterrupted := by
  cases hstep with
  | worker hjob hworker =>
    rw [hworker.isInterrupted_iff hjob, ← h]
    exact hworker.raises_iff
  | submit _ _ _ _ => rw [(undisturbed_submit s _ _ _).isInterrupted_iff]; exact h
  | pickSome _ _ _ _ _ => exact h
  | pickAll _ _ _ _ _ => exact h
  | @count job rest accepted _ _ =>
    have hlog : ¬ Raises setup.parser
        (((s.tally.add accepted).progress setup.options.progressInterval).map .log) :=
      not_raises_of_log (by simp)
    have hevents : ({ s with tally := s.tally.add accepted, picked := rest }.note
        (((s.tally.add accepted).progress setup.options.progressInterval).map
          Event.log)).events.toList = s.events.toList
          ++ ((s.tally.add accepted).progress setup.options.progressInterval).map Event.log := by
      simp [State.note]
    rw [hevents, Raises.append_iff, or_iff_left hlog]
    exact h
  | stop _ _ =>
    rw [raises_stopAt_iff, (undisturbed_stopAt s _).isInterrupted_iff]
    exact h
  | finish _ _ => exact h

/-- The parser has been interrupted exactly if a file is done with an
interrupt. -/
theorem Reached.raises_iff {files : FileSystem} {sinks : Sinks}
    (h : Reached setup (initial files sinks paths) calls s) :
    Raises setup.parser s.events.toList ↔ s.IsInterrupted := by
  induction h with
  | start =>
    constructor
    · rintro ⟨call, text, hcall, -⟩
      exact absurd hcall (by simp [initial])
    · rintro ⟨i, text, hi⟩
      cases hi
  | worker _ hjob hstep ih => exact (Step.worker hjob hstep).raises_iff ih
  | dispatcher _ hstep _ ih => exact hstep.raises_iff ih
  | interrupt text _ _ ih =>
    rw [raises_stopAt_iff, (undisturbed_stopAt _ _).isInterrupted_iff]
    exact ih

end
end Batch
end SyntaxCorpus
