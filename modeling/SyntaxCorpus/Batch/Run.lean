/-
SyntaxCorpus.Batch.Run — a batch from its input to its outputs.

The files of an input are sorted and the outputs made empty before any file is
handed out. A schedule says which moves the dispatcher and the workers make
first; when it is used up, they go on in a fixed order until the batch has
ended.

* `nextMove` — the move that is made without a schedule: files are handed out
  as long as that is possible, and then worked on one by one.
* `workOn`, `remaining` — bounds on the steps of the workers and on the number
  of moves to the end.
* `complete` — a batch brought to its end.
* `runBatch` — the result of a batch, the files that it leaves, and what was
  done on the way.
-/
import SyntaxCorpus.Batch.Machine
import SyntaxCorpus.Discovery

namespace SyntaxCorpus.Batch

/-- The worker that goes on next: one that has a lock, or the first busy
one. -/
def nextWorker? (s : State) : Option Nat :=
  s.pairLock <|> s.failureLock <|> s.jobs.findIdx? (·.stage.isBusy)

/-- The move that is made without a schedule. -/
def nextMove (setup : Setup) (s : State) : Move :=
  match s.picked, s.phase, s.waiting with
  | _ :: _, _, _ => .count
  | [], phase, waiting =>
    if phase matches .dispatching && !waiting.isEmpty
        && s.inFlight.length < setup.options.workers then .submit
    else
      match nextWorker? s, s.firstQueued? with
      | some job, _ => .advance job
      | none, some _ => .start
      | none, none => if phase matches .dispatching then .pick s.inFlight else .finish

/-- How many steps a worker takes for a file from a stage on, at most. -/
def Stage.remaining : Stage → Nat
  | queued => 6
  | running => 5
  | ready _ => 4
  | locked _ => 3
  | halfWritten .. => 2
  | written _ => 1
  | done _ => 0
  | cancelled => 0

/-- How many steps workers take for files that were handed out, at most. -/
def workOn : List Job → Nat
  | [] => 0
  | job :: jobs => job.stage.remaining + workOn jobs

/-- A bound on the number of moves to the end. A file that is not handed out
takes ten moves at most: one to hand it out, six by its worker, one to pick and
one to count it. -/
def remaining (s : State) : Nat :=
  10 * s.waiting.length + workOn s.jobs + s.picked.length +
    match s.phase with
    | .dispatching => 2 * s.inFlight.length + 2
    | .draining => 1
    | .stopping _ => 1
    | .ended _ => 0

/-- At most `fuel` moves without a schedule. -/
def completeWithin (setup : Setup) : Nat → State → State
  | 0, s => s
  | fuel + 1, s =>
    match step setup s (nextMove setup s) with
    | some s => completeWithin setup fuel s
    | none => s

/-- The end of a batch, reached without a schedule. -/
def complete (setup : Setup) (s : State) : State := completeWithin setup (remaining s) s

/-- The state in which nothing is handed out yet. -/
def initial (files : FileSystem) (sinks : Sinks) (paths : List Path) : State where
  files := files
  sinks := sinks
  phase := .dispatching
  tally := { total := paths.length }
  waiting := paths
  jobs := []
  inFlight := []
  picked := []
  pairLock := none
  failureLock := none
  events := #[]

/-- Why a batch has no result. -/
inductive Failure
  | discovery (e : DiscoveryError)
  | sinks (e : SinkOpenError)
  | stopped (stop : FileStop)
  deriving DecidableEq

/-- A finished batch. -/
structure Report where
  result : Except Failure Tally
  files : FileSystem
  events : List Event

/-- A log entry of the main thread. -/
def logged (level : Level) (message : String) : Event := .log { level := level, message := message }

/-- The log entry at the start of a batch. -/
def startEvent (total : Nat) : Event := logged .info s!"starting to process {total} input file(s)"

/-- The log entry of a batch without files. -/
def noFilesEvent (input : String) : Event :=
  logged .warning s!"no files match {Text.quoted input}"

/-- The log entry at the end of a batch. -/
def endEvent (t : Tally) : Event := logged .info s!"accepted {t.accepted}/{t.total} file(s)"

/-- The result of a state: the tally, or what the batch was stopped by. -/
def State.outcome (s : State) : Except Failure Tally :=
  match s.phase with
  | .stopping stop | .ended (.error stop) => .error (.stopped stop)
  | _ => .ok s.tally

/-- The files handed out and worked on, for outputs that are open. -/
def processAll (setup : Setup) (schedule : List Move) (files : FileSystem) (sinks : Sinks)
    (paths : List Path) : Report :=
  let s := complete setup (run setup (initial files sinks paths) schedule)
  { result := s.outcome, files := s.files, events := s.events.toList }

/-- A batch whose files are known. -/
def processFiles (setup : Setup) (schedule : List Move) (files : FileSystem)
    (input outputs : String) (paths : List Path) : Report :=
  match Sinks.open_ files (.of outputs) with
  | (.error e, files) => ⟨.error (.sinks e), files, []⟩
  | (.ok sinks, files) =>
    let report :=
      if paths.isEmpty then
        { result := .ok {}, files := sinks.close files, events := [noFilesEvent input] }
      else processAll setup schedule files sinks paths
    match report.result with
    | .ok t => { report with events := report.events ++ [endEvent t] }
    | .error _ => report

/-- A batch: every file of the input, written to outputs whose paths start with
`outputs`. Errors of the input and of the outputs come before any file is
worked on. -/
def runBatch (files : FileSystem) (parser : SourceParser) (serialize : Serializer)
    (options : BatchOptions) (schedule : List Move) (input outputs : String) : Report :=
  match findFiles files input with
  | .error e => ⟨.error (.discovery e), files, []⟩
  | .ok found =>
    let paths := found.mergeSort Path.le
    let setup : Setup := ⟨parser, serialize, options, ⟨.single, files.workingDirectory⟩⟩
    let report := processFiles setup schedule files input outputs paths
    { report with
      events := .log (searchEntry input paths.length) :: startEvent paths.length ::
        report.events }

end SyntaxCorpus.Batch
