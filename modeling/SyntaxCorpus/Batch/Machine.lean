/-
SyntaxCorpus.Batch.Machine — the steps of a batch.

A dispatcher hands the files to workers, in order, and keeps at most as many
of them in flight as there are workers. A worker works out what to write for
its file and writes it under a lock: one lock for the two lines of an accepted
file, one for the line of a rejected file. The dispatcher waits for files that
are done and counts them. A file may end the whole batch: then no more files
are handed out, the dispatcher waits for the workers, and only then are the
outputs closed.

A move is one step of one of them. A schedule is a list of moves; a move that
is not possible when its turn comes is passed over.

* `Job`, `Stage` — a file that was handed out, and how far it is.
* `State` — everything that a move can change.
* `step` — a move, if it is possible.
* `run` — a schedule.
-/
import SyntaxCorpus.Batch.Outcome
import SyntaxCorpus.Batch.Sinks
import SyntaxCorpus.Batch.Tally
import SyntaxCorpus.Export

namespace SyntaxCorpus.Batch

/-- What is written for a file. -/
inductive Entry
  | pair (path document : String)
  | failure (path reason : String)
  deriving DecidableEq

/-- Whether it is written for an accepted file. -/
def Entry.isPair : Entry → Bool
  | pair .. => true
  | failure .. => false

/-- How far a file is. -/
inductive Stage
  /-- No worker has started with it. -/
  | queued
  | running
  /-- It is known what to write. -/
  | ready (e : Entry)
  /-- The worker has the lock that it needs. -/
  | locked (e : Entry)
  /-- The document is written, and its path is not. -/
  | halfWritten (path document : String)
  /-- Everything is written, and the worker still has the lock. -/
  | written (e : Entry)
  /-- Whether the file was accepted, or what the batch ends with. -/
  | done (result : Except FileStop Bool)
  /-- The batch ended before a worker started with it. -/
  | cancelled

/-- Whether nothing more happens with a file. -/
def Stage.isOver : Stage → Bool
  | done _ | cancelled => true
  | _ => false

/-- Whether a worker is busy with a file. -/
def Stage.isBusy : Stage → Bool
  | queued | done _ | cancelled => false
  | _ => true

/-- Whether no worker has started with a file. -/
def Stage.isQueued : Stage → Bool
  | queued => true
  | _ => false

/-- A file that was handed out. -/
structure Job where
  path : Path
  stage : Stage

/-- What the dispatcher is at. -/
inductive Phase
  /-- It hands out files, and counts those that are done when it has to wait. -/
  | dispatching
  /-- All files are handed out and done; it counts the rest. -/
  | draining
  /-- A file ends the batch; it waits for the workers. -/
  | stopping (stop : FileStop)
  | ended (result : Except FileStop Unit)

/-- What a batch works with. -/
structure Setup where
  parser : SourceParser
  serialize : Serializer
  options : BatchOptions
  /-- The directory that the paths in the outputs start from. -/
  root : Path

/-- The state of a batch. -/
structure State where
  files : FileSystem
  sinks : Sinks
  phase : Phase
  tally : Tally
  /-- The files that are not handed out yet. -/
  waiting : List Path
  /-- The files that were handed out, in order; a file is known by its
  position here. -/
  jobs : List Job
  /-- The files that were handed out and not picked yet. -/
  inFlight : List Nat
  /-- The files that were picked when they were done, and are to be counted. -/
  picked : List Nat
  /-- The file whose worker has the lock for pairs of lines. -/
  pairLock : Option Nat
  /-- The file whose worker has the lock for failures. -/
  failureLock : Option Nat
  events : Array Event

/-- A step of the dispatcher or of a worker. -/
inductive Move
  /-- The dispatcher hands out the next file. -/
  | submit
  /-- A worker starts with the first file that waits for one. -/
  | start
  /-- The worker of a file takes its next step. -/
  | advance (job : Nat)
  /-- The dispatcher waits, and picks files that are done, in some order. -/
  | pick (jobs : List Nat)
  /-- The dispatcher counts the next file that it has picked. -/
  | count
  /-- The workers are done, and the outputs are closed. -/
  | finish
  deriving DecidableEq

namespace State

/-- The stage of a file. -/
def stage? (s : State) (job : Nat) : Option Stage := s.jobs[job]?.map (·.stage)

/-- The state with a file at another stage. -/
def setStage (s : State) (job : Nat) (stage : Stage) : State :=
  { s with jobs := s.jobs.modify job fun j => { j with stage := stage } }

/-- Whether a file is done. -/
def isDone (s : State) (job : Nat) : Bool :=
  match s.stage? job with
  | some (.done _) => true
  | _ => false

/-- The number of busy workers. -/
def busy (s : State) : Nat := s.jobs.countP (·.stage.isBusy)

/-- The first file that waits for a worker. -/
def firstQueued? (s : State) : Option Nat := s.jobs.findIdx? (·.stage.isQueued)

/-- The worker that has the lock for an entry. -/
def lock (s : State) (e : Entry) : Option Nat :=
  if e.isPair then s.pairLock else s.failureLock

/-- The state with the lock for an entry taken or released. -/
def setLock (s : State) (e : Entry) (holder : Option Nat) : State :=
  if e.isPair then { s with pairLock := holder } else { s with failureLock := holder }

/-- The state with other outputs. -/
def setSinks (s : State) (written : FileSystem × Sinks) : State :=
  { s with files := written.1, sinks := written.2 }

/-- The state with more events. -/
def note (s : State) (events : List Event) : State :=
  { s with events := s.events ++ events }

end State

/-- The log entry of a rejected file. -/
def rejectionEntry (r : Rejection) : LogEntry where
  level := .debug
  message := s!"rejected {r.path} ({r.kind.name}): {r.reason}"
  origin := .worker

/-- The log entry of a file whose records have no document. -/
def skipEntry (path : String) (e : SerializationError) : LogEntry where
  level := .error
  message := s!"skipping {path}: {e.message}"
  origin := .worker

/-- What is written for a rejected file, and its log entry. -/
def rejectedEntry (r : Rejection) : Entry × List Event :=
  (.failure r.path r.reason, [.log (rejectionEntry r)])

/-- What is written for an outcome, and the log entries for it. -/
def entryOf (serialize : Serializer) : Outcome → Entry × List Event
  | .rejected r => rejectedEntry r
  | .accepted path records =>
    match serialize records with
    | .ok document => (.pair path document, [])
    | .error e =>
      let (entry, events) := rejectedEntry ⟨path, .serializationFailed, e.message⟩
      (entry, .log (skipEntry path e) :: events)

/-- What a worker writes for a file, and what it does for that. -/
def workOut (setup : Setup) (files : FileSystem) (path : Path) :
    Except FileStop Entry × List Event :=
  match processFile files setup.parser .worker setup.options setup.root path with
  | (.error stop, events) => (.error stop, events)
  | (.ok outcome, events) =>
    let (entry, more) := entryOf setup.serialize outcome
    (.ok entry, events ++ more)

/-- The next step of the worker of a file. -/
def advance (setup : Setup) (s : State) (job : Nat) : Option State :=
  match s.jobs[job]? with
  | none => none
  | some ⟨path, stage⟩ =>
    match stage with
    | .running =>
      match workOut setup s.files path with
      | (.ok e, events) => some ((s.note events).setStage job (.ready e))
      | (.error stop, events) => some ((s.note events).setStage job (.done (.error stop)))
    | .ready e =>
      if (s.lock e).isNone then some ((s.setLock e (some job)).setStage job (.locked e)) else none
    | .locked (.pair path document) =>
      some ((s.setSinks (s.sinks.writeDocument s.files document)).setStage job
        (.halfWritten path document))
    | .locked (.failure path reason) =>
      some ((s.setSinks (s.sinks.writeFailure s.files path reason)).setStage job
        (.written (.failure path reason)))
    | .halfWritten path document =>
      some ((s.setSinks (s.sinks.writePath s.files path)).setStage job
        (.written (.pair path document)))
    | .written e => some ((s.setLock e none).setStage job (.done (.ok e.isPair)))
    | .queued | .done _ | .cancelled => none

/-- The next file handed out, if there may be one more in flight. -/
def submit (setup : Setup) (s : State) : Option State :=
  match s.phase, s.waiting with
  | .dispatching, path :: rest =>
    if s.picked.isEmpty && s.inFlight.length < setup.options.workers then
      some { s with
        waiting := rest
        jobs := s.jobs ++ [⟨path, .queued⟩]
        inFlight := s.inFlight ++ [s.jobs.length] }
    else none
  | _, _ => none

/-- A worker starts with the first file that waits for one. -/
def start (setup : Setup) (s : State) : Option State :=
  if s.busy < setup.options.workers then
    s.firstQueued?.map fun job => s.setStage job .running
  else none

/-- Whether the dispatcher may pick these files: each of them once, in flight,
and done. -/
def mayPick (s : State) (jobs : List Nat) : Bool :=
  !jobs.isEmpty && decide jobs.Nodup && jobs.all fun job => s.inFlight.contains job && s.isDone job

/-- The dispatcher picks files that are done: some of them, when it has to
wait before it hands out the next file, and all of them at the end. -/
def pick (setup : Setup) (s : State) (jobs : List Nat) : Option State :=
  match s.phase with
  | .dispatching =>
    if s.picked.isEmpty && mayPick s jobs then
      if s.waiting.isEmpty then
        if jobs.length == s.inFlight.length then
          some { s with phase := .draining, picked := jobs }
        else none
      else if setup.options.workers ≤ s.inFlight.length then
        some { s with
          picked := jobs
          inFlight := s.inFlight.filter fun job => !jobs.contains job }
      else none
    else none
  | _ => none

/-- The log entry on an interrupt. -/
def interruptEntry (inFlight : Nat) : LogEntry where
  level := .warning
  message := s!"interrupted, finishing {inFlight} in-flight file(s)"

/-- The jobs without those that no worker has started with. -/
def cancelQueued (jobs : List Job) : List Job :=
  jobs.map fun j => if j.stage.isQueued then { j with stage := .cancelled } else j

/-- The end of a batch at a file. An interrupt cancels the files that no worker
has started with. -/
def stopAt (s : State) (stop : FileStop) : State :=
  let s := { s with phase := .stopping stop, picked := [] }
  match stop with
  | .interrupted _ =>
    { s.note [.log (interruptEntry s.inFlight.length)] with jobs := cancelQueued s.jobs }
  | _ => s

/-- The dispatcher counts the next file that it has picked. -/
def count (setup : Setup) (s : State) : Option State :=
  match s.picked with
  | [] => none
  | job :: rest =>
    match s.stage? job with
    | some (.done (.ok accepted)) =>
      let (tally, entries) := s.tally.count setup.options.progressInterval accepted
      some ({ s with tally := tally, picked := rest }.note (entries.map .log))
    | some (.done (.error stop)) => some (stopAt s stop)
    | _ => none

/-- The result that a batch has when its workers are done. -/
def result? (s : State) : Option (Except FileStop Unit) :=
  match s.phase with
  | .draining => if s.picked.isEmpty then some (.ok ()) else none
  | .stopping stop => some (.error stop)
  | _ => none

/-- The outputs closed, when all workers are done. -/
def finish (s : State) : Option State :=
  if s.jobs.all (·.stage.isOver) then
    (result? s).map fun r => { s with files := s.sinks.close s.files, phase := .ended r }
  else none

/-- A move, if it is possible. -/
def step (setup : Setup) (s : State) : Move → Option State
  | .submit => submit setup s
  | .start => start setup s
  | .advance job => advance setup s job
  | .pick jobs => pick setup s jobs
  | .count => count setup s
  | .finish => finish s

/-- The moves of a schedule, those passed over that are not possible. -/
def run (setup : Setup) (s : State) (schedule : List Move) : State :=
  schedule.foldl (fun s m => (step setup s m).getD s) s

end SyntaxCorpus.Batch
