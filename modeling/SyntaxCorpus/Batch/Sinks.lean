/-
SyntaxCorpus.Batch.Sinks — the three output files of a batch.

An accepted file has its document on a line of the first output and its path
on the same line of the second one; a rejected file has a line in the third
one.

* `SinkPaths` — the paths of the outputs.
* `Sinks.open_` — the outputs, made empty; or the first one that cannot be.
* `OutputSinks` — outputs that may have been closed.

A write to an output that is open succeeds. Devices that fail or are full are left out,
and so are texts that are not made of Unicode characters and have no bytes.
-/
import SyntaxCorpus.Batch.FailureLine
import SyntaxCorpus.Batch.Sink
import SyntaxCorpus.Path.Basic

namespace SyntaxCorpus

/-- The paths of the outputs. -/
structure SinkPaths where
  documents : Path
  paths : Path
  failures : Path
  deriving DecidableEq

/-- The paths of the outputs of a batch: a common beginning with three
endings. -/
def SinkPaths.of (beginning : String) : SinkPaths where
  documents := .ofText (beginning ++ ".json")
  paths := .ofText (beginning ++ ".txt")
  failures := .ofText (beginning ++ "_failed.txt")

/-- The paths of the outputs, in the order in which they are opened. -/
def SinkPaths.toList (p : SinkPaths) : List Path := [p.documents, p.paths, p.failures]

/-- Why an output cannot be written to. -/
structure SinkOpenError where
  path : String
  cause : FileError
  deriving DecidableEq

/-- The cause in words. -/
def SinkOpenError.message (e : SinkOpenError) : String :=
  s!"cannot open output {e.path}: {e.cause.reason}"

/-- The open outputs of a batch. -/
structure Sinks where
  documents : Sink
  paths : Sink
  failures : Sink

/-- A single output, made empty. -/
def openSink (fs : FileSystem) (p : Path) : Except SinkOpenError Sink × FileSystem :=
  match fs.openForWriting p.text with
  | .ok (l, fs) => (.ok { location := l }, fs)
  | .error e => (.error ⟨p.text, e⟩, fs)

namespace Sinks

/-- The outputs, made empty one after the other. The first one that cannot be
opened ends this; those before it are then left empty. -/
def open_ (fs : FileSystem) (p : SinkPaths) : Except SinkOpenError Sinks × FileSystem :=
  match openSink fs p.documents with
  | (.error e, fs) => (.error e, fs)
  | (.ok documents, fs) =>
    match openSink fs p.paths with
    | (.error e, fs) => (.error e, fs)
    | (.ok paths, fs) =>
      match openSink fs p.failures with
      | (.error e, fs) => (.error e, fs)
      | (.ok failures, fs) => (.ok ⟨documents, paths, failures⟩, fs)

/-- A line of the first output. -/
def writeDocument (fs : FileSystem) (s : Sinks) (document : String) : FileSystem × Sinks :=
  let (fs, sink) := s.documents.write fs (document ++ "\n")
  (fs, { s with documents := sink })

/-- A line of the second output. -/
def writePath (fs : FileSystem) (s : Sinks) (path : String) : FileSystem × Sinks :=
  let (fs, sink) := s.paths.write fs (path ++ "\n")
  (fs, { s with paths := sink })

/-- A line of the third output. -/
def writeFailure (fs : FileSystem) (s : Sinks) (path reason : String) : FileSystem × Sinks :=
  let (fs, sink) := s.failures.write fs (failureLine path reason)
  (fs, { s with failures := sink })

/-- The two lines of an accepted file. -/
def writeAccepted (fs : FileSystem) (s : Sinks) (path document : String) :
    FileSystem × Sinks :=
  let (fs, s) := s.writeDocument fs document
  s.writePath fs path

/-- The end of all outputs. -/
def close (fs : FileSystem) (s : Sinks) : FileSystem :=
  let fs := s.documents.close fs
  let fs := s.paths.close fs
  s.failures.close fs

end Sinks

/-- Outputs that may have been closed. -/
inductive OutputSinks
  | opened (s : Sinks)
  | closed

namespace OutputSinks

/-- What is wrong with writing to closed outputs. -/
def closedMessage : String := "I/O operation on closed file."

/-- A write to outputs that are open; `none` if they are closed. -/
def write? (o : OutputSinks) (f : Sinks → FileSystem × Sinks) :
    Option (FileSystem × OutputSinks) :=
  match o with
  | opened s =>
    let (fs, s) := f s
    some (fs, opened s)
  | closed => none

/-- The end of outputs; closing them again changes nothing. -/
def close (fs : FileSystem) : OutputSinks → FileSystem
  | opened s => s.close fs
  | closed => fs

end OutputSinks
end SyntaxCorpus
