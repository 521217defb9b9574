/-
SyntaxCorpus.Main — the program.

The working directory is read, the command line is carried out on what was
read, and the files that are new or have changed are written. Links are not
followed. No grammars are built in: a program with grammars gives its own to
`runProgram`.
-/
import SyntaxCorpus.CommandLine.Run
import SyntaxCorpus.Grammar.Session
import SyntaxCorpus.Number.ArgumentInteger

namespace SyntaxCorpus.Program

/-- A location as a path. -/
def pathOf (l : Location) : String := "/" ++ String.intercalate "/" l

/-- A file system with the entries of a directory, and all below them. -/
partial def addEntries (fs : FileSystem) (directory : Location)
    (entries : Array IO.FS.DirEntry) : IO FileSystem :=
  entries.foldlM (fun fs e => do
    let l := directory ++ [e.fileName]
    match (← e.path.symlinkMetadata).type with
    | .dir => addEntries (fs.set l .directory) l (← e.path.readDir)
    | .file => return fs.set l (.file (← IO.FS.readBinFile e.path))
    | _ => return fs) fs

/-- The working directory. -/
def readFiles : IO FileSystem := do
  let here ← IO.currentDir
  let l := (Text.pieces '/' here.toString).filter (· != "")
  addEntries (.empty l) l (← here.readDir)

/-- The variables that the program looks at. -/
def readEnvironment : IO Environment :=
  (debugVariable :: optionVariables.map (·.2)).filterMapM fun name => do
    return (← IO.getEnv name).map (name, ·)

/-- The files that are new or have changed, written. -/
def writeChanges (before after : FileSystem) : IO Unit :=
  after.entries.forM fun (l, n) => do
    match n, before.node? l with
    | .file content, some (.file old) =>
      unless content.data == old.data do IO.FS.writeBinFile (pathOf l) content
    | .file content, _ => IO.FS.writeBinFile (pathOf l) content
    | _, _ => return ()

/-- The width of an output that is no terminal, if the environment gives none. -/
def defaultWidth : Nat := 80

/-- The number of columns of the outputs. -/
def readWidth : IO Nat := do
  return ((← IO.getEnv "COLUMNS").bind (·.toNat?)).getD defaultWidth

/-- The program with grammars. -/
def runProgram {γ : Type} (grammars : Grammars γ) (arguments : List String) : IO UInt32 := do
  let files ← readFiles
  let environment ← readEnvironment
  let serialize : Serializer := fun records => .ok (Document.write records)
  let width ← readWidth
  let reply := CommandLine.run
    { files, environment, processors := none, parser := grammars.parser, serialize
      readInteger := argumentInteger?, outputWidth := width, errorWidth := width } arguments
  let least :=
    Level.ofSettings (CommandLine.isVerbose argumentInteger? arguments) none environment
  (reply.logLines least).forM IO.eprintln
  writeChanges files reply.files
  IO.print reply.output
  IO.eprint reply.errors
  if let some fault := reply.fault then IO.eprintln fault.message
  return UInt32.ofNat reply.status.code

/-- No grammars. -/
def noGrammars : Grammars Empty where
  load language := .error ⟨"LookupError", s!"no grammar for {language}"⟩
  run g := nomatch g

end SyntaxCorpus.Program

/-- The program without grammars. -/
def main (arguments : List String) : IO UInt32 :=
  SyntaxCorpus.Program.runProgram SyntaxCorpus.Program.noGrammars arguments
