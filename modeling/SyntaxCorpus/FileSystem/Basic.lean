/-
SyntaxCorpus.FileSystem.Basic — directories, files and links, and where paths
lead.

* `Location` — a place, by the names from the root directory on.
* `FileSystem` — what is at each location, and the working directory.
* `FileError` — why a path leads nowhere, or not to what is asked for.
* `Purpose` — what a path is followed for.
* `walk` — follows names and the links on the way. Every link that is followed
  counts against a limit, so that a walk through a loop ends.
* `FileSystem.find` — where a path leads.

A directory may be closed to listing, as long as every directory may be passed on the
way of a path. Other permissions are left out, and so are names that are no text and
devices that fail or are full: what may be opened may be read and written.
-/
import SyntaxCorpus.Text.Quoted
import SyntaxCorpus.Text.Split

namespace SyntaxCorpus

/-- A place in a file system: the names from the root directory on. -/
abbrev Location := List String

/-- What is at a place. -/
inductive Node
  | file (content : ByteArray)
  | directory
  /-- A link to the path `target`, as seen from the directory of the link. -/
  | link (target : String)

/-- A file system with a working directory. -/
structure FileSystem where
  entries : List (Location × Node)
  workingDirectory : Location
  /-- The directories whose names cannot be listed. -/
  unlisted : List Location := []
  /-- How many levels a search may go down, those of the pattern and those of the
  directories together. -/
  searchDepth : Nat := 1000

/-- Why a file cannot be reached or used. -/
inductive FileError
  | notFound
  | notADirectory
  | isADirectory
  | nameTooLong
  | linkLoop
  /-- A path with a null character is no path for any operation. -/
  | nullCharacter
  deriving DecidableEq

namespace FileError

/-- The number of an error of the system. -/
def number? : FileError → Option Nat
  | notFound => some 2
  | notADirectory => some 20
  | isADirectory => some 21
  | nameTooLong => some 36
  | linkLoop => some 40
  | nullCharacter => none

/-- The cause in words. -/
def reason : FileError → String
  | notFound => "No such file or directory"
  | notADirectory => "Not a directory"
  | isADirectory => "Is a directory"
  | nameTooLong => "File name too long"
  | linkLoop => "Too many levels of symbolic links"
  | nullCharacter => "embedded null byte"

/-- The error of an operation on a path, in words. -/
def message (e : FileError) (path : String) : String :=
  match e.number? with
  | some n => s!"[Errno {n}] {e.reason}: {Text.quoted path}"
  | none => e.reason

end FileError

/-- The greatest number of bytes of a name. -/
def maxNameSize : Nat := 255

/-- The number of bytes that a path has to stay below. -/
def pathSizeLimit : Nat := 4096

/-- How many links are followed on the way of one path. -/
def maxLinks : Nat := 40

/-- What a path is followed for: to see what it names itself, to get to what
it leads to, or to create a file there. -/
inductive Purpose
  | inspect
  | reach
  | create
  deriving DecidableEq

/-- Where a path leads: to something that exists, or to a name that is free in
a directory. -/
inductive Place
  | present (location : Location) (node : Node)
  | vacant (directory : Location) (name : String)

/-- Whether a path starts at the root directory. -/
def startsAtRoot (path : String) : Bool := path.toList.head? == some '/'

namespace FileSystem

/-- The file system without files, and a working directory. -/
def empty (workingDirectory : Location) : FileSystem where
  entries := (List.range workingDirectory.length).map fun n =>
    (workingDirectory.take (n + 1), .directory)
  workingDirectory := workingDirectory

/-- What is at a location. The root is a directory. -/
def node? (fs : FileSystem) (l : Location) : Option Node :=
  if l.isEmpty then some .directory else (fs.entries.find? (·.1 == l)).map (·.2)

/-- The file system with a node put at a location. -/
def set (fs : FileSystem) (l : Location) (n : Node) : FileSystem :=
  if (fs.node? l).isSome then
    { fs with entries := fs.entries.map fun (m, o) => if m == l then (m, n) else (m, o) }
  else { fs with entries := fs.entries ++ [(l, n)] }

/-- What a directory holds: each name, with what it stands for. -/
def listing (fs : FileSystem) (directory : Location) : List (String × Node) :=
  fs.entries.filterMap fun (l, n) =>
    match l.getLast? with
    | some name => if l.dropLast == directory then some (name, n) else none
    | none => none

/-- Where the directory is that a path starts in, for a path seen from
`here`. -/
def startOf (path : String) (here : Location) : Location :=
  if startsAtRoot path then [] else here

/-- Whether a slash after the last name keeps a path from being the path of a
new file. -/
def isSlashedFile (purpose : Purpose) (rest : List String) : Bool :=
  purpose = .create && !rest.isEmpty && rest.all (· == "")

/-- Where names lead from a place on. A link is followed unless it is the last
name and the purpose is to inspect it; `links` more links may be followed.
Empty names and `.` lead nowhere, but only a directory has them. -/
def walk (fs : FileSystem) (purpose : Purpose) (links : Nat) (here : Location)
    (names : List String) : Except FileError Place :=
  match names with
  | [] =>
    match fs.node? here with
    | some n => .ok (.present here n)
    | none => .error .notFound
  | name :: rest =>
    match fs.node? here with
    | none => .error .notFound
    | some .directory =>
      if name == "" || name == "." then walk fs purpose links here rest
      else if name == ".." then walk fs purpose links here.dropLast rest
      else if isSlashedFile purpose rest then .error .isADirectory
      else if maxNameSize < name.utf8ByteSize then .error .nameTooLong
      else
        match fs.node? (here ++ [name]) with
        | none => if rest.isEmpty then .ok (.vacant here name) else .error .notFound
        | some (.link target) =>
          if rest.isEmpty && purpose = .inspect then .ok (.present (here ++ [name]) (.link target))
          else
            match links with
            | 0 => .error .linkLoop
            | links + 1 =>
              walk fs purpose links (startOf target here) (Text.pieces '/' target ++ rest)
        | some _ => walk fs purpose links (here ++ [name]) rest
    | some _ => .error .notADirectory
termination_by (links, names.length)

/-- Where a path leads. -/
def find (fs : FileSystem) (purpose : Purpose) (path : String) : Except FileError Place :=
  if path.toList.contains (Char.ofNat 0) then .error .nullCharacter
  else if path.isEmpty then .error .notFound
  else if pathSizeLimit ≤ path.utf8ByteSize then .error .nameTooLong
  else walk fs purpose maxLinks (startOf path fs.workingDirectory) (Text.pieces '/' path)

/-- What a path leads to in the end. -/
def status (fs : FileSystem) (path : String) : Except FileError (Location × Node) :=
  (fs.find .reach path).bind fun
    | .present l n => .ok (l, n)
    | .vacant .. => .error .notFound

/-- Whether there is anything at a path, be it a link to nothing. -/
def has (fs : FileSystem) (path : String) : Bool :=
  match fs.find .inspect path with
  | .ok (.present ..) => true
  | _ => false

/-- Whether a path leads to a directory. -/
def isDirectory (fs : FileSystem) (path : String) : Bool :=
  match fs.status path with
  | .ok (_, .directory) => true
  | _ => false

/-- Whether a path leads to a file. That a path is too long is no answer. -/
def isFile (fs : FileSystem) (path : String) : Except FileError Bool :=
  match fs.status path with
  | .ok (_, .file _) => .ok true
  | .ok _ => .ok false
  | .error .nameTooLong => .error .nameTooLong
  | .error _ => .ok false

end FileSystem
end SyntaxCorpus
