/-
SyntaxCorpus.FileSystem.Content — reading and writing files.

* `read` — the content of a file.
* `openForWriting` — a file made empty, or a new one; where it is.
* `writeAt` — bytes put into a file from an offset on.
-/
import SyntaxCorpus.FileSystem.Basic

namespace SyntaxCorpus

/-- A content with bytes put over it from an offset on. A gap between the end
of the content and the offset is filled with zeros. -/
def overwrite (content : ByteArray) (offset : Nat) (bytes : ByteArray) : ByteArray :=
  let front := content.extract 0 offset
  let gap : ByteArray := ⟨Array.replicate (offset - content.size) 0⟩
  front ++ gap ++ bytes ++ content.extract (offset + bytes.size) content.size

namespace FileSystem

/-- The content of the file that a path leads to. -/
def read (fs : FileSystem) (path : String) : Except FileError ByteArray :=
  (fs.status path).bind fun
    | (_, .file content) => .ok content
    | _ => .error .isADirectory

/-- The file that a path leads to, made empty; where nothing is, a new file.
The location of the file, and the file system with it. -/
def openForWriting (fs : FileSystem) (path : String) :
    Except FileError (Location × FileSystem) :=
  (fs.find .create path).bind fun
    | .present l (.file _) => .ok (l, fs.set l (.file .empty))
    | .present .. => .error .isADirectory
    | .vacant directory name =>
      let l := directory ++ [name]
      .ok (l, fs.set l (.file .empty))

/-- Bytes put into the file at a location. -/
def writeAt (fs : FileSystem) (l : Location) (offset : Nat) (bytes : ByteArray) : FileSystem :=
  match fs.node? l with
  | some (.file content) => fs.set l (.file (overwrite content offset bytes))
  | _ => fs

/-- The file that a path leads to, with a new content. -/
def write (fs : FileSystem) (path : String) (content : ByteArray) :
    Except FileError FileSystem :=
  (fs.openForWriting path).map fun (l, fs) => fs.writeAt l 0 content

end FileSystem
end SyntaxCorpus
