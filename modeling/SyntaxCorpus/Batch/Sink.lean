/-
SyntaxCorpus.Batch.Sink — a file that is written to line by line.

What is written waits in two layers before it is in the file: encoded text
first, and then a block of bytes. A layer that is full goes on to the next
one; closing empties both. Until then other readers of the file do not see
what waits.

* `Sink` — an open file with what waits for it.
* `Sink.write`, `Sink.close` — more text, and the end of it.
* `Sink.total` — everything that was written so far.
-/
import SyntaxCorpus.FileSystem.Content

namespace SyntaxCorpus

/-- How many bytes of text go on at once. -/
def textLimit : Nat := 8192

/-- How many bytes a block has. -/
def blockLimit : Nat := 4096

/-- A file that is open for writing. -/
structure Sink where
  location : Location
  /-- How many bytes are in the file. -/
  offset : Nat := 0
  /-- The bytes that wait for the end of a block. -/
  block : ByteArray := .empty
  /-- The encoded text that waits to become part of a block. -/
  text : ByteArray := .empty

namespace Sink

/-- Bytes put into the file. -/
def emit (fs : FileSystem) (s : Sink) (bytes : ByteArray) : FileSystem × Sink :=
  if bytes.isEmpty then (fs, s)
  else (fs.writeAt s.location s.offset bytes, { s with offset := s.offset + bytes.size })

/-- The block put into the file. -/
def emitBlock (fs : FileSystem) (s : Sink) : FileSystem × Sink :=
  emit fs { s with block := .empty } s.block

/-- Bytes added to the block. If they do not fit, the block goes first, and
more bytes than a block has go directly. -/
def addToBlock (fs : FileSystem) (s : Sink) (bytes : ByteArray) : FileSystem × Sink :=
  if s.block.size + bytes.size ≤ blockLimit then (fs, { s with block := s.block ++ bytes })
  else
    let (fs, s) := emitBlock fs s
    if blockLimit < bytes.size then emit fs s bytes else (fs, { s with block := bytes })

/-- The waiting text added to the block. -/
def passText (fs : FileSystem) (s : Sink) : FileSystem × Sink :=
  addToBlock fs { s with text := .empty } s.text

/-- More text. If it does not fit, what came before goes first. -/
def write (fs : FileSystem) (s : Sink) (more : String) : FileSystem × Sink :=
  let bytes := more.toUTF8
  let (fs, s) := if textLimit < s.text.size + bytes.size then passText fs s else (fs, s)
  let s := { s with text := s.text ++ bytes }
  if textLimit ≤ s.text.size then passText fs s else (fs, s)

/-- The end of the file: nothing waits any longer. -/
def close (fs : FileSystem) (s : Sink) : FileSystem :=
  let (fs, s) := passText fs s
  (emitBlock fs s).1

end Sink
end SyntaxCorpus
