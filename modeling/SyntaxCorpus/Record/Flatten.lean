/-
SyntaxCorpus.Record.Flatten — the records of a tree.

The nodes are numbered in document order from zero, so that every child has a
greater number than its parent. A record lists its children from left to
right.

* `Outline.records` — the records of labels with their parents.
* `flatten` — the records of a tree of labels.
* `flattenRaw` — the records of a tree of raw labels, or the problems with the
  first label in document order that is none.
-/
import SyntaxCorpus.Record.Basic

namespace SyntaxCorpus

open Validation (Checked)

namespace Outline

/-- The children of every entry of an outline, from left to right. The entries
are taken from the last to the first, each put before the children that its
parent already has. -/
def childLists {α : Type} (entries : List (Tree.Entry α)) : Array (List Int) :=
  entries.zipIdx.foldr
    (fun ((parent, _), i) lists =>
      match parent with
      | some p => lists.modify p ((i : Int) :: ·)
      | none => lists)
    (Array.replicate entries.length [])

/-- The records of an outline: record `i` has number `i`. -/
def records (entries : List (Tree.Entry Label)) : List Record :=
  let lists := childLists entries
  entries.zipIdx.map fun ((_, l), i) => ⟨i, l.type, l.value, lists.getD i []⟩

end Outline

/-- The records of a tree, in document order. -/
def flatten (t : Tree Label) : List Record := Outline.records t.outline

/-- The labels of an outline, checked in document order up to the first one
with a problem. -/
def checkOutline (entries : List (Tree.Entry RawLabel)) : Checked (List (Tree.Entry Label)) :=
  entries.mapM fun (parent, l) => l.check.map fun label => (parent, label)

/-- The records of a tree of raw labels, in document order. -/
def flattenRaw (t : Tree RawLabel) : Checked (List Record) :=
  (checkOutline t.outline).map Outline.records

end SyntaxCorpus
