/-
SyntaxCorpus.Record.Rebuild — the tree that a list of records describes.

The records of a tree are numbered by their positions, every child has a
greater number than its parent, and every node but the first has exactly one
parent. The values become text, which an integer of too many digits does not.

* `RebuildError` — which of these rules a list of records breaks.
* `checkLabels`, `claimAll`, `orphans` — the checks, in the order in which
  they are made.
* `rebuild` — the tree, its values as text.
-/
import SyntaxCorpus.Record.Basic

namespace SyntaxCorpus

/-- Why a list of records describes no tree. -/
inductive RebuildError
  | empty
  /-- The record at a position has another number. -/
  | misnumbered (position id : Nat)
  /-- A value that has no text. -/
  | unwritable
  /-- A child is not numbered after its parent, or there is no such record. -/
  | invalidChild (parent : Nat) (child : Int)
  | sharedChild (child : Nat)
  /-- The first of the nodes without a parent. -/
  | orphans (ids : List Nat)
  deriving DecidableEq

/-- Numbers in brackets, separated by commas. -/
def numberList (ns : List Nat) : String :=
  "[" ++ String.intercalate ", " (ns.map toString) ++ "]"

/-- The cause in words. -/
def RebuildError.message : RebuildError → String
  | empty => "cannot rebuild a tree from zero records"
  | misnumbered position id => messageWith [id] s!"record at position {position} has id {id}"
  | unwritable => unwritableMessage
  | invalidChild parent child =>
    messageWith [child] s!"node {parent} has invalid child id {child}"
  | sharedChild child => s!"node {child} has more than one parent"
  | orphans ids => s!"nodes without a parent: {numberList ids}"

namespace Rebuild

/-- Whether the records are numbered from `position` on and have values that can be
written. -/
def checkLabels (position : Nat) : List Record → Except RebuildError Unit
  | [] => .ok ()
  | r :: rs =>
    if r.id ≠ position then .error (.misnumbered position r.id)
    else if r.value.isWritable then checkLabels (position + 1) rs
    else .error .unwritable

/-- A node claims its children: each must come after it, and must not have
been claimed before. `claimed` tells which nodes have a parent. -/
def claim (parent : Nat) (claimed : Array Bool) : List Int → Except RebuildError (Array Bool)
  | [] => .ok claimed
  | c :: cs =>
    if c ≤ parent ∨ claimed.size ≤ c then .error (.invalidChild parent c)
    else if claimed.getD c.toNat false then .error (.sharedChild c.toNat)
    else claim parent (claimed.setIfInBounds c.toNat true) cs

/-- Every node claims its children, in the order of the records. -/
def claimAll (claimed : Array Bool) : List Record → Except RebuildError (Array Bool)
  | [] => .ok claimed
  | r :: rs => (claim r.id claimed r.children).bind fun claimed => claimAll claimed rs

/-- The nodes without a parent, the root apart. -/
def orphans (claimed : Array Bool) : List Nat :=
  (claimed.toList.zipIdx.drop 1).filterMap fun (has, i) => if has then none else some i

/-- How many nodes without a parent are reported. -/
def reportedOrphans : Nat := 10

/-- The trees of the last records, the last one first: `built[k]` is the tree
of the record with the number `n - 1 - k`, and holds the trees of its
children, which have greater numbers. -/
def subtrees (n : Nat) (records : List Record) : Array (Tree Label) :=
  records.foldr
    (fun r built =>
      built.push (.node r.label (r.children.filterMap fun c => built[n - 1 - c.toNat]?)))
    #[]

end Rebuild

open Rebuild in
/-- The tree that a list of records describes. -/
def rebuild (records : List Record) : Except RebuildError (Tree Label) := do
  if records.isEmpty then throw .empty
  checkLabels 0 records
  let claimed ← claimAll (Array.replicate records.length false) records
  let lost := orphans claimed
  unless lost.isEmpty do throw (.orphans (lost.take reportedOrphans))
  match (subtrees records.length records).back? with
  | some tree => pure tree
  | none => throw .empty

end SyntaxCorpus
