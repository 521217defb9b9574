/-
SyntaxCorpus.Grammar.Cst — concrete syntax trees.

A grammar gives a tree of everything it has seen in a source: named nodes,
anonymous ones such as operators, extra ones such as comments, and nodes for
what is wrong.

* `CstNode`, `Cst` — a node with its facts, and a tree of them.
* `Cst.text` — the text of a node in its source.
* `Cst.value` — the value that a node has in a syntax tree.
* `Cst.normalise` — the syntax tree: the root, and the named nodes that are no
  extras, below each other.
-/
import SyntaxCorpus.Record.Basic
import SyntaxCorpus.Text.Utf8

namespace SyntaxCorpus

/-- The bytes of a source from `start` up to `stop`. -/
structure Span where
  start : Nat
  stop : Nat
  deriving DecidableEq

/-- A place in a source, both numbers from zero on. -/
structure Position where
  row : Nat
  column : Nat
  deriving DecidableEq

/-- What a grammar says of a node. -/
structure CstNode where
  type : String
  isNamed : Bool
  isExtra : Bool := false
  isError : Bool := false
  isMissing : Bool := false
  /-- The field of its parent that the node is in; it may have an empty
  name. -/
  field : Option String := none
  /-- Where the text of the node is; a node may have none. -/
  span : Option Span := none
  position : Position := ⟨0, 0⟩
  deriving DecidableEq

instance : Inhabited CstNode := ⟨{ type := "", isNamed := false }⟩

/-- A concrete syntax tree. -/
abbrev Cst := Tree CstNode

namespace Cst

/-- The text of a node in its source, as far as the source goes. -/
def text (source : ByteArray) (n : CstNode) : String :=
  match n.span with
  | some s => Text.Utf8.decodeLossy (source.extract s.start s.stop)
  | none => ""

/-- Whether a node is a child without a name that is in a field. -/
def isFieldToken (n : CstNode) : Bool := !n.isNamed && n.field.isSome

/-- The value of a node: its text if it has no named children, and otherwise
the text of its first token that is in a field. -/
def value (source : ByteArray) (t : Cst) : Scalar :=
  if t.children.all (!·.label.isNamed) then .text (text source t.label)
  else
    match t.children.find? (isFieldToken ·.label) with
    | some token => .text (text source token.label)
    | none => .null

/-- Whether a child is part of the syntax tree. -/
def isKept (n : CstNode) : Bool := n.isNamed && !n.isExtra

/-- The label of a node in the syntax tree. -/
def labelOf (source : ByteArray) (t : Cst) : Label := ⟨t.label.type, value source t⟩

/-- The children of a node that are part of the syntax tree. -/
def kept (t : Cst) : List Cst := t.children.filter (isKept ·.label)

/-- The number of nodes of pending trees. -/
def pendingSize : List (Nat × Cst) → Nat
  | [] => 0
  | (_, t) :: rest => t.size + pendingSize rest

theorem pendingSize_append (xs ys : List (Nat × Cst)) :
    pendingSize (xs ++ ys) = pendingSize xs + pendingSize ys := by
  induction xs with
  | nil => simp [pendingSize]
  | cons x xs ih => simp [pendingSize, ih]; omega

theorem pendingSize_reverse (xs : List (Nat × Cst)) :
    pendingSize xs.reverse = pendingSize xs := by
  induction xs with
  | nil => rfl
  | cons x xs ih =>
    rw [List.reverse_cons, pendingSize_append, ih]
    simp only [pendingSize]
    omega

/-- Trees with positions from `start` on. -/
def placed (start : Nat) (ts : List Cst) : List (Nat × Cst) :=
  (ts.zipIdx start).map fun (t, i) => (i, t)

theorem forestSize_kept_lt (t : Cst) : Tree.forestSize t.kept < t.size := by
  obtain ⟨n, ts⟩ := t
  have hle : ∀ us : List Cst,
      Tree.forestSize (us.filter (isKept ·.label)) ≤ Tree.forestSize us := by
    intro us
    induction us with
    | nil => simp
    | cons u us ih =>
      rw [List.filter_cons, Tree.forestSize]
      split
      · rw [Tree.forestSize]
        omega
      · omega
  exact Nat.lt_of_le_of_lt (hle ts) (by rw [Tree.size]; omega)

theorem pendingSize_placed (start : Nat) (ts : List Cst) :
    pendingSize (placed start ts) = Tree.forestSize ts := by
  induction ts generalizing start with
  | nil => rfl
  | cons t ts ih =>
    have hplaced : placed start (t :: ts) = (start, t) :: placed (start + 1) ts := by
      simp [placed, List.zipIdx_cons]
    rw [hplaced, pendingSize, ih, Tree.forestSize]

/-- The labels of the syntax tree below its root, in the order in which they are made, each
with the position of its parent. Pending are the nodes whose labels are made, with their
positions; the one that came last is the first to have its children made. -/
def convert (source : ByteArray) :
    List (Nat × Cst) → Array (Nat × Label) → Array (Nat × Label)
  | [], made => made
  | (parent, t) :: rest, made =>
    convert source ((placed (made.size + 1) t.kept).reverse ++ rest)
      (made ++ t.kept.map fun c => (parent, labelOf source c))
termination_by pending => pendingSize pending
decreasing_by
  have hkept := forestSize_kept_lt t
  rw [pendingSize_append, pendingSize_reverse, pendingSize_placed, pendingSize]
  omega

/-- The syntax tree of a concrete tree. The root is part of it in any case. -/
def normalise (source : ByteArray) (t : Cst) : Tree Label :=
  Tree.assemble (labelOf source t) (convert source [(0, t)] #[]).toList

/-- The declaration in a wrapper: the first kept child of the first node of
type `container` in document order. -/
def declaration? (container : String) (t : Cst) : Option Cst :=
  (t.find? (·.label.type == container)).bind fun found =>
    found.children.find? (isKept ·.label)

end Cst
end SyntaxCorpus
