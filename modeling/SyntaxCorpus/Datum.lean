/-
SyntaxCorpus.Datum — the values that records and parsers deal in.

* `Scalar` — what the value of a record may be.
* `Datum` — any value that a parser, a caller or a document may offer where a
  scalar is expected.
* `Readings` — what the checks make of a value that is of none of the kinds here.
* `Datum.same` — equality of values across kinds: numbers and truth values
  are compared by the number they stand for.
-/
import SyntaxCorpus.Number.Binary64
import SyntaxCorpus.Validation.Problem

namespace SyntaxCorpus

/-- A value without parts. -/
inductive Scalar
  | null
  | bool (b : Bool)
  | int (n : Int)
  | float (x : Binary64)
  | text (s : String)
  deriving DecidableEq

/-- A value of some other kind (a decimal number, a member of an enumeration), as
far as checks look at it: what it comes to as a text, as an integer, as a truth
value and as a scalar. -/
structure Readings where
  string : Validation.Checked String
  integer : Validation.Checked Int
  boolean : Validation.Checked Bool
  scalar : Validation.Checked Scalar

/-- Any value. -/
inductive Datum
  | null
  | bool (b : Bool)
  | int (n : Int)
  | float (x : Binary64)
  | text (s : String)
  | bytes (b : ByteArray)
  | list (items : List Datum)
  | mapping (fields : List (String × Datum))
  | other (readings : Readings)

namespace Scalar

/-- A scalar among all values. -/
def toDatum : Scalar → Datum
  | null => .null
  | bool b => .bool b
  | int n => .int n
  | float x => .float x
  | text s => .text s

/-- Scalars are equal when they are of one kind and equal in value; a `nan`
differs from itself. -/
def same : Scalar → Scalar → Bool
  | float x, float y => x.sameValue y
  | a, b => a == b

end Scalar

namespace Datum

/-- The scalar that a value is, if it has no parts and is not raw bytes. -/
def toScalar? : Datum → Option Scalar
  | null => some .null
  | bool b => some (.bool b)
  | int n => some (.int n)
  | float x => some (.float x)
  | text s => some (.text s)
  | _ => none

/-- The floating-point number or the integer that a value stands for; `true`
is one and `false` zero. -/
def number? : Datum → Option (Binary64 ⊕ Int)
  | bool b => some (.inr (if b then 1 else 0))
  | int n => some (.inr n)
  | float x => some (.inl x)
  | _ => none

/-- Equality of numbers across the two kinds. -/
def sameNumber : Binary64 ⊕ Int → Binary64 ⊕ Int → Bool
  | .inl x, .inl y => x.sameValue y
  | .inr m, .inr n => m == n
  | .inl x, .inr n => x.toInt? == some n
  | .inr n, .inl x => x.toInt? == some n

mutual
/-- Equality of values: numbers by what they stand for, lists item by item,
mappings field by field whatever the order of the fields. Values of other kinds are
not compared. -/
def same : Datum → Datum → Bool
  | null, null => true
  | text s, text t => s == t
  | bytes a, bytes b => a.data == b.data
  | list xs, list ys => sameItems xs ys
  | mapping fs, mapping gs => fs.length == gs.length && sameFields fs gs
  | a, b =>
    match a.number?, b.number? with
    | some m, some n => sameNumber m n
    | _, _ => false

/-- Item by item. -/
def sameItems : List Datum → List Datum → Bool
  | [], [] => true
  | x :: xs, y :: ys => same x y && sameItems xs ys
  | _, _ => false

/-- Every field of the first has its equal in the second. -/
def sameFields : List (String × Datum) → List (String × Datum) → Bool
  | [], _ => true
  | (name, x) :: fs, gs =>
    (match gs.find? (·.1 == name) with
      | some (_, y) => same x y
      | none => false) && sameFields fs gs
end

end Datum
end SyntaxCorpus
