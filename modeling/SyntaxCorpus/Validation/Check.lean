/-
SyntaxCorpus.Validation.Check — checks of single values.

A check accepts the values of its kind and, where one is meant without doubt,
values of other kinds: an integer may be given as a truth value, as a number
without a fraction or as text. Raw bytes count as the text that they encode.

* `string`, `integer`, `boolean`, `scalar` — the checks.
* `atLeast` — a lower limit for a checked integer.
-/
import SyntaxCorpus.Datum
import SyntaxCorpus.Number.IntegerText
import SyntaxCorpus.Text.Utf8

namespace SyntaxCorpus.Validation

/-- The text that raw bytes encode; `kind` is the problem with bytes that encode
none. -/
def encodedText (kind : Kind) (b : ByteArray) : Checked String :=
  (Text.Utf8.decode b).mapError fun _ => [⟨[], kind⟩]

/-- Text, or the bytes of a text. -/
def string : Datum → Checked String
  | .text s => .ok s
  | .bytes b => encodedText .undecodableString b
  | .other r => r.string
  | _ => fail .notString

/-- The integers of 64 bits are below this limit, and not below its negative.
Floating-point numbers stand for integers between the two. -/
def integerLimit : Nat := Nat.pow 2 63

/-- An integer given as a floating-point number. -/
def integerOfFloat (x : Binary64) : Checked Int :=
  match x with
  | .finite .. =>
    match x.toInt? with
    | some n => if n.natAbs < integerLimit then .ok n else fail .integerTooLarge
    | none => fail .fractionalNumber
  | _ => fail .infiniteNumber

/-- An integer given as text. -/
def integerOfText (s : String) : Checked Int :=
  match readInteger s with
  | .ok n => .ok n
  | .error .malformed => fail .unreadableInteger
  | .error .tooLong => fail .integerTooLarge

/-- An integer, or a value that stands for one. -/
def integer : Datum → Checked Int
  | .int n => .ok n
  | .bool b => .ok (if b then 1 else 0)
  | .float x => integerOfFloat x
  | .text s => integerOfText s
  | .bytes b => (encodedText .unreadableInteger b).bind integerOfText
  | .other r => r.integer
  | _ => fail .notInteger

/-- An integer that is not below a minimum. -/
def atLeast (minimum : Nat) (d : Datum) : Checked { n : Nat // minimum ≤ n } :=
  (integer d).bind fun n =>
    if h : (minimum : Int) ≤ n then .ok ⟨n.toNat, by omega⟩ else fail (.belowMinimum minimum)

/-- The words for `true`. -/
def trueWords : List String := ["1", "on", "t", "true", "y", "yes"]

/-- The words for `false`. -/
def falseWords : List String := ["0", "off", "f", "false", "n", "no"]

/-- A truth value given as an integer. -/
def booleanOfInteger (n : Int) : Checked Bool :=
  if n = 0 then .ok false else if n = 1 then .ok true else fail .unreadableBoolean

/-- A truth value given as a word. Words are compared without regard to the case
of ASCII letters. -/
def booleanOfText (s : String) : Checked Bool :=
  let word := s.map Char.toLower
  if trueWords.contains word then .ok true
  else if falseWords.contains word then .ok false
  else fail .unreadableBoolean

/-- A truth value, or a value that stands for one: an integer of 64 bits, a
number without a fraction, or a word. -/
def boolean : Datum → Checked Bool
  | .bool b => .ok b
  | .int n =>
    if -(integerLimit : Int) ≤ n && n < integerLimit then booleanOfInteger n else fail .notBoolean
  | .float x =>
    match integerOfFloat x with
    | .ok n => booleanOfInteger n
    | .error _ => fail .notBoolean
  | .text s => booleanOfText s
  | .bytes b => (encodedText .unreadableBoolean b).bind booleanOfText
  | .other r => r.boolean
  | _ => fail .notBoolean

/-- A value that is none of the four kinds of a scalar with a value, with the
problem that each kind has with it. -/
def noScalar (string integer number boolean : Kind) : Checked Scalar :=
  .error [⟨[.field "str"], string⟩, ⟨[.field "int"], integer⟩, ⟨[.field "float"], number⟩,
    ⟨[.field "bool"], boolean⟩]

/-- A scalar, or the bytes of a text. -/
def scalar : Datum → Checked Scalar
  | .bytes b =>
    match Text.Utf8.decode b with
    | .ok s => .ok (.text s)
    | .error _ =>
      noScalar .undecodableString .unreadableInteger .unreadableNumber .unreadableBoolean
  | .other r => r.scalar
  | d =>
    match d.toScalar? with
    | some s => .ok s
    | none => noScalar .notString .notInteger .notNumber .notBoolean

theorem scalar_toDatum (s : Scalar) : scalar s.toDatum = .ok s := by
  cases s <;> rfl

end SyntaxCorpus.Validation
