/-
SyntaxCorpus.Text.Utf8 — reading bytes as UTF-8.

A byte sequence falls apart into parts, left to right: an encoded character,
or the longest beginning of an encoded character that the next byte cannot
continue. The last part may also be cut off by the end of the input.

* `continuations` — the bytes that may follow a lead byte. It excludes
  overlong forms, surrogates and code points above U+10FFFF.
* `parts` — the parts of a sequence of bytes.
* `decodeLossy` — the text with U+FFFD for every ill-formed part.
* `decode` — the text, or where the first ill-formed part is.
-/
namespace SyntaxCorpus.Text.Utf8

/-- A closed range of bytes. -/
structure ByteRange where
  low : UInt8
  high : UInt8

def ByteRange.has (r : ByteRange) (b : UInt8) : Bool :=
  r.low ≤ b && b ≤ r.high

/-- Any continuation byte. -/
def tail : ByteRange := ⟨0x80, 0xBF⟩

/-- The ranges of the bytes that follow a lead byte, in order; `none` for a
byte that starts no character. -/
def continuations (lead : UInt8) : Option (List ByteRange) :=
  if lead < 0x80 then some []
  else if lead < 0xC2 then none
  else if lead < 0xE0 then some [tail]
  else if lead == 0xE0 then some [⟨0xA0, 0xBF⟩, tail]
  else if lead == 0xED then some [⟨0x80, 0x9F⟩, tail]
  else if lead < 0xF0 then some [tail, tail]
  else if lead == 0xF0 then some [⟨0x90, 0xBF⟩, tail, tail]
  else if lead < 0xF4 then some [tail, tail, tail]
  else if lead == 0xF4 then some [⟨0x80, 0x8F⟩, tail, tail]
  else none

/-- The bits of a lead byte that belong to the code point, for a character of
`1 + more` bytes. -/
def leadBits (lead : UInt8) (more : Nat) : Nat :=
  match more with
  | 0 => lead.toNat
  | 1 => lead.toNat % 0x20
  | 2 => lead.toNat % 0x10
  | _ => lead.toNat % 0x08

/-- The character of a lead byte and its continuation bytes. -/
def assemble (lead : UInt8) (more : List UInt8) : Char :=
  Char.ofNat (more.foldl (fun n b => n * 0x40 + b.toNat % 0x40) (leadBits lead more.length))

/-- The bytes at the front that meet the ranges one by one, and the rest. -/
def matchRanges : List ByteRange → List UInt8 → List UInt8 × List UInt8
  | r :: rs, b :: bs =>
    if r.has b then
      let (front, rest) := matchRanges rs bs
      (b :: front, rest)
    else ([], b :: bs)
  | _, bs => ([], bs)

theorem length_matchRanges (rs : List ByteRange) (bs : List UInt8) :
    (matchRanges rs bs).2.length ≤ bs.length := by
  fun_induction matchRanges rs bs with
  | case1 r rs b bs h front rest heq ih => simp_all; omega
  | case2 => simp
  | case3 => simp

/-- A part of a byte sequence. -/
inductive Part
  /-- An encoded character of `size` bytes. -/
  | char (c : Char) (size : Nat)
  /-- The beginning of a character, of `size` bytes, that the next byte does
  not continue. -/
  | illFormed (size : Nat)
  /-- The beginning of a character, cut off by the end of the input. -/
  | cutOff (size : Nat)

/-- The number of bytes of a part. -/
def Part.size : Part → Nat
  | .char _ n => n
  | .illFormed n => n
  | .cutOff n => n

/-- The parts of a byte sequence, in order. -/
def parts : List UInt8 → List Part
  | [] => []
  | lead :: bs =>
    match continuations lead with
    | none => .illFormed 1 :: parts bs
    | some ranges =>
      let found := (matchRanges ranges bs).1
      let rest := (matchRanges ranges bs).2
      if found.length == ranges.length then
        .char (assemble lead found) (1 + found.length) :: parts rest
      else if rest.isEmpty then [.cutOff (1 + found.length)]
      else .illFormed (1 + found.length) :: parts rest
termination_by bs => bs.length
decreasing_by
  · simp
  all_goals
    have := length_matchRanges ranges bs
    simp only [List.length_cons]
    omega

/-- The character that stands for a part; U+FFFD if it is ill-formed. -/
def Part.shown : Part → Char
  | .char c _ => c
  | _ => Char.ofNat 0xFFFD

/-- The text of a byte sequence, with U+FFFD for each ill-formed part. -/
def decodeLossy (bytes : ByteArray) : String :=
  String.ofList ((parts bytes.data.toList).map Part.shown)

/-- The first ill-formed part of a byte sequence: where it starts, and how
long it is, or that the end of the input cuts it off. -/
structure Malformed where
  index : Nat
  size : Option Nat
  deriving DecidableEq

/-- What is wrong with the bytes, in words. -/
def Malformed.message (m : Malformed) : String :=
  match m.size with
  | some n => s!"invalid utf-8 sequence of {n} bytes from index {m.index}"
  | none => s!"incomplete utf-8 byte sequence from index {m.index}"

/-- The characters of parts that start at byte `index`, or the first
ill-formed one among them. -/
def collect (index : Nat) : List Part → Except Malformed (List Char)
  | [] => .ok []
  | .char c n :: ps => (collect (index + n) ps).map (c :: ·)
  | .illFormed n :: _ => .error ⟨index, some n⟩
  | .cutOff _ :: _ => .error ⟨index, none⟩

/-- The text of a byte sequence, if it is well-formed. -/
def decode (bytes : ByteArray) : Except Malformed String :=
  (collect 0 (parts bytes.data.toList)).map String.ofList

end SyntaxCorpus.Text.Utf8
