/-
SyntaxCorpus.Proofs.Text.Utf8 — the bytes of a text are read as this text.

A text is encoded character by character, and read lead byte by lead byte. The
ranges that may follow a lead byte are those that the encoding uses, so every
encoded character is one well-formed part.

* `parts_cons` — a lead byte with continuation bytes in its ranges.
* `continuations_ofNat` — what may follow a lead byte, by its number.
* `parts_utf8EncodeChar` — an encoded character is a part of its own.
* `collect_parts_append` — an encoded text is read in front of anything.
* `decode_toUTF8` — the round trip.
-/
import Mathlib.Data.List.Forall2
import SyntaxCorpus.Text.Utf8

namespace SyntaxCorpus.Text.Utf8

/-! ## Bytes in their ranges -/

theorem toNat_ofNat {n : Nat} (h : n < 256) : (UInt8.ofNat n).toNat = n := by
  rw [UInt8.toNat_ofNat', Nat.mod_eq_of_lt h]

theorem has_ofNat {r : ByteRange} {n : Nat} (hlow : r.low.toNat ≤ n) (hhigh : n ≤ r.high.toNat) :
    r.has (UInt8.ofNat n) = true := by
  have hn := toNat_ofNat (Nat.lt_of_le_of_lt hhigh r.high.toNat_lt)
  simp only [ByteRange.has, Bool.and_eq_true, decide_eq_true_eq, UInt8.le_iff_toNat_le, hn]
  exact ⟨hlow, hhigh⟩

theorem matchRanges_append {rs : List ByteRange} {bs : List UInt8}
    (h : List.Forall₂ (fun r b => r.has b = true) rs bs) (rest : List UInt8) :
    matchRanges rs (bs ++ rest) = (bs, rest) := by
  induction h with
  | nil => cases rest <;> rfl
  | cons hr _ ih => simp [matchRanges, hr, ih]

/-- A lead byte with continuation bytes in its ranges is a character. -/
theorem parts_cons {lead : UInt8} {ranges : List ByteRange} {more : List UInt8}
    (hlead : continuations lead = some ranges)
    (hmore : List.Forall₂ (fun r b => r.has b = true) ranges more) (rest : List UInt8) :
    parts (lead :: more ++ rest)
      = .char (assemble lead more) (1 + more.length) :: parts rest := by
  rw [List.cons_append, parts, hlead]
  simp [matchRanges_append hmore, hmore.length_eq]

/-- What may follow a lead byte. -/
theorem continuations_ofNat {n : Nat} (h : n < 256) : continuations (UInt8.ofNat n) =
    if n < 0x80 then some []
    else if n < 0xC2 then none
    else if n < 0xE0 then some [tail]
    else if n = 0xE0 then some [⟨0xA0, 0xBF⟩, tail]
    else if n = 0xED then some [⟨0x80, 0x9F⟩, tail]
    else if n < 0xF0 then some [tail, tail]
    else if n = 0xF0 then some [⟨0x90, 0xBF⟩, tail, tail]
    else if n < 0xF4 then some [tail, tail, tail]
    else if n = 0xF4 then some [⟨0x80, 0x8F⟩, tail, tail]
    else none := by
  simp [continuations, UInt8.lt_iff_toNat_lt, ← UInt8.toNat_inj, toNat_ofNat h]

/-! ## Encoded characters -/

/-- The code points of characters: no surrogates, and none above the greatest
one. -/
def IsScalarValue (v : Nat) : Prop := v < 0xD800 ∨ 0xDFFF < v ∧ v < 0x110000

theorem tail_has (n : Nat) : tail.has (UInt8.ofNat (n % 64 + 128)) = true := by
  refine has_ofNat ?_ ?_
  · show 0x80 ≤ n % 64 + 128
    omega
  · show n % 64 + 128 ≤ 0xBF
    omega

section

variable {v : Nat}

theorem continuations_one (h : v ≤ 127) : continuations (UInt8.ofNat v) = some [] := by
  rw [continuations_ofNat (by omega), if_pos (by omega)]

/-- No overlong form has two bytes. -/
theorem continuations_two (hlow : 127 < v) (hhigh : v ≤ 2047) :
    continuations (UInt8.ofNat (v / 64 % 32 + 192)) = some [tail] := by
  rw [continuations_ofNat (by omega), if_neg (by omega), if_neg (by omega), if_pos (by omega)]

/-- Of the forms of three bytes, the overlong ones and the surrogates have a
second byte out of range. -/
theorem continuations_three (h : IsScalarValue v) (hlow : 2047 < v) (hhigh : v ≤ 65535) :
    ∃ r : ByteRange, continuations (UInt8.ofNat (v / 4096 % 16 + 224)) = some [r, tail] ∧
      r.has (UInt8.ofNat (v / 64 % 64 + 128)) = true := by
  unfold IsScalarValue at h
  rw [continuations_ofNat (by omega), if_neg (by omega), if_neg (by omega), if_neg (by omega)]
  split
  · refine ⟨_, rfl, has_ofNat ?_ ?_⟩
    · show 0xA0 ≤ v / 64 % 64 + 128
      omega
    · show v / 64 % 64 + 128 ≤ 0xBF
      omega
  · split
    · refine ⟨_, rfl, has_ofNat ?_ ?_⟩
      · show 0x80 ≤ v / 64 % 64 + 128
        omega
      · show v / 64 % 64 + 128 ≤ 0x9F
        omega
    · rw [if_pos (by omega)]
      exact ⟨tail, rfl, tail_has _⟩

/-- So do the forms of four bytes that are overlong or above the greatest code
point. -/
theorem continuations_four (h : IsScalarValue v) (hlow : 65535 < v) :
    ∃ r : ByteRange, continuations (UInt8.ofNat (v / 262144 % 8 + 240)) = some [r, tail, tail] ∧
      r.has (UInt8.ofNat (v / 4096 % 64 + 128)) = true := by
  unfold IsScalarValue at h
  rw [continuations_ofNat (by omega), if_neg (by omega), if_neg (by omega), if_neg (by omega),
    if_neg (by omega), if_neg (by omega), if_neg (by omega)]
  split
  · refine ⟨_, rfl, has_ofNat ?_ ?_⟩
    · show 0x90 ≤ v / 4096 % 64 + 128
      omega
    · show v / 4096 % 64 + 128 ≤ 0xBF
      omega
  · split
    · exact ⟨tail, rfl, tail_has _⟩
    · rw [if_pos (by omega)]
      refine ⟨_, rfl, has_ofNat ?_ ?_⟩
      · show 0x80 ≤ v / 4096 % 64 + 128
        omega
      · show v / 4096 % 64 + 128 ≤ 0x8F
        omega

end

/-- The bytes of a character are read as this character. -/
theorem parts_utf8EncodeChar (c : Char) (rest : List UInt8) :
    parts (String.utf8EncodeChar c ++ rest)
      = .char c (String.utf8EncodeChar c).length :: parts rest := by
  obtain hvalid : IsScalarValue c.toNat := c.valid
  have hchar : ∀ n, n = c.toNat → Char.ofNat n = c := fun n hn => hn ▸ c.ofNat_toNat
  have hval : c.val.toNat = c.toNat := rfl
  rw [String.utf8EncodeChar.eq_1, hval]
  generalize c.toNat = v at hvalid hchar
  split
  · rename_i hone
    have hread : assemble (UInt8.ofNat v) [] = c := by
      refine hchar _ ?_
      simp [leadBits]
      omega
    rw [parts_cons (continuations_one hone) .nil, hread]
    rfl
  · rename_i hone
    split
    · rename_i htwo
      have hread : assemble (UInt8.ofNat (v / 64 % 32 + 192)) [UInt8.ofNat (v % 64 + 128)] = c := by
        refine hchar _ ?_
        simp [leadBits]
        omega
      rw [parts_cons (continuations_two (by omega) htwo) (.cons (tail_has v) .nil), hread]
      rfl
    · rename_i htwo
      split
      · rename_i hthree
        obtain ⟨r, hlead, hsecond⟩ := continuations_three hvalid (by omega) hthree
        have hread : assemble (UInt8.ofNat (v / 4096 % 16 + 224))
            [UInt8.ofNat (v / 64 % 64 + 128), UInt8.ofNat (v % 64 + 128)] = c := by
          refine hchar _ ?_
          simp [leadBits]
          omega
        rw [parts_cons hlead (.cons hsecond (.cons (tail_has v) .nil)), hread]
        rfl
      · obtain ⟨r, hlead, hsecond⟩ := continuations_four hvalid (by omega)
        have hread : assemble (UInt8.ofNat (v / 262144 % 8 + 240))
            [UInt8.ofNat (v / 4096 % 64 + 128), UInt8.ofNat (v / 64 % 64 + 128),
              UInt8.ofNat (v % 64 + 128)] = c := by
          refine hchar _ ?_
          unfold IsScalarValue at hvalid
          simp [leadBits]
          omega
        rw [parts_cons hlead (.cons hsecond (.cons (tail_has _) (.cons (tail_has v) .nil))), hread]
        rfl

/-! ## Texts -/

/-- The bytes of a text, character by character. -/
def encoded (cs : List Char) : List UInt8 := cs.flatMap String.utf8EncodeChar

/-- The characters of a text at the front are read, and what follows them is read as
it is alone. -/
theorem collect_parts_append (cs : List Char) (rest : List UInt8) : ∀ index,
    collect index (parts (encoded cs ++ rest))
      = (collect (index + (encoded cs).length) (parts rest)).map (cs ++ ·) := by
  induction cs with
  | nil =>
    intro index
    cases h : collect index (parts rest) <;> simp [encoded, h, Except.map]
  | cons c cs ih =>
    intro index
    have hbytes : encoded (c :: cs) = String.utf8EncodeChar c ++ encoded cs := List.flatMap_cons
    rw [hbytes, List.append_assoc, parts_utf8EncodeChar, collect, ih, List.length_append,
      ← Nat.add_assoc]
    cases collect (index + (String.utf8EncodeChar c).length + (encoded cs).length) (parts rest) <;>
      rfl

theorem toList_utf8Encode (cs : List Char) : cs.utf8Encode.data.toList = encoded cs := by
  rw [List.utf8Encode, List.data_toByteArray]
  rfl

theorem toList_toUTF8 (s : String) : s.toUTF8.data.toList = encoded s.toList := by
  rw [String.toUTF8_eq_toByteArray, ← String.utf8Encode_toList, toList_utf8Encode]

/-- The bytes of a text are read as this text. -/
theorem decode_toUTF8 (s : String) : decode s.toUTF8 = .ok s := by
  rw [decode, toList_toUTF8, ← List.append_nil (encoded _), collect_parts_append, parts]
  simp [collect, Except.map]

end SyntaxCorpus.Text.Utf8
