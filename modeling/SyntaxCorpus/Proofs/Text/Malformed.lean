/-
SyntaxCorpus.Proofs.Text.Malformed — where bytes stop being the encoding of a
text.

A lead byte and the ranges of the bytes after it leave out everything that the
encoding of a character is not, so a part that is read as a character is the
encoding of this character. Reading stops at the first other part, and no longer
front of the bytes is the encoding of a text, because that would be read, too.

* `LeadClass` — the ranges after a lead byte, by its number.
* `utf8EncodeChar_assemble` — a lead byte and bytes in its ranges are the encoding
  of a character: no overlong form, no surrogate, nothing above U+10FFFF.
* `reads_parts` — the first part of any bytes.
* `StopsAt` — the place where the longest encoding of a text at the front ends.
* `decode_cases` — bytes are the encoding of the text that is read, or there is
  none and reading stops at this place.
-/
import Mathlib.Order.Bounds.Basic
import SyntaxCorpus.Proofs.Text.Utf8

namespace SyntaxCorpus.Text.Utf8

/-! ## Lead bytes -/

/-- The ranges of the bytes that follow a lead byte. The second byte is
restricted after the lead bytes that start overlong forms, surrogates or numbers
above the greatest code point. -/
inductive LeadClass (lead : Nat) : List ByteRange → Prop
  | one (h : lead < 0x80) : LeadClass lead []
  | two (hlow : 0xC2 ≤ lead) (hhigh : lead < 0xE0) : LeadClass lead [tail]
  | three {r : ByteRange} (hlow : 0xE0 ≤ lead) (hhigh : lead < 0xF0)
      (hfrom : 0x80 ≤ r.low.toNat) (hto : r.high.toNat ≤ 0xBF)
      (hoverlong : lead = 0xE0 → 0xA0 ≤ r.low.toNat)
      (hsurrogate : lead = 0xED → r.high.toNat ≤ 0x9F) : LeadClass lead [r, tail]
  | four {r : ByteRange} (hlow : 0xF0 ≤ lead) (hhigh : lead < 0xF5)
      (hfrom : 0x80 ≤ r.low.toNat) (hto : r.high.toNat ≤ 0xBF)
      (hoverlong : lead = 0xF0 → 0x90 ≤ r.low.toNat)
      (hgreatest : lead = 0xF4 → r.high.toNat ≤ 0x8F) : LeadClass lead [r, tail, tail]

theorem leadClass_of_continuations {lead : UInt8} {ranges : List ByteRange}
    (h : continuations lead = some ranges) : LeadClass lead.toNat ranges := by
  have hlead := continuations_ofNat lead.toNat_lt
  rw [UInt8.ofNat_toNat, h] at hlead
  have hlow : tail.low.toNat = 0x80 := rfl
  have hhigh : tail.high.toNat = 0xBF := rfl
  by_cases h₁ : lead.toNat < 0x80
  · rw [if_pos h₁] at hlead
    cases hlead
    exact .one (by omega)
  rw [if_neg h₁] at hlead
  by_cases h₂ : lead.toNat < 0xC2
  · rw [if_pos h₂] at hlead
    cases hlead
  rw [if_neg h₂] at hlead
  by_cases h₃ : lead.toNat < 0xE0
  · rw [if_pos h₃] at hlead
    cases hlead
    exact .two (by omega) (by omega)
  rw [if_neg h₃] at hlead
  by_cases h₄ : lead.toNat = 0xE0
  · rw [if_pos h₄] at hlead
    cases hlead
    exact .three (by omega) (by omega) (by decide) (by decide) (fun _ => by decide) (by omega)
  rw [if_neg h₄] at hlead
  by_cases h₅ : lead.toNat = 0xED
  · rw [if_pos h₅] at hlead
    cases hlead
    exact .three (by omega) (by omega) (by decide) (by decide) (by omega) (fun _ => by decide)
  rw [if_neg h₅] at hlead
  by_cases h₆ : lead.toNat < 0xF0
  · rw [if_pos h₆] at hlead
    cases hlead
    exact .three (by omega) (by omega) (by decide) (by decide) (by omega) (by omega)
  rw [if_neg h₆] at hlead
  by_cases h₇ : lead.toNat = 0xF0
  · rw [if_pos h₇] at hlead
    cases hlead
    exact .four (by omega) (by omega) (by decide) (by decide) (fun _ => by decide) (by omega)
  rw [if_neg h₇] at hlead
  by_cases h₈ : lead.toNat < 0xF4
  · rw [if_pos h₈] at hlead
    cases hlead
    exact .four (by omega) (by omega) (by decide) (by decide) (by omega) (by omega)
  rw [if_neg h₈] at hlead
  by_cases h₉ : lead.toNat = 0xF4
  · rw [if_pos h₉] at hlead
    cases hlead
    exact .four (by omega) (by omega) (by decide) (by decide) (by omega) (fun _ => by decide)
  rw [if_neg h₉] at hlead
  cases hlead

/-! ## Bytes that are read as a character -/

theorem has_iff {r : ByteRange} {b : UInt8} :
    r.has b = true ↔ r.low.toNat ≤ b.toNat ∧ b.toNat ≤ r.high.toNat := by
  simp [ByteRange.has, UInt8.le_iff_toNat_le]

theorem toNat_val_ofNat {v : Nat} (h : IsScalarValue v) : (Char.ofNat v).val.toNat = v := by
  have hvalid : v.isValidChar := h
  rw [Char.ofNat, dif_pos hvalid]
  rfl

theorem ofNat_eq {n : Nat} {b : UInt8} (h : n = b.toNat) : UInt8.ofNat n = b := by
  rw [h, UInt8.ofNat_toNat]

/-- A lead byte and bytes in its ranges are the encoding of a character. -/
theorem utf8EncodeChar_assemble {lead : UInt8} {ranges : List ByteRange} {more : List UInt8}
    (hlead : continuations lead = some ranges)
    (hmore : List.Forall₂ (fun r b => r.has b = true) ranges more) :
    String.utf8EncodeChar (assemble lead more) = lead :: more := by
  have htail : ∀ {b : UInt8}, tail.has b = true → 0x80 ≤ b.toNat ∧ b.toNat ≤ 0xBF :=
    fun h => has_iff.mp h
  have hbyte := lead.toNat_lt
  cases leadClass_of_continuations hlead with
  | one h =>
    cases hmore
    have hread : assemble lead [] = Char.ofNat lead.toNat := rfl
    have hval := toNat_val_ofNat (v := lead.toNat) (.inl (by omega))
    rw [hread, String.utf8EncodeChar.eq_1, hval]
    rw [if_pos (by omega), ofNat_eq rfl]
  | two hlow hhigh =>
    obtain _ | ⟨hb, hnil⟩ := hmore
    cases hnil
    rename_i b
    obtain ⟨hb₁, hb₂⟩ := htail hb
    have hread : assemble lead [b] = Char.ofNat (lead.toNat % 0x20 * 0x40 + b.toNat % 0x40) := rfl
    have hval := toNat_val_ofNat (v := lead.toNat % 0x20 * 0x40 + b.toNat % 0x40)
      (.inl (by omega))
    rw [hread, String.utf8EncodeChar.eq_1, hval]
    rw [if_neg (by omega), if_pos (by omega), ofNat_eq (b := lead) (by omega),
      ofNat_eq (b := b) (by omega)]
  | three hlow hhigh hfrom hto hoverlong hsurrogate =>
    obtain _ | ⟨hb, hmore⟩ := hmore
    obtain _ | ⟨hc, hnil⟩ := hmore
    cases hnil
    rename_i r b c
    obtain ⟨hb₁, hb₂⟩ := has_iff.mp hb
    obtain ⟨hc₁, hc₂⟩ := htail hc
    have hread : assemble lead [b, c] = Char.ofNat
        ((lead.toNat % 0x10 * 0x40 + b.toNat % 0x40) * 0x40 + c.toNat % 0x40) := rfl
    have hval := toNat_val_ofNat
      (v := (lead.toNat % 0x10 * 0x40 + b.toNat % 0x40) * 0x40 + c.toNat % 0x40)
      (by unfold IsScalarValue; omega)
    rw [hread, String.utf8EncodeChar.eq_1, hval]
    rw [if_neg (by omega), if_neg (by omega), if_pos (by omega), ofNat_eq (b := lead) (by omega),
      ofNat_eq (b := b) (by omega), ofNat_eq (b := c) (by omega)]
  | four hlow hhigh hfrom hto hoverlong hgreatest =>
    obtain _ | ⟨hb, hmore⟩ := hmore
    obtain _ | ⟨hc, hmore⟩ := hmore
    obtain _ | ⟨hd, hnil⟩ := hmore
    cases hnil
    rename_i r b c d
    obtain ⟨hb₁, hb₂⟩ := has_iff.mp hb
    obtain ⟨hc₁, hc₂⟩ := htail hc
    obtain ⟨hd₁, hd₂⟩ := htail hd
    have hread : assemble lead [b, c, d] = Char.ofNat
        (((lead.toNat % 0x08 * 0x40 + b.toNat % 0x40) * 0x40 + c.toNat % 0x40) * 0x40
          + d.toNat % 0x40) := rfl
    have hval := toNat_val_ofNat
      (v := ((lead.toNat % 0x08 * 0x40 + b.toNat % 0x40) * 0x40 + c.toNat % 0x40) * 0x40
        + d.toNat % 0x40) (by unfold IsScalarValue; omega)
    rw [hread, String.utf8EncodeChar.eq_1, hval]
    rw [if_neg (by omega), if_neg (by omega), if_neg (by omega), ofNat_eq (b := lead) (by omega),
      ofNat_eq (b := b) (by omega), ofNat_eq (b := c) (by omega), ofNat_eq (b := d) (by omega)]

/-! ## The first part -/

theorem matchRanges_eq (ranges : List ByteRange) (bs : List UInt8) :
    bs = (matchRanges ranges bs).1 ++ (matchRanges ranges bs).2 ∧
      ((matchRanges ranges bs).1.length = ranges.length →
        List.Forall₂ (fun r b => r.has b = true) ranges (matchRanges ranges bs).1) := by
  fun_induction matchRanges ranges bs with
  | case1 r ranges b bs hb front rest hmatch ih =>
    rw [hmatch] at ih
    refine ⟨by rw [List.cons_append, ← ih.1], fun hlength => ?_⟩
    exact .cons hb (ih.2 (by simpa using hlength))
  | case2 r ranges b bs hb => exact ⟨rfl, by simp⟩
  | case3 ranges bs hends =>
    refine ⟨rfl, fun hlength => ?_⟩
    obtain rfl := List.length_eq_zero_iff.mp hlength.symm
    exact .nil

/-- The parts of bytes: none, a character and the parts of what follows its
encoding, or first of all a part that is no character. -/
inductive Reads : List UInt8 → List Part → Prop
  | nil : Reads [] []
  | char (c : Char) (rest : List UInt8) :
      Reads (String.utf8EncodeChar c ++ rest)
        (.char c (String.utf8EncodeChar c).length :: parts rest)
  | illFormed (bs : List UInt8) (n : Nat) (ps : List Part) : Reads bs (.illFormed n :: ps)
  | cutOff (bs : List UInt8) (n : Nat) (ps : List Part) : Reads bs (.cutOff n :: ps)

theorem reads_parts (bs : List UInt8) : Reads bs (parts bs) := by
  cases bs with
  | nil =>
    rw [parts]
    exact .nil
  | cons lead bs =>
    rw [parts]
    split
    · exact .illFormed _ _ _
    · rename_i ranges hlead
      obtain ⟨hbytes, hranges⟩ := matchRanges_eq ranges bs
      dsimp only
      split_ifs with hfull hend
      · have hfound := hranges (by simpa using hfull)
        have hencoded := utf8EncodeChar_assemble hlead hfound
        have hread := Reads.char (assemble lead (matchRanges ranges bs).1) (matchRanges ranges bs).2
        rw [hencoded, List.length_cons, Nat.add_comm, List.cons_append, ← hbytes] at hread
        exact hread
      · exact .cutOff _ _ _
      · exact .illFormed _ _ _

/-! ## Texts at the front -/

/-- Reading goes on. -/
theorem le_index_of_collect {ps : List Part} {m : Malformed} :
    ∀ {index}, collect index ps = .error m → index ≤ m.index := by
  induction ps with
  | nil =>
    intro index h
    cases h
  | cons p ps ih =>
    intro index h
    cases p with
    | char c n =>
      rw [collect] at h
      cases hrest : collect (index + n) ps with
      | ok cs =>
        rw [hrest] at h
        cases h
      | error m' =>
        rw [hrest] at h
        cases h
        exact Nat.le_of_add_right_le (ih hrest)
    | illFormed n =>
      cases h
      exact Nat.le_refl _
    | cutOff n =>
      cases h
      exact Nat.le_refl _

/-- Reading takes a text from the front: all of the bytes, or up to the place where
it stops. -/
theorem exists_encoded_of_collect (index : Nat) (bs : List UInt8) :
    (∃ cs, bs = encoded cs ∧ collect index (parts bs) = .ok cs) ∨
      ∃ cs rest m, bs = encoded cs ++ rest ∧ collect index (parts bs) = .error m ∧
        m.index = index + (encoded cs).length := by
  induction hlength : bs.length using Nat.strong_induction_on generalizing index bs with
  | _ length ih =>
  have hreads := reads_parts bs
  generalize hparts : parts bs = ps at hreads
  cases hreads with
  | nil => exact .inl ⟨[], rfl, rfl⟩
  | char c rest =>
    have hc : 0 < (String.utf8EncodeChar c).length := by
      rw [String.length_utf8EncodeChar]
      exact c.utf8Size_pos
    have hshort : rest.length < length := by
      rw [← hlength, List.length_append]
      omega
    have hcons : ∀ cs, encoded (c :: cs) = String.utf8EncodeChar c ++ encoded cs :=
      fun _ => List.flatMap_cons
    rw [collect]
    rcases ih _ hshort (index + (String.utf8EncodeChar c).length) rest rfl with
      ⟨cs, hrest, hcollect⟩ | ⟨cs, last, m, hrest, hcollect, hm⟩
    · refine .inl ⟨c :: cs, by rw [hcons, ← hrest], ?_⟩
      rw [hcollect]
      rfl
    · refine .inr ⟨c :: cs, last, m, by rw [hcons, List.append_assoc, ← hrest], ?_, ?_⟩
      · rw [hcollect]
        rfl
      · rw [hm, hcons, List.length_append, Nat.add_assoc]
  | illFormed bs n ps => exact .inr ⟨[], bs, ⟨index, some n⟩, rfl, rfl, rfl⟩
  | cutOff bs n ps => exact .inr ⟨[], bs, ⟨index, none⟩, rfl, rfl, rfl⟩

/-! ## Bytes -/

/-- The longest encoding of a text at the front of bytes ends at this index. -/
def StopsAt (b : ByteArray) (index : Nat) : Prop :=
  IsGreatest {n | n ≤ b.size ∧ (b.extract 0 n).IsValidUTF8} index

theorem isValidUTF8_iff {b : ByteArray} : b.IsValidUTF8 ↔ ∃ cs, b.data.toList = encoded cs := by
  constructor
  · rintro ⟨cs, rfl⟩
    exact ⟨cs, toList_utf8Encode cs⟩
  · rintro ⟨cs, h⟩
    exact ⟨cs, ByteArray.ext (Array.ext' (h.trans (toList_utf8Encode cs).symm))⟩

theorem toList_extract (b : ByteArray) (n : Nat) :
    (b.extract 0 n).data.toList = b.data.toList.take n := by
  rw [ByteArray.data_extract, Array.toList_extract]
  simp

/-- Bytes are the encoding of the text that is read, or they are the encoding of
none, and reading stops where the longest one at their front ends. -/
theorem decode_cases (b : ByteArray) :
    (∃ s : String, b = s.toUTF8 ∧ decode b = .ok s) ∨
      ¬ b.IsValidUTF8 ∧ ∃ m, decode b = .error m ∧ StopsAt b m.index := by
  rcases exists_encoded_of_collect 0 b.data.toList with
    ⟨cs, hbytes, -⟩ | ⟨cs, rest, m, hbytes, hcollect, hm⟩
  · have htext : b = (String.ofList cs).toUTF8 := by
      refine ByteArray.ext (Array.ext' ?_)
      rw [hbytes, toList_toUTF8, String.toList_ofList]
    exact .inl ⟨_, htext, htext ▸ decode_toUTF8 _⟩
  · have hdecode : decode b = .error m := by
      rw [decode, hcollect]
      rfl
    -- a text at the front is read, so reading does not stop before it ends
    have hlongest : ∀ ds more, b.data.toList = encoded ds ++ more →
        (encoded ds).length ≤ m.index := by
      intro ds more hfront
      rw [hfront, collect_parts_append] at hcollect
      cases hmore : collect (0 + (encoded ds).length) (parts more) with
      | ok es =>
        rw [hmore] at hcollect
        cases hcollect
      | error m' =>
        rw [hmore] at hcollect
        cases hcollect
        have hle := le_index_of_collect hmore
        rwa [Nat.zero_add] at hle
    have hsize : b.size = b.data.toList.length := rfl
    refine .inr ⟨fun hvalid => ?_, m, hdecode, ⟨?_, ?_⟩, ?_⟩
    · obtain ⟨ds, hds⟩ := isValidUTF8_iff.mp hvalid
      rw [← List.append_nil b.data.toList, hds, collect_parts_append, parts] at hcollect
      cases hcollect
    · rw [hsize, hbytes, hm, List.length_append]
      omega
    · rw [isValidUTF8_iff]
      exact ⟨cs, by rw [toList_extract, hbytes, hm, Nat.zero_add, List.take_left]⟩
    · rintro n ⟨hn, hvalid⟩
      obtain ⟨ds, hds⟩ := isValidUTF8_iff.mp hvalid
      rw [toList_extract] at hds
      have hlength : (encoded ds).length = n := by
        rw [← hds, List.length_take]
        omega
      exact hlength ▸ hlongest ds (b.data.toList.drop n) (by rw [← hds, List.take_append_drop])

end SyntaxCorpus.Text.Utf8
