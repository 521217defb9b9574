/-
SyntaxCorpus.Proofs.Discovery.Escape — a file is found by its path, with the
wildcards in brackets.

A bracket expression with a single wildcard stands for that character, in any
place of a name. So the names that fit such a part are just the one that it is
made from. A pattern is looked up part by part, though, and slashes are lost on
the way; so what is found is not the path as it is written, but another text of
the same path. A part in brackets is looked up in the list of names of its directory,
and each of the parts from the first one in brackets on is a level of the search.

* `Pattern.escape` — wildcards in brackets.
* `Pattern.matchesName_escape` — a name fits itself, and nothing else does.
* `Pattern.ListsWildcards`, `Pattern.levels` — what a search asks of the directories, and
  how many levels it goes down.
* `Pattern.expandReversed_escape` — the paths that fit are texts of the same path.
* `findFiles_escape` — so the file is found, and nothing else.
* `findFiles_escape_tooDeep`, `findFiles_escape_misses` — unless the search needs too many
  levels, or a directory cannot be listed.
-/
import Mathlib.Data.List.TakeWhile
import Mathlib.Tactic.Choose
import SyntaxCorpus.Proofs.Discovery.Selection
import SyntaxCorpus.Proofs.FileSystem.Tidy
import SyntaxCorpus.Proofs.Pattern.Expand
import SyntaxCorpus.Proofs.Pattern.Wildcard

namespace SyntaxCorpus

namespace Pattern

/-! ## Wildcards in brackets -/

/-- Characters, with each wildcard in brackets. -/
def escapeChars (cs : List Char) : List Char :=
  cs.flatMap fun c => if isWildcard c then ['[', c, ']'] else [c]

/-- A text with each wildcard in brackets. -/
def escape (s : String) : String := String.ofList (escapeChars s.toList)

theorem isWildcard_iff {c : Char} : isWildcard c = true ↔ c = '*' ∨ c = '?' ∨ c = '[' := by
  simp [isWildcard, or_assoc]

theorem escapeChars_of_wildcard {c : Char} (h : isWildcard c = true) (cs : List Char) :
    escapeChars (c :: cs) = '[' :: c :: ']' :: escapeChars cs := by
  simp [escapeChars, h]

theorem escapeChars_of_not_wildcard {c : Char} (h : isWildcard c = false) (cs : List Char) :
    escapeChars (c :: cs) = c :: escapeChars cs := by
  simp [escapeChars, h]

theorem escapeChars_append (cs ds : List Char) :
    escapeChars (cs ++ ds) = escapeChars cs ++ escapeChars ds := List.flatMap_append

theorem escapeChars_eq_self {cs : List Char} (h : cs.any isWildcard = false) :
    escapeChars cs = cs := by
  induction cs with
  | nil => rfl
  | cons c cs ih =>
    rw [List.any_cons, Bool.or_eq_false_iff] at h
    rw [escapeChars_of_not_wildcard h.1, ih h.2]

theorem escapeChars_ne_nil {cs : List Char} (h : cs ≠ []) : escapeChars cs ≠ [] := by
  obtain ⟨c, rest, rfl⟩ := List.exists_cons_of_ne_nil h
  cases hc : isWildcard c with
  | true => simp [escapeChars_of_wildcard hc]
  | false => simp [escapeChars_of_not_wildcard hc]

theorem any_escapeChars (cs : List Char) :
    (escapeChars cs).any isWildcard = cs.any isWildcard := by
  induction cs with
  | nil => rfl
  | cons c cs ih =>
    cases hc : isWildcard c with
    | true =>
      have hopen : isWildcard '[' = true := rfl
      simp only [escapeChars_of_wildcard hc, List.any_cons, hc, hopen, Bool.true_or]
    | false => rw [escapeChars_of_not_wildcard hc, List.any_cons, List.any_cons, ih]

theorem escape_ofList (cs : List Char) :
    escape (String.ofList cs) = String.ofList (escapeChars cs) := by
  rw [escape, String.toList_ofList]

theorem escape_eq_self {s : String} (h : hasWildcard s = false) : escape s = s := by
  rw [escape, escapeChars_eq_self h, String.ofList_toList]

theorem hasWildcard_escape (s : String) : hasWildcard (escape s) = hasWildcard s := by
  rw [hasWildcard, escape, String.toList_ofList, any_escapeChars, hasWildcard]

theorem mem_escapeChars {c : Char} {cs : List Char} (h : c ∈ cs) : c ∈ escapeChars cs := by
  refine List.mem_flatMap.mpr ⟨c, h, ?_⟩
  split <;> simp

/-- No character but brackets is added. -/
theorem mem_escapeChars_iff {d : Char} (hopen : d ≠ '[') (hclose : d ≠ ']') (cs : List Char) :
    d ∈ escapeChars cs ↔ d ∈ cs := by
  induction cs with
  | nil => simp [escapeChars]
  | cons c cs ih =>
    cases hc : isWildcard c with
    | true => simp [escapeChars_of_wildcard hc, ih, hopen, hclose]
    | false => simp [escapeChars_of_not_wildcard hc, ih]

/-! ## Names that fit -/

theorem classBody?_wildcard {c : Char} (h : isWildcard c = true) (rest : List Char) :
    classBody? (c :: ']' :: rest) = some ([c], rest) := by
  rcases isWildcard_iff.mp h with rfl | rfl | rfl <;> rfl

theorem passes_wildcard {c : Char} (h : isWildcard c = true) (d : Char) :
    (CharTest.ofBody [c]).passes d = true ↔ d = c := by
  have hbody : CharTest.ofBody [c] = .oneOf [⟨c, c⟩] := by
    have hchunks : cutRanges 1 [c] = [[c]] := by
      rw [cutRanges]
      rfl
    rcases isWildcard_iff.mp h with rfl | rfl | rfl <;>
      simp [CharTest.ofBody, chunks, hchunks, dropEmptyRanges, marks, ranges]
  rw [hbody]
  simp only [CharTest.passes, CharRange.has, List.any_cons, List.any_nil, Bool.or_false,
    Bool.and_eq_true, decide_eq_true_eq]
  exact ⟨fun ⟨hlow, hhigh⟩ => le_antisymm hhigh hlow, fun heq => ⟨heq ▸ le_rfl, heq ▸ le_rfl⟩⟩

theorem fits_escapeChars_iff {cs ds : List Char} : Fits (escapeChars cs) ds ↔ ds = cs := by
  induction cs generalizing ds with
  | nil =>
    constructor
    · intro h
      cases h
      rfl
    · rintro rfl
      exact .done
  | cons c cs ih =>
    cases hc : isWildcard c with
    | true =>
      rw [escapeChars_of_wildcard hc]
      have hbody := classBody?_wildcard hc (escapeChars cs)
      constructor
      · intro h
        cases h with
        | ofClass hbody' hd hrest =>
          obtain ⟨rfl, rfl⟩ := Prod.mk.inj (Option.some.inj (hbody'.symm.trans hbody))
          rw [(passes_wildcard hc _).mp hd, ih.mp hrest]
        | unclosed hbody' _ => cases hbody'.symm.trans hbody
        | same hp _ => cases hp
      · rintro rfl
        exact .ofClass hbody ((passes_wildcard hc c).mpr rfl) (ih.mpr rfl)
    | false =>
      rw [escapeChars_of_not_wildcard hc]
      constructor
      · intro h
        cases h with
        | run _ _ => cases hc
        | any _ _ => cases hc
        | ofClass _ _ _ => cases hc
        | unclosed _ _ => cases hc
        | same _ hrest => rw [ih.mp hrest]
      · rintro rfl
        exact .same hc (ih.mpr rfl)

/-- A name fits itself with its wildcards in brackets, and nothing else does. -/
theorem matchesName_escape (part name : String) :
    matchesName (escape part) name = true ↔ name = part := by
  rw [matchesName_iff, escape, String.toList_ofList, fits_escapeChars_iff, String.toList_inj]

/-- No text becomes the part for any number of names. -/
theorem escape_ne_anyDepth (part : String) : escape part ≠ anyDepth := by
  intro h
  have hnil : Fits ['*', '*'] [] := .run [] (.run [] .done)
  have hone : Fits ['*', '*'] ['a'] := .run ['a'] (.run [] .done)
  have hchars : escapeChars part.toList = ['*', '*'] := by
    rw [← String.toList_ofList (l := escapeChars part.toList), ← escape, h]
    rfl
  rw [← hchars, fits_escapeChars_iff] at hnil hone
  cases hnil.trans hone.symm

/-! ## A part in a directory -/

section

variable {fs : FileSystem} {depth : Nat} {directoriesOnly : Bool} {directory part : String}

theorem isDirectory_of_status {path : String} {l : Location}
    (h : fs.status path = .ok (l, .directory)) : fs.isDirectory path = true := by
  rw [FileSystem.isDirectory, h]

/-- A part with its wildcards in brackets stands for itself, wherever its name
is. -/
theorem expandPart_escape {l m : Location} {n : Node} (hpart : part ≠ "")
    (hdirectory : fs.status (lookup directory) = .ok (l, .directory))
    (hlisted : hasWildcard part = true → l ∉ fs.unlisted)
    (hentry : hasWildcard part = true → (fs.node? (l ++ [part])).isSome = true)
    (hpath : fs.status (pathIn directory part) = .ok (m, n))
    (hkind : directoriesOnly = true → n = .directory) :
    ∃ xs, expandPart fs depth directoriesOnly directory (escape part) = .ok xs ∧ xs ≠ [] ∧
      ∀ x ∈ xs, x = part := by
  rw [expandPart, if_neg (by simpa using escape_ne_anyDepth part)]
  cases hwildcard : hasWildcard part with
  | true =>
    obtain ⟨names, hnames, hmem⟩ :=
      @namesIn_of_directory fs directoriesOnly directory l hdirectory (hlisted hwildcard)
    have hin : part ∈ names := by
      refine (hmem part).mpr ⟨hentry hwildcard, fun honly => ?_⟩
      rw [hkind honly] at hpath
      exact isDirectory_of_status hpath
    rw [if_pos (by rw [hasWildcard_escape, hwildcard]), hnames]
    refine ⟨_, rfl, ?_, fun x hx => ?_⟩
    · exact List.ne_nil_of_mem
        (List.mem_filter.mpr ⟨hin, (matchesName_escape part part).mpr rfl⟩)
    · exact (matchesName_escape part x).mp (List.mem_filter.mp hx).2
  | false =>
    rw [escape_eq_self hwildcard, if_neg (by simp [hwildcard]), if_neg (by simpa using hpart),
      if_pos (FileSystem.has_of_status hpath)]
    exact ⟨[part], rfl, List.cons_ne_nil _ _, fun x hx => List.mem_singleton.mp hx⟩

/-- A part with its wildcards in brackets stands for itself in each of some
directories. -/
theorem expandIn_escape {directories : List String} (hne : directories ≠ [])
    (h : ∀ d ∈ directories, ∃ xs, expandPart fs depth directoriesOnly d (escape part) = .ok xs ∧
      xs ≠ [] ∧ ∀ x ∈ xs, x = part) :
    ∃ xs, expandIn fs depth directoriesOnly (escape part) directories = .ok xs ∧ xs ≠ [] ∧
      ∀ x ∈ xs, ∃ d ∈ directories, x = joined d part := by
  choose! found hfound using h
  have hok : ∀ d ∈ directories, (expandPart fs depth directoriesOnly d (escape part)).map
      (·.map (joined d)) = .ok ((found d).map (joined d)) := by
    intro d hd
    rw [(hfound d hd).1]
    rfl
  refine ⟨_, flatten_of_ok hok, ?_, fun x hx => ?_⟩
  · obtain ⟨d, rest, rfl⟩ := List.exists_cons_of_ne_nil hne
    obtain ⟨-, hsome, -⟩ := hfound d (List.mem_cons_self ..)
    simp [hsome]
  · obtain ⟨d, hd, hx⟩ := List.mem_flatMap.mp hx
    obtain ⟨y, hy, rfl⟩ := List.mem_map.mp hx
    exact ⟨d, hd, by rw [(hfound d hd).2.2 y hy]⟩

end

/-! ## The last part of a path -/

section

variable {parent part : List Char}

theorem getLast?_escapeChars (h : parent.getLast? ≠ some '/') :
    (escapeChars parent).getLast? ≠ some '/' := by
  rcases List.eq_nil_or_concat parent with rfl | ⟨front, c, rfl⟩
  · simp [escapeChars]
  · rw [List.concat_eq_append] at h ⊢
    rw [escapeChars_append]
    cases hc : isWildcard c with
    | true => simp [escapeChars, hc]
    | false => simpa [escapeChars, hc] using h

theorem escapeChars_last_part (parent part : List Char) (more : Nat) :
    escapeChars (parent ++ List.replicate more '/' ++ part)
      = escapeChars parent ++ List.replicate more '/' ++ escapeChars part := by
  have hslashes : (List.replicate more '/').any isWildcard = false := by
    simp [isWildcard]
  rw [escapeChars_append, escapeChars_append, escapeChars_eq_self hslashes]

theorem pieces_last_part (hpart : '/' ∉ part) (parent : List Char) (more : Nat) :
    Text.pieces '/' (String.ofList (parent ++ List.replicate (more + 1) '/' ++ part))
      = Text.pieces '/' (String.ofList parent) ++ (List.replicate more "" ++ [String.ofList part])
      := by
  have hrest : ∀ more, Text.pieces '/' (String.ofList (List.replicate more '/' ++ part))
      = List.replicate more "" ++ [String.ofList part] := by
    intro more
    induction more with
    | zero => exact Text.pieces_of_not_mem (by simpa using hpart)
    | succ more ih =>
      have hcons := Text.pieces_append_cons (List.not_mem_nil : '/' ∉ [])
        (List.replicate more '/' ++ part)
      rw [List.nil_append, ih] at hcons
      rw [List.replicate_succ, List.cons_append, hcons, List.replicate_succ, List.cons_append]
  have htext : String.ofList (parent ++ List.replicate (more + 1) '/' ++ part)
      = String.ofList parent ++ String.singleton '/'
        ++ String.ofList (List.replicate more '/' ++ part) := by
    rw [← String.toList_inj]
    simp [List.replicate_succ]
  rw [htext, Text.pieces_append, hrest]

theorem ofChars_append_of_getLast? (hne : parent ≠ []) (hlast : parent.getLast? ≠ some '/')
    (cs : List Char) : Root.ofChars (parent ++ cs) = Root.ofChars parent := by
  rcases parent with _ | ⟨c, _ | ⟨d, _ | ⟨e, rest⟩⟩⟩
  · exact absurd rfl hne
  · have hc : c ≠ '/' := by simpa using hlast
    simp [Root.ofChars, hc]
  · have hd : d ≠ '/' := by simpa using hlast
    by_cases hc : c = '/' <;> simp [Root.ofChars, hc, hd]
  · by_cases hc : c = '/' <;> by_cases hd : d = '/' <;> by_cases he : e = '/' <;>
      simp [Root.ofChars, hc, hd, he]

/-- Names that lead nowhere after others make no difference. -/
theorem tidies_replicate {names tidied : List String} (h : FileSystem.Tidies names tidied)
    (more : Nat) : FileSystem.Tidies (names ++ List.replicate more "") tidied := by
  have hempties : ∀ more, FileSystem.Tidies (List.replicate more "") [] := by
    intro more
    induction more with
    | zero => exact .nil
    | succ more ih => exact .drop rfl ih
  simpa using h.append (hempties more)

section

variable {fs : FileSystem} {more : Nat} {m : Location} {n : Node} (hpart : '/' ∉ part)
  (h : fs.status (String.ofList (parent ++ List.replicate (more + 1) '/' ++ part)) = .ok (m, n))
include hpart h

/-- A path leads to a directory first, with the slashes after it and without them, and
from there to its last name. -/
theorem status_front : ∃ l left,
    fs.status (String.ofList (parent ++ List.replicate (more + 1) '/')) = .ok (l, .directory) ∧
      (parent ≠ [] → fs.status (String.ofList parent) = .ok (l, .directory)) ∧
      FileSystem.Leads fs .reach left l [String.ofList part] (.present m n) := by
  obtain ⟨hpath, hleads⟩ := FileSystem.status_eq_ok_iff.mp h
  rw [pieces_last_part hpart, ← List.append_assoc] at hleads
  obtain ⟨l, left, hto, hon⟩ := hleads.split
  rw [String.ofList_append] at hpath
  refine ⟨l, left, FileSystem.status_eq_ok_iff.mpr ⟨hpath.of_append (by simp), ?_⟩,
    fun hparent => FileSystem.status_eq_ok_iff.mpr ⟨?_, ?_⟩, hon⟩
  · have hpieces := pieces_last_part (List.not_mem_nil : '/' ∉ []) parent more
    rw [List.append_nil, ← List.append_assoc] at hpieces
    have hstart : startsAtRoot (String.ofList (parent ++ List.replicate (more + 1) '/' ++ part))
        = startsAtRoot (String.ofList (parent ++ List.replicate (more + 1) '/')) := by
      cases parent <;> simp [startsAtRoot, List.replicate_succ]
    rw [FileSystem.startOf, hstart] at hto
    rw [hpieces]
    exact hto.append_empty rfl
  · rw [String.ofList_append, String.append_assoc] at hpath
    exact hpath.of_append (by simpa using hparent)
  · have hstart : startsAtRoot (String.ofList (parent ++ List.replicate (more + 1) '/' ++ part))
        = startsAtRoot (String.ofList parent) := by
      obtain ⟨c, cs, rfl⟩ := List.exists_cons_of_ne_nil hparent
      simp [startsAtRoot]
    rw [FileSystem.startOf, hstart] at hto
    exact hto.tidy (tidies_replicate (.refl _) more)

end
end

/-! ## Names put to directories -/

section

variable {directory part : String}

/-- A name stays the last one. -/
theorem getLast?_joined (hpart : '/' ∉ part.toList) (hne : part ≠ "") (directory : String) :
    (joined directory part).toList.getLast? ≠ some '/' := by
  have hlast := getLast?_append_ne_slash (by simpa using hne) hpart
  rw [joined]
  split
  · exact hlast []
  · split
    · rw [String.toList_append]
      exact hlast _
    · rw [String.toList_append]
      exact hlast _

/-- The last name of a path may be put to the path before it, after one slash. -/
theorem isTidied_append {tidied : String} (hdirectory : directory ≠ "")
    (hlast : directory.toList.getLast? ≠ some '/') (htidied : FileSystem.IsTidied directory tidied)
    (hlast' : tidied.toList.getLast? ≠ some '/') (hpart : '/' ∉ part.toList) (more : Nat) :
    FileSystem.IsTidied
      (String.ofList (directory.toList ++ List.replicate (more + 1) '/' ++ part.toList))
      (tidied ++ "/" ++ part) := by
  have hchars : ∀ {s : String}, s ≠ "" → s.toList ≠ [] := fun h => by simpa using h
  refine ⟨?_, ?_, ?_⟩
  · simp only [String.toList_append, String.toList_ofList, List.append_assoc]
    rw [ofChars_append_of_getLast? (hchars htidied.nonempty) hlast',
      ofChars_append_of_getLast? (hchars hdirectory) hlast]
    exact htidied.root
  · have hslash : Text.pieces '/' (tidied ++ "/" ++ part)
        = Text.pieces '/' tidied ++ Text.pieces '/' part := Text.pieces_append '/' tidied part
    rw [pieces_last_part hpart, String.ofList_toList, String.ofList_toList, ← List.append_assoc,
      hslash, Text.pieces_of_not_mem hpart]
    exact (tidies_replicate htidied.names more).append (.refl [part])
  · simp

end

/-! ## What a search asks for -/

/-- Whether the directories can be listed in which a path has names with wildcards. -/
def ListsWildcards (fs : FileSystem) (path : String) : Prop :=
  ∀ front part rest : List Char, path.toList = front ++ part ++ rest →
    (∀ c ∈ front.getLast?, c = '/') → '/' ∉ part → part.any isWildcard = true →
    ∀ l, fs.status (lookup (String.ofList front)) = .ok (l, .directory) → l ∉ fs.unlisted

/-- How many levels a search for a path goes down whose wildcards are in brackets: one for
each name from the first one with wildcards on. -/
def levels (path : String) : Nat :=
  (((Text.pieces '/' path).filter (!·.isEmpty)).dropWhile (!hasWildcard ·)).length

theorem ListsWildcards.of_append {fs : FileSystem} {path more : List Char}
    (h : ListsWildcards fs (String.ofList (path ++ more))) :
    ListsWildcards fs (String.ofList path) := by
  intro front part rest hpath
  refine h front part (rest ++ more) ?_
  rw [String.toList_ofList] at hpath ⊢
  rw [hpath, List.append_assoc _ rest more]

/-- A path has the wildcards of its names. -/
theorem any_names (path : String) :
    ((Text.pieces '/' path).filter (!·.isEmpty)).any hasWildcard = hasWildcard path := by
  rw [Bool.eq_iff_iff]
  simp only [List.any_eq_true, List.mem_filter, hasWildcard]
  constructor
  · rintro ⟨piece, ⟨hpiece, -⟩, c, hc, hwildcard⟩
    have hslash : c ≠ '/' := by
      rintro rfl
      cases hwildcard
    exact ⟨c, (Text.exists_mem_pieces_iff hslash path).mp ⟨piece, hpiece, hc⟩, hwildcard⟩
  · rintro ⟨c, hc, hwildcard⟩
    have hslash : c ≠ '/' := by
      rintro rfl
      cases hwildcard
    obtain ⟨piece, hpiece, hin⟩ := (Text.exists_mem_pieces_iff hslash path).mpr hc
    refine ⟨piece, ⟨hpiece, ?_⟩, c, hin, hwildcard⟩
    have hne : piece ≠ "" := by
      rintro rfl
      cases hin
    simpa using hne

theorem levels_eq_zero_iff {path : String} : levels path = 0 ↔ hasWildcard path = false := by
  rw [levels, List.length_eq_zero_iff, List.dropWhile_eq_nil_iff, ← any_names, List.any_eq_false]
  simp

/-- A path of one name is one level. -/
theorem levels_alone {part : List Char} (hpart : '/' ∉ part) : levels (String.ofList part) ≤ 1 := by
  rw [levels, Text.pieces_of_not_mem (by simpa using hpart)]
  exact (List.dropWhile_sublist _).length_le.trans (List.filter_sublist.length_le)

/-- The last name of a path is one more level, unless it is the first one with
wildcards. -/
theorem levels_last_part {parent part : List Char} (hpart : '/' ∉ part) (hne : part ≠ [])
    (more : Nat) :
    levels (String.ofList (parent ++ List.replicate (more + 1) '/' ++ part)) =
      if parent.any isWildcard then levels (String.ofList parent) + 1
      else levels (String.ofList part) := by
  have hlast : (Text.pieces '/' (String.ofList part)).filter (!·.isEmpty)
      = [String.ofList part] := by
    rw [Text.pieces_of_not_mem (by simpa using hpart)]
    simp [hne]
  have hnames : (Text.pieces '/' (String.ofList
      (parent ++ List.replicate (more + 1) '/' ++ part))).filter (!·.isEmpty)
        = (Text.pieces '/' (String.ofList parent)).filter (!·.isEmpty)
          ++ (Text.pieces '/' (String.ofList part)).filter (!·.isEmpty) := by
    have hempties : (List.replicate more "").filter (!·.isEmpty) = [] := by simp
    rw [pieces_last_part hpart, List.filter_append, List.filter_append, hempties,
      List.nil_append, hlast]
    simp [hne]
  have hparent : hasWildcard (String.ofList parent) = parent.any isWildcard := by
    rw [hasWildcard, String.toList_ofList]
  rw [levels, hnames, List.dropWhile_append]
  cases hwildcard : parent.any isWildcard with
  | true =>
    rw [hwildcard] at hparent
    have hsome : ((((Text.pieces '/' (String.ofList parent)).filter (!·.isEmpty)).dropWhile
        (!hasWildcard ·)).isEmpty) = false := by
      rw [List.isEmpty_eq_false_iff, ← List.length_pos_iff, ← levels]
      exact Nat.pos_of_ne_zero fun hzero => by simp [levels_eq_zero_iff.mp hzero] at hparent
    rw [hsome, if_neg Bool.false_ne_true, if_pos rfl, hlast, List.length_append, ← levels,
      List.length_singleton]
  | false =>
    rw [hwildcard] at hparent
    have hnone : ((((Text.pieces '/' (String.ofList parent)).filter (!·.isEmpty)).dropWhile
        (!hasWildcard ·)).isEmpty) = true := by
      rw [List.isEmpty_iff, ← List.length_eq_zero_iff, ← levels]
      exact levels_eq_zero_iff.mpr hparent
    rw [hnone, if_pos rfl, if_neg Bool.false_ne_true, levels]

/-! ## Paths that fit -/

section

variable {fs : FileSystem} {depth : Nat}

theorem isSome_of_leads {left : Nat} {l m : Location} {n : Node} {part : String}
    (h : FileSystem.Leads fs .reach left l [part] (.present m n))
    (hwildcard : hasWildcard part = true) : (fs.node? (l ++ [part])).isSome = true := by
  cases h with
  | stay _ hname _ =>
    rcases (Bool.or_eq_true ..).mp hname with heq | heq <;> rw [eq_of_beq heq] at hwildcard <;>
      cases hwildcard
  | up _ _ hup _ =>
    rw [eq_of_beq hup] at hwildcard
    cases hwildcard
  | inspect _ _ _ hpurpose => cases hpurpose
  | follow _ _ hnode _ _ => rw [hnode]; rfl
  | enter _ _ hnode _ _ => rw [hnode]; rfl

/-- What is found for a path: texts of the same path, and at least one. -/
def StandsFor (path : List Char) (found : Except ExpandError (List String)) : Prop :=
  ∃ xs, found = .ok xs ∧ xs ≠ [] ∧
    ∀ x ∈ xs, FileSystem.IsTidied (String.ofList path) x ∧ x.toList.getLast? ≠ some '/'

/-- The last part of a path stands for the path, in directories that are texts of
the path without that part. -/
theorem standsFor_expandIn {directoriesOnly : Bool} {path part : List Char}
    {directories : List String} {l m : Location} {n : Node} {left : Nat} (hpart : '/' ∉ part)
    (hne : part ≠ [])
    (hstatus : fs.status (String.ofList path) = .ok (m, n))
    (hkind : directoriesOnly = true → n = .directory)
    (hlisted : part.any isWildcard = true → l ∉ fs.unlisted)
    (hentry : FileSystem.Leads fs .reach left l [String.ofList part] (.present m n))
    (hsome : directories ≠ [])
    (h : ∀ d ∈ directories, d ≠ "" ∧ fs.status d = .ok (l, .directory) ∧
      FileSystem.IsTidied (String.ofList path) (joined d (String.ofList part))) :
    StandsFor path
      (expandIn fs depth directoriesOnly (String.ofList (escapeChars part)) directories) := by
  have hpart' : '/' ∉ (String.ofList part).toList := by simpa using hpart
  have hne' : String.ofList part ≠ "" := by simpa using hne
  have hlisted' : hasWildcard (String.ofList part) = true → l ∉ fs.unlisted := by
    rwa [hasWildcard, String.toList_ofList]
  obtain ⟨xs, hxs, hnonempty, hall⟩ : ∃ xs, expandIn fs depth directoriesOnly
      (escape (String.ofList part)) directories = .ok xs ∧ xs ≠ [] ∧
        ∀ x ∈ xs, ∃ d ∈ directories, x = joined d (String.ofList part) := by
    refine expandIn_escape hsome fun d hd => ?_
    obtain ⟨hd, hdirectory, htidied⟩ := h d hd
    rw [← lookup_of_ne hd] at hdirectory
    have hpath := htidied.status hstatus
    rw [← pathIn_of_ne hne'] at hpath
    exact expandPart_escape hne' hdirectory hlisted' (isSome_of_leads hentry) hpath hkind
  rw [← escape_ofList]
  refine ⟨xs, hxs, hnonempty, fun x hx => ?_⟩
  obtain ⟨d, hd, rfl⟩ := hall x hx
  exact ⟨(h d hd).2.2, getLast?_joined hpart' hne' d⟩

/-- The names in the root directory. -/
theorem standsFor_root {directoriesOnly : Bool} {part : List Char} {more : Nat} {m : Location}
    {n : Node} (hpart : '/' ∉ part) (hne : part ≠ [])
    (hstatus : fs.status (String.ofList ([] ++ List.replicate (more + 1) '/' ++ part)) = .ok (m, n))
    (hkind : directoriesOnly = true → n = .directory)
    (hlists : ListsWildcards fs (String.ofList ([] ++ List.replicate (more + 1) '/' ++ part))) :
    StandsFor ([] ++ List.replicate (more + 1) '/' ++ part)
      (expandIn fs depth directoriesOnly (String.ofList (escapeChars part))
        [String.ofList (List.replicate (more + 1) '/')]) := by
  obtain ⟨l, left, hslashes, -, hentry⟩ := status_front hpart hstatus
  rw [List.nil_append] at hslashes
  have hempty : String.ofList (List.replicate (more + 1) '/') ≠ "" := by simp
  have hlisted : part.any isWildcard = true → l ∉ fs.unlisted := fun hwildcard =>
    hlists (List.replicate (more + 1) '/') part [] (by simp) (by simp [List.getLast?_replicate])
      hpart hwildcard l (by rw [lookup_of_ne hempty, hslashes])
  refine standsFor_expandIn hpart hne hstatus hkind hlisted hentry (List.cons_ne_nil _ _)
    fun d hd => ?_
  obtain rfl := List.mem_singleton.mp hd
  refine ⟨hempty, hslashes, ?_⟩
  rw [joined_of_slash (startsAtRoot_eq_false (by simpa using hpart))
    (by simp [List.replicate_succ']), ← String.ofList_append, List.nil_append]
  exact .refl (by simp)

/-- A name alone, in the working directory. -/
theorem standsFor_alone {directoriesOnly : Bool} {part : List Char} {m : Location} {n : Node}
    (hpart : '/' ∉ part) (hstatus : fs.status (String.ofList part) = .ok (m, n))
    (hkind : directoriesOnly = true → n = .directory)
    (hlists : ListsWildcards fs (String.ofList part)) :
    StandsFor part (expandPart fs depth directoriesOnly "" (String.ofList (escapeChars part))) := by
  have hpart' : '/' ∉ (String.ofList part).toList := by simpa using hpart
  obtain ⟨hpath, hleads⟩ := FileSystem.status_eq_ok_iff.mp hstatus
  have hne : String.ofList part ≠ "" := by simpa using hpath.nonempty
  rw [Text.pieces_of_not_mem hpart', FileSystem.startOf, startsAtRoot_eq_false hpart',
    if_neg Bool.false_ne_true] at hleads
  have hdot : fs.status (lookup "") = .ok (fs.workingDirectory, .directory) :=
    FileSystem.status_dot hleads.isDirectory
  have hhere := joined_here (String.ofList part)
  have hlisted : hasWildcard (String.ofList part) = true → fs.workingDirectory ∉ fs.unlisted := by
    intro hwildcard
    rw [hasWildcard, String.toList_ofList] at hwildcard
    exact hlists [] part [] (by simp) (by simp) hpart hwildcard _ hdot
  rw [← escape_ofList]
  obtain ⟨xs, hxs, hsome, hall⟩ := @expandPart_escape _ depth _ _ _ _ _ _ hne hdot hlisted
    (isSome_of_leads hleads) (by rw [pathIn_of_ne hne, hhere]; exact hstatus) hkind
  refine ⟨xs, hxs, hsome, fun x hx => ?_⟩
  rw [hall x hx]
  refine ⟨.refl hne, ?_⟩
  rw [← hhere]
  exact getLast?_joined hpart' hne ""

/-- The directories that the path without its last part stands for. -/
theorem exists_directories {directoriesOnly : Bool} {parent : List Char} {part : String}
    (hne : parent ≠ []) (hlast : parent.getLast? ≠ some '/')
    (h : parent.any isWildcard = true →
      StandsFor parent (expandReversed fs depth true (escapeChars parent).reverse)) :
    ∃ directories, directories ≠ [] ∧
      (∀ d ∈ directories, FileSystem.IsTidied (String.ofList parent) d ∧
        d.toList.getLast? ≠ some '/') ∧
      (if parent.any isWildcard then
        (expandReversed fs depth true (escapeChars parent).reverse).bind
          (expandIn fs depth directoriesOnly part)
      else expandIn fs depth directoriesOnly part [String.ofList (escapeChars parent)])
        = expandIn fs depth directoriesOnly part directories := by
  cases hwildcard : parent.any isWildcard with
  | true =>
    obtain ⟨directories, hfound, hsome, hall⟩ := h hwildcard
    refine ⟨directories, hsome, hall, ?_⟩
    rw [if_pos rfl, hfound]
    rfl
  | false =>
    refine ⟨[String.ofList parent], List.cons_ne_nil _ _, fun d hd => ?_, ?_⟩
    · obtain rfl := List.mem_singleton.mp hd
      exact ⟨.refl (by simpa using hne), by simpa using hlast⟩
    · rw [if_neg Bool.false_ne_true, escapeChars_eq_self hwildcard]

/-- A path with its wildcards in brackets stands for texts of the same path, if there are
levels enough and the directories can be listed. By induction on the levels, since the
path without its last part comes first. -/
theorem expandReversed_escape : ∀ {depth : Nat} {path : List Char} {directoriesOnly : Bool}
    {m : Location} {n : Node}, path.getLast? ≠ some '/' →
      fs.status (String.ofList path) = .ok (m, n) → (directoriesOnly = true → n = .directory) →
      ListsWildcards fs (String.ofList path) → path.any isWildcard = true →
      levels (String.ofList path) ≤ depth →
      StandsFor path (expandReversed fs depth directoriesOnly (escapeChars path).reverse) := by
  intro depth
  induction depth with
  | zero =>
    intro path directoriesOnly m n _ _ _ _ hwildcard hlevels
    have hnone := levels_eq_zero_iff.mp (Nat.le_zero.mp hlevels)
    rw [hasWildcard, String.toList_ofList, hwildcard] at hnone
    cases hnone
  | succ depth ih =>
    intro path directoriesOnly m n hlast hstatus hkind hlists hwildcard hlevels
    by_cases hslash : '/' ∈ path
    · obtain ⟨parent, more, part, rfl, hpart, hparent⟩ := exists_last_part hslash
      have hne : part ≠ [] := by
        rintro rfl
        exact hlast (by simp [List.replicate_succ'])
      have hnotIn : '/' ∉ escapeChars part := by
        rwa [mem_escapeChars_iff (by decide) (by decide)]
      rw [escapeChars_last_part, expandReversed_split hnotIn (getLast?_escapeChars hparent),
        any_escapeChars]
      by_cases hroot : parent = []
      · subst hroot
        exact standsFor_root hpart hne hstatus hkind hlists
      · obtain ⟨l, left, hfront, hto, hentry⟩ := status_front hpart hstatus
        have hdirectory := hto hroot
        have hparent' : String.ofList parent ≠ "" := by simpa using hroot
        have hlists' : ListsWildcards fs (String.ofList parent) := by
          rw [List.append_assoc] at hlists
          exact hlists.of_append
        have hlisted : part.any isWildcard = true → l ∉ fs.unlisted := fun hpartWildcard =>
          hlists (parent ++ List.replicate (more + 1) '/') part [] (by simp)
            (by simp [List.replicate_succ']) hpart hpartWildcard l
            (by rw [lookup_of_ne (by simp), hfront])
        obtain ⟨directories, hsome, hall, heq⟩ := @exists_directories fs depth directoriesOnly
          parent (String.ofList (escapeChars part)) hroot hparent fun hparentWildcard => by
            rw [levels_last_part hpart hne, if_pos hparentWildcard] at hlevels
            exact ih hparent hdirectory (fun _ => rfl) hlists' hparentWildcard
              (Nat.le_of_succ_le_succ hlevels)
        rw [if_neg (by simpa using escapeChars_ne_nil hroot), heq]
        refine standsFor_expandIn hpart hne hstatus hkind hlisted hentry hsome fun d hd => ?_
        obtain ⟨htidied, hend⟩ := hall d hd
        have hpart' : '/' ∉ (String.ofList part).toList := by simpa using hpart
        refine ⟨htidied.nonempty, htidied.status hdirectory, ?_⟩
        rw [joined_of_not_slash (startsAtRoot_eq_false hpart') htidied.nonempty hend]
        simpa using isTidied_append hparent' (by simpa using hparent) htidied hend hpart' more
    · have hnotIn : '/' ∉ escapeChars path := by
        rwa [mem_escapeChars_iff (by decide) (by decide)]
      rw [expandReversed_alone hnotIn]
      exact standsFor_alone hslash hstatus hkind hlists

/-- A search that needs more levels than it may go down fails. -/
theorem expandReversed_escape_tooDeep : ∀ {depth : Nat} {path : List Char}
    {directoriesOnly : Bool}, path.getLast? ≠ some '/' → depth < levels (String.ofList path) →
      expandReversed fs depth directoriesOnly (escapeChars path).reverse = .error .tooDeep := by
  intro depth
  induction depth with
  | zero =>
    intro path directoriesOnly _ _
    rw [expandReversed]
  | succ depth ih =>
    intro path directoriesOnly hlast hlevels
    by_cases hslash : '/' ∈ path
    · obtain ⟨parent, more, part, rfl, hpart, hparent⟩ := exists_last_part hslash
      have hne : part ≠ [] := by
        rintro rfl
        exact hlast (by simp [List.replicate_succ'])
      have hnotIn : '/' ∉ escapeChars part := by
        rwa [mem_escapeChars_iff (by decide) (by decide)]
      rw [levels_last_part hpart hne] at hlevels
      cases hwildcard : parent.any isWildcard with
      | false =>
        rw [hwildcard, if_neg Bool.false_ne_true] at hlevels
        have hone := levels_alone hpart
        omega
      | true =>
        rw [hwildcard, if_pos rfl] at hlevels
        have hroot : parent ≠ [] := by
          rintro rfl
          cases hwildcard
        rw [escapeChars_last_part, expandReversed_split hnotIn (getLast?_escapeChars hparent),
          any_escapeChars, if_neg (by simpa using escapeChars_ne_nil hroot), if_pos hwildcard,
          ih hparent (Nat.lt_of_succ_lt_succ hlevels)]
        rfl
    · have hone := levels_alone hslash
      omega

end

end Pattern

/-! ## Files that are found -/

variable {fs : FileSystem}

/-- Candidates that are one path are found as that path. -/
theorem selectFiles_same {cs : List Path} {p : Path} (hne : cs ≠ []) (hsame : ∀ c ∈ cs, c = p)
    (hfile : fs.isFile p.text = .ok true) : selectFiles fs [] cs = .ok [p] := by
  cases hselect : selectFiles fs [] cs with
  | error e =>
    obtain ⟨c, hc, cause, hcause⟩ := selectFiles_eq_error_iff.mp ⟨e, hselect⟩
    rw [hsame c hc, hfile] at hcause
    cases hcause
  | ok found =>
    obtain ⟨c, rest, rfl⟩ := List.exists_cons_of_ne_nil hne
    obtain rfl := hsame c (List.mem_cons_self ..)
    obtain ⟨q, hq, -⟩ := List.mem_map.mp
      ((mem_locations_iff hselect _).mpr ⟨c, List.mem_cons_self .., hfile, rfl⟩)
    have hall : ∀ q ∈ found, q = c := fun q hq => hsame q (mem_selectFiles hselect q hq).1
    have hnodup := (nodup_selectFiles hselect).2.of_map
    rw [List.eq_replicate_of_mem hall] at hnodup ⊢
    have hlength : found.length = 1 := by
      have := List.length_pos_of_mem hq
      have := List.nodup_replicate.mp hnodup
      omega
    rw [hlength]
    rfl

/-- A path with a slash at its end leads to no file. -/
theorem getLast?_of_file {path : String} {l : Location} {content : ByteArray}
    (hfile : fs.status path = .ok (l, .file content)) : path.toList.getLast? ≠ some '/' := by
  intro hlast
  obtain ⟨front, hfront⟩ := List.getLast?_eq_some_iff.mp hlast
  have htext : path = String.ofList front ++ String.singleton '/' ++ "" := by
    rw [← String.toList_inj, hfront]
    simp
  have hempty : Text.pieces '/' "" = [""] := by decide
  obtain ⟨-, hleads⟩ := FileSystem.status_eq_ok_iff.mp hfile
  obtain ⟨d, hd⟩ := hleads.isDirectory_of_getLast? (by
    rw [htext, Text.pieces_append, hempty, List.getLast?_concat])
  cases hd

/-- The candidates for a path with its wildcards in brackets are all the same
path. -/
theorem candidates_escape {path : String} {l : Location} {content : ByteArray}
    (hfile : fs.status path = .ok (l, .file content)) (hlists : Pattern.ListsWildcards fs path)
    (hlevels : Pattern.levels path ≤ fs.searchDepth) :
    ∃ cs, candidates fs (Pattern.escape path) = .ok cs ∧ cs ≠ [] ∧
      ∀ c ∈ cs, c = Path.ofText path := by
  cases hwildcard : Pattern.hasWildcard path with
  | true =>
    have htext : String.ofList path.toList = path := String.ofList_toList
    obtain ⟨xs, hxs, hne, hall⟩ := @Pattern.expandReversed_escape fs fs.searchDepth path.toList
      false l (.file content) (getLast?_of_file hfile) (by rwa [htext])
      (fun h => absurd h Bool.false_ne_true) (by rwa [htext]) hwildcard (by rwa [htext])
    have hexpand : Pattern.expand fs (Pattern.escape path) = .ok xs := by
      rw [Pattern.expand, Pattern.escape, String.toList_ofList, hxs]
    refine ⟨xs.map Path.ofText, ?_, by simpa using hne, fun c hc => ?_⟩
    · rw [candidates, Pattern.hasWildcard_escape, hwildcard, if_pos rfl, hexpand]
      rfl
    · obtain ⟨x, hx, rfl⟩ := List.mem_map.mp hc
      rw [(hall x hx).1.ofText_eq, String.ofList_toList]
  | false =>
    refine ⟨[Path.ofText path], ?_, List.cons_ne_nil _ _, fun c hc => List.mem_singleton.mp hc⟩
    rw [candidates, Pattern.hasWildcard_escape, hwildcard, if_neg Bool.false_ne_true,
      Pattern.escape_eq_self hwildcard]

theorem isAllBlank_escape {path : String} (h : Text.isAllBlank path = false) :
    Text.isAllBlank (Pattern.escape path) = false := by
  obtain ⟨c, hc, hblank⟩ := List.all_eq_false.mp h
  refine List.all_eq_false.mpr ⟨c, ?_, hblank⟩
  rw [Pattern.escape, String.toList_ofList]
  exact Pattern.mem_escapeChars hc

/-- **A file is found by its path with the wildcards in brackets, and nothing
else is**, whatever its names are and whatever else is there, as long as the names with
wildcards are in directories that can be listed and there are levels enough. -/
theorem findFiles_escape {path : String} {l : Location} {content : ByteArray}
    (hblank : Text.isAllBlank path = false) (hfile : fs.status path = .ok (l, .file content))
    (hlists : Pattern.ListsWildcards fs path) (hlevels : Pattern.levels path ≤ fs.searchDepth) :
    findFiles fs (Pattern.escape path) = .ok [Path.ofText path] := by
  obtain ⟨cs, hcandidates, hne, hsame⟩ := candidates_escape hfile hlists hlevels
  rw [findFiles, isAllBlank_escape hblank, if_neg Bool.false_ne_true, hcandidates]
  exact selectFiles_same hne hsame
    (isFile_iff.mpr ⟨l, content, FileSystem.status_ofText hfile⟩)

/-- A file with wildcards in its name, and another one whose name would fit. -/
def starredFiles : FileSystem where
  entries := [(["work"], .directory), (["work", "a[*].py"], .file .empty),
    (["work", "a*.py"], .file .empty)]
  workingDirectory := ["work"]

theorem findFiles_starred :
    starredFiles.status "a[*].py" = .ok (["work", "a[*].py"], .file .empty) ∧
      Pattern.ListsWildcards starredFiles "a[*].py" ∧
      Pattern.levels "a[*].py" ≤ starredFiles.searchDepth ∧
      findFiles starredFiles (Pattern.escape "a[*].py") = .ok [Path.ofText "a[*].py"] :=
  have hstatus : starredFiles.status "a[*].py" = .ok (["work", "a[*].py"], .file .empty) :=
    FileSystem.status_file (by decide) rfl rfl
  have hlists : Pattern.ListsWildcards starredFiles "a[*].py" :=
    fun _ _ _ _ _ _ _ _ _ => List.not_mem_nil
  ⟨hstatus, hlists, by decide, findFiles_escape (by decide) hstatus hlists (by decide)⟩

/-! ## Searches that are too deep -/

/-- A file is not found by its path with the wildcards in brackets if the search for it
needs too many levels. -/
theorem findFiles_escape_tooDeep {path : String} {l : Location} {content : ByteArray}
    (hblank : Text.isAllBlank path = false) (hfile : fs.status path = .ok (l, .file content))
    (hlevels : fs.searchDepth < Pattern.levels path) :
    findFiles fs (Pattern.escape path) = .error .tooDeep := by
  have hwildcard : Pattern.hasWildcard path = true := by
    rw [← Bool.not_eq_false, ← Pattern.levels_eq_zero_iff]
    omega
  have hexpand : Pattern.expand fs (Pattern.escape path) = .error .tooDeep := by
    rw [Pattern.expand, Pattern.escape, String.toList_ofList]
    exact Pattern.expandReversed_escape_tooDeep (getLast?_of_file hfile)
      (by rwa [String.ofList_toList])
  rw [findFiles, isAllBlank_escape hblank, if_neg Bool.false_ne_true, candidates,
    Pattern.hasWildcard_escape, hwildcard, if_pos rfl, hexpand]
  rfl

/-- The names of a path that goes down into a directory and up again many times. -/
def zigzag (times : Nat) : List String := (List.replicate times ["*", ".."]).flatten ++ ["f"]

theorem zigzag_succ (times : Nat) : zigzag (times + 1) = "*" :: ".." :: zigzag times := rfl

theorem mem_zigzag {times : Nat} {name : String} (h : name ∈ zigzag times) :
    name = "*" ∨ name = ".." ∨ name = "f" := by
  simp only [zigzag, List.mem_append, List.mem_flatten, List.mem_replicate,
    List.mem_singleton] at h
  rcases h with ⟨_, ⟨-, rfl⟩, hname⟩ | rfl
  · simp only [List.mem_cons, List.not_mem_nil, or_false] at hname
    exact hname.elim .inl fun hup => .inr (.inl hup)
  · exact .inr (.inr rfl)

/-- A file, and a directory beside it with a wildcard for its name. -/
def zigzagFiles : FileSystem where
  entries := [(["work"], .directory), (["work", "*"], .directory), (["work", "f"], .file .empty)]
  workingDirectory := ["work"]

theorem leads_zigzag (times : Nat) :
    FileSystem.Leads zigzagFiles .reach maxLinks ["work"] (zigzag times)
      (.present ["work", "f"] (.file .empty)) := by
  induction times with
  | zero =>
    exact .enter rfl ⟨by decide, by decide, by decide, by decide⟩ rfl (by simp) (.arrive rfl)
  | succ times ih =>
    rw [zigzag_succ]
    exact .enter rfl ⟨by decide, by decide, rfl, by decide⟩ rfl (by simp) (.up rfl rfl rfl ih)

/-- A path of these names. -/
def zigzagPath (times : Nat) : String := String.intercalate "/" (zigzag times)

theorem zigzag_ne_nil (times : Nat) : zigzag times ≠ [] :=
  List.append_ne_nil_of_right_ne_nil _ (List.cons_ne_nil _ _)

theorem pieces_zigzagPath (times : Nat) : Text.pieces '/' (zigzagPath times) = zigzag times := by
  refine Text.pieces_intercalate (zigzag_ne_nil times) fun name hname => ?_
  rcases mem_zigzag hname with rfl | rfl | rfl <;> decide

theorem mem_zigzagPath_iff {times : Nat} {c : Char} (hslash : c ≠ '/') :
    c ∈ (zigzagPath times).toList ↔ ∃ name ∈ zigzag times, c ∈ name.toList := by
  rw [← Text.exists_mem_pieces_iff hslash, pieces_zigzagPath]

theorem size_zigzagPath (times : Nat) : (zigzagPath times).utf8ByteSize = 5 * times + 1 := by
  have hslash : ("/" : String).utf8ByteSize = 1 := rfl
  have hsum : ((zigzag times).map (·.utf8ByteSize + 1)).sum = 5 * times + 2 := by
    induction times with
    | zero => rfl
    | succ times ih =>
      have hstar : ("*" : String).utf8ByteSize = 1 := rfl
      have hup : (".." : String).utf8ByteSize = 2 := rfl
      rw [zigzag_succ, List.map_cons, List.map_cons, List.sum_cons, List.sum_cons, ih, hstar, hup]
      omega
  have hsize := @Text.utf8ByteSize_intercalate "/" _ (zigzag_ne_nil times)
  rw [hslash, hsum] at hsize
  exact Nat.succ.inj hsize

theorem status_zigzagPath {times : Nat} (hshort : 5 * times + 1 < pathSizeLimit) :
    zigzagFiles.status (zigzagPath times) = .ok (["work", "f"], .file .empty) := by
  have hsize := size_zigzagPath times
  have hempty : zigzagPath times ≠ "" := by
    intro hempty
    rw [hempty] at hsize
    cases hsize
  have hnull : Char.ofNat 0 ∉ (zigzagPath times).toList := by
    rw [mem_zigzagPath_iff (by decide)]
    rintro ⟨name, hname, hin⟩
    rcases mem_zigzag hname with rfl | rfl | rfl <;> revert hin <;> decide
  have hroot : startsAtRoot (zigzagPath times) = false := by
    rw [startsAtRoot, beq_eq_false_iff_ne]
    refine Path.head?_intercalate fun name hname => ?_
    rcases mem_zigzag hname with rfl | rfl | rfl <;> decide
  refine FileSystem.status_eq_ok_iff.mpr ⟨⟨by simpa using hnull, by simpa using hempty, by omega⟩, ?_⟩
  rw [FileSystem.startOf, hroot, if_neg Bool.false_ne_true, pieces_zigzagPath]
  exact leads_zigzag times

theorem levels_zigzagPath {times : Nat} (htimes : times ≠ 0) :
    Pattern.levels (zigzagPath times) = 2 * times + 1 := by
  have hlength : ∀ times, (zigzag times).length = 2 * times + 1 := by
    intro times
    induction times with
    | zero => rfl
    | succ times ih =>
      rw [zigzag_succ, List.length_cons, List.length_cons, ih]
      omega
  have hfilter : (zigzag times).filter (!·.isEmpty) = zigzag times := by
    refine List.filter_eq_self.mpr fun name hname => ?_
    rcases mem_zigzag hname with rfl | rfl | rfl <;> rfl
  obtain ⟨more, rfl⟩ := Nat.exists_eq_succ_of_ne_zero htimes
  rw [Pattern.levels, pieces_zigzagPath, hfilter, ← hlength (more + 1), zigzag_succ,
    List.dropWhile_cons_of_neg (by decide)]

/-- The starred files, in a directory that cannot be listed. -/
def unlistedFiles : FileSystem := { starredFiles with unlisted := [["work"]] }

/-- Two files that are not found by their paths with the wildcards in brackets: the one
for the many levels, the other for the directory that cannot be listed. -/
theorem findFiles_escape_misses :
    (Text.isAllBlank (zigzagPath 800) = false ∧
      zigzagFiles.status (zigzagPath 800) = .ok (["work", "f"], .file .empty) ∧
      findFiles zigzagFiles (Pattern.escape (zigzagPath 800))
        ≠ .ok [Path.ofText (zigzagPath 800)]) ∧
    (Text.isAllBlank "a[*].py" = false ∧
      unlistedFiles.status "a[*].py" = .ok (["work", "a[*].py"], .file .empty) ∧
      findFiles unlistedFiles (Pattern.escape "a[*].py") ≠ .ok [Path.ofText "a[*].py"]) := by
  have hblank : Text.isAllBlank (zigzagPath 800) = false :=
    List.all_eq_false.mpr ⟨'f', (mem_zigzagPath_iff (by decide)).mpr
      ⟨"f", List.mem_append_right _ (List.mem_cons_self ..), by decide⟩, by decide⟩
  have hstatus : zigzagFiles.status (zigzagPath 800) = .ok (["work", "f"], .file .empty) :=
    status_zigzagPath (by decide)
  refine ⟨⟨hblank, hstatus, ?_⟩, by decide, FileSystem.status_file (by decide) rfl rfl, ?_⟩
  · rw [findFiles_escape_tooDeep hblank hstatus (by rw [levels_zigzagPath (by decide)]; decide)]
    exact fun h => by cases h
  · rw [findFiles_of_unlisted (by decide) (by decide) (by decide) (by decide)
      (FileSystem.status_dot rfl) (List.mem_singleton_self _) rfl]
    exact fun h => by cases h

end SyntaxCorpus
