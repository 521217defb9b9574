/-
SyntaxCorpus.Proofs.Pattern.Matching — the paths that fit a pattern, in a tree.

A pattern is expanded from its end, part by part, and a part is looked up in each
of the directories that the parts before it stand for. Which paths fit is said
from the front, name by name. The two meet in what the directories of the first
parts are: texts of names that match these parts, and among them one for each
directory whose names match, as long as all directories can be listed. A directory
whose path is too long may be missing.

* `MatchesPart`, `MatchesParts` — the names that a part, and a whole pattern,
  stand for.
* `of_mem_expandPart`, `mem_expandPart` — one part in one directory.
* `of_mem_descendants`, `mem_descendants` — what is below a directory.
* `Obstructs` — what keeps a search from its end: a null character, or too many
  levels.
* `Covers` — the directories that the first parts of a pattern stand for;
  `covers_directoriesFor` finds them.
* `expandReversed_spelling` — the last part is looked up in them.
* `of_mem_expandIn`, `mem_expandIn` — what is found there.
-/
import Mathlib.Tactic.Choose
import SyntaxCorpus.Proofs.FileSystem.Tree
import SyntaxCorpus.Proofs.Pattern.Wildcard

namespace SyntaxCorpus.Pattern

open FileSystem (spelling Spells)

/-! ## Names that match -/

/-- The names that a part of a pattern stands for. -/
inductive MatchesPart : String → List String → Prop
  /-- Any number of names, also none. -/
  | anyNames (names : List String) : MatchesPart anyDepth names
  | wildcards {part name} (hpart : part ≠ anyDepth) (hwildcard : hasWildcard part = true)
      (h : Fits part.toList name.toList) : MatchesPart part [name]
  | literal {part} (hwildcard : hasWildcard part = false) : MatchesPart part [part]

/-- The names that a pattern stands for, given by its parts. -/
inductive MatchesParts : List String → List String → Prop
  | nil : MatchesParts [] []
  | cons {part parts names rest} (h : MatchesPart part names) (hrest : MatchesParts parts rest) :
      MatchesParts (part :: parts) (names ++ rest)

theorem matchesParts_append_iff {parts more names : List String} :
    MatchesParts (parts ++ more) names ↔
      ∃ front rest, names = front ++ rest ∧ MatchesParts parts front ∧ MatchesParts more rest := by
  induction parts generalizing names with
  | nil =>
    constructor
    · intro h
      exact ⟨[], names, rfl, .nil, h⟩
    · rintro ⟨front, rest, rfl, hfront, hrest⟩
      cases hfront
      exact hrest
  | cons part parts ih =>
    constructor
    · intro h
      cases h with
      | @cons _ _ first others h hothers =>
        obtain ⟨front, rest, rfl, hfront, hrest⟩ := ih.mp hothers
        exact ⟨first ++ front, rest, (List.append_assoc ..).symm, .cons h hfront, hrest⟩
    · rintro ⟨front, rest, rfl, hfront, hrest⟩
      cases hfront with
      | cons h hothers =>
        rw [List.append_assoc]
        exact .cons h (ih.mpr ⟨_, _, rfl, hothers, hrest⟩)

/-- The last part stands for the last names. -/
theorem matchesParts_concat_iff {parts names : List String} {part : String} :
    MatchesParts (parts ++ [part]) names ↔
      ∃ front rest, names = front ++ rest ∧ MatchesParts parts front ∧ MatchesPart part rest := by
  rw [matchesParts_append_iff]
  constructor
  · rintro ⟨front, rest, rfl, hfront, hrest⟩
    cases hrest with
    | cons h hnil =>
      cases hnil
      exact ⟨front, _, by simp, hfront, h⟩
  · rintro ⟨front, rest, rfl, hfront, h⟩
    exact ⟨front, rest ++ [], by simp, hfront, .cons h .nil⟩

/-- Parts without wildcards stand for themselves. -/
theorem matchesParts_literal_iff {parts names : List String}
    (h : parts.any hasWildcard = false) : MatchesParts parts names ↔ names = parts := by
  induction parts generalizing names with
  | nil =>
    constructor
    · intro h
      cases h
      rfl
    · rintro rfl
      exact .nil
  | cons part parts ih =>
    rw [List.any_cons, Bool.or_eq_false_iff] at h
    constructor
    · intro hmatch
      cases hmatch with
      | cons hpart hrest =>
        rw [(ih h.2).mp hrest]
        cases hpart with
        | anyNames _ => cases h.1
        | wildcards _ hwildcard _ => cases hwildcard.symm.trans h.1
        | literal _ => rfl
    · rintro rfl
      exact .cons (.literal h.1) ((ih h.2).mpr rfl)

/-- A part that does not stand for any number of names stands for one. -/
theorem MatchesPart.single {part : String} {names : List String} (h : MatchesPart part names)
    (hpart : part ≠ anyDepth) : ∃ name, names = [name] := by
  cases h with
  | anyNames _ => exact absurd rfl hpart
  | wildcards _ _ _ => exact ⟨_, rfl⟩
  | literal _ => exact ⟨_, rfl⟩

/-! ## One part in one directory -/

section

variable {fs : FileSystem} (htree : fs.IsTree) {directoriesOnly : Bool} {names : List String}
  {directory part : String} (hnames : ∀ name ∈ names, IsFileName name)
  (hdirectory : Spells names directory)
include hnames hdirectory

/-- Names in a directory. -/
theorem pathIn_spelling {more : List String} (hne : more ≠ [])
    (hmore : ∀ name ∈ more, IsFileName name) :
    pathIn directory (spelling more) = spelling (names ++ more) := by
  rw [pathIn_of_ne (FileSystem.spelling_ne_empty hmore hne), hdirectory.joined hnames hne hmore]

theorem joined_name {name : String} (hname : IsFileName name) :
    joined directory name = spelling (names ++ [name]) := by
  have hjoined := hdirectory.joined hnames (List.cons_ne_nil name []) (by simpa using hname)
  rwa [FileSystem.spelling_singleton] at hjoined

theorem pathIn_name {name : String} (hname : IsFileName name) :
    pathIn directory name = spelling (names ++ [name]) := by
  rw [pathIn_of_ne hname.nonempty, joined_name hnames hdirectory hname]

include htree

/-- A name in a directory is there. -/
theorem node?_of_mem_namesIn {found : List String} {name : String}
    (h : namesIn fs directoriesOnly directory = .ok found) (hname : name ∈ found) :
    (fs.node? (fs.workingDirectory ++ (names ++ [name]))).isSome = true ∧ ¬ HasNull directory := by
  obtain ⟨l, hstatus, hnode, -⟩ := of_mem_namesIn h hname
  obtain ⟨hnull, -, rfl, -⟩ := (FileSystem.status_lookup_iff htree hnames hdirectory).mp hstatus
  rw [List.append_assoc] at hnode
  exact ⟨hnode, hnull⟩

/-- What is there is among the names in its directory, if its path is not too
long and the directory can be listed. -/
theorem mem_namesIn (hlisted : fs.unlisted = []) {found : List String} {name : String} {n : Node}
    (hnode : fs.node? (fs.workingDirectory ++ (names ++ [name])) = some n)
    (hkind : directoriesOnly = true → n = .directory)
    (hshort : (spelling (names ++ [name])).utf8ByteSize < pathSizeLimit)
    (h : namesIn fs directoriesOnly directory = .ok found) : name ∈ found := by
  have hname := (FileSystem.isFileName_of_node? htree hnode).2
  have hhere := FileSystem.isDirectory_of_node? htree hnode (List.cons_ne_nil name [])
  obtain ⟨found', hfound', hmem⟩ := @namesIn_of_directory fs directoriesOnly directory _
    ((FileSystem.status_lookup_iff htree hnames hdirectory).mpr
      ⟨hdirectory.not_hasNull htree hnode,
        (hdirectory.size_lt (List.cons_ne_nil name []) hname).trans hshort, rfl, hhere⟩)
    (by simp [hlisted])
  obtain rfl := Except.ok.inj (h.symm.trans hfound')
  refine (hmem name).mpr ⟨by rw [List.append_assoc, hnode]; rfl, fun honly => ?_⟩
  obtain rfl := hkind honly
  rw [pathIn_name hnames hdirectory (hname name (List.mem_singleton_self name)),
    FileSystem.isDirectory, FileSystem.status_of_node? htree hnode (by simp) hshort]

/-- What a part stands for in a directory is there, and matches. -/
theorem of_mem_expandPart (hany : part ≠ anyDepth) (hpart : IsFileName part) {depth : Nat}
    {xs : List String} {x : String}
    (h : expandPart fs depth directoriesOnly directory part = .ok xs) (hx : x ∈ xs) :
    MatchesPart part [x] ∧
      (fs.node? (fs.workingDirectory ++ (names ++ [x]))).isSome = true := by
  rw [expandPart, if_neg (by simpa using hany)] at h
  cases hwildcard : hasWildcard part with
  | true =>
    rw [hwildcard, if_pos rfl] at h
    cases hfound : namesIn fs directoriesOnly directory with
    | error e =>
      rw [hfound] at h
      cases h
    | ok found =>
      rw [hfound] at h
      obtain rfl := Except.ok.inj h
      obtain ⟨hmem, hmatches⟩ := List.mem_filter.mp hx
      exact ⟨.wildcards hany hwildcard ((matchesName_iff part x).mp hmatches),
        (node?_of_mem_namesIn htree hnames hdirectory hfound hmem).1⟩
  | false =>
    rw [hwildcard, if_neg Bool.false_ne_true, if_neg (by simpa using hpart.nonempty)] at h
    obtain rfl := Except.ok.inj h
    split at hx
    · rename_i hhas
      obtain rfl := List.mem_singleton.mp hx
      rw [pathIn_name hnames hdirectory hpart] at hhas
      have hall : ∀ m ∈ names ++ [x], IsFileName m := by
        simpa [or_imp, forall_and, hpart] using hnames
      exact ⟨.literal hwildcard, FileSystem.node?_of_has htree hall (by simp) hhas⟩
    · cases hx

/-- What is there and matches is what the part stands for in its directory. -/
theorem mem_expandPart (hlisted : fs.unlisted = []) (hany : part ≠ anyDepth)
    (hpart : IsFileName part) {depth : Nat} {xs : List String} {x : String} {n : Node}
    (hmatches : MatchesPart part [x])
    (hnode : fs.node? (fs.workingDirectory ++ (names ++ [x])) = some n)
    (hkind : directoriesOnly = true → n = .directory)
    (hshort : (spelling (names ++ [x])).utf8ByteSize < pathSizeLimit)
    (h : expandPart fs depth directoriesOnly directory part = .ok xs) : x ∈ xs := by
  rw [expandPart, if_neg (by simpa using hany)] at h
  generalize hlist : [x] = list at hmatches
  cases hmatches with
  | anyNames _ => exact absurd rfl hany
  | wildcards _ hwildcard hfits =>
    obtain ⟨rfl, -⟩ := List.cons.inj hlist
    rw [hwildcard, if_pos rfl] at h
    cases hfound : namesIn fs directoriesOnly directory with
    | error e =>
      rw [hfound] at h
      cases h
    | ok found =>
      rw [hfound] at h
      obtain rfl := Except.ok.inj h
      exact List.mem_filter.mpr
        ⟨mem_namesIn htree hnames hdirectory hlisted hnode hkind hshort hfound,
          (matchesName_iff part x).mpr hfits⟩
  | literal hwildcard =>
    obtain ⟨rfl, -⟩ := List.cons.inj hlist
    have hstatus := FileSystem.status_of_node? htree hnode (by simp) hshort
    rw [hwildcard, if_neg Bool.false_ne_true, if_neg (by simpa using hpart.nonempty),
      pathIn_name hnames hdirectory hpart, if_pos (FileSystem.has_of_status hstatus)] at h
    obtain rfl := Except.ok.inj h
    exact List.mem_cons_self ..

end

/-! ## What is below a directory -/

section

variable {fs : FileSystem} {directoriesOnly : Bool}

/-- The names in a directory are not looked up for a null character in its
path. -/
theorem hasNull_of_namesIn {directory : String} {e : ExpandError}
    (h : namesIn fs directoriesOnly directory = .error e) :
    e = .nullCharacter ∧ HasNull directory := by
  obtain ⟨rfl, hstatus⟩ := namesIn_eq_error h
  refine ⟨rfl, ?_⟩
  have hnull : HasNull (lookup directory) := by
    rw [HasNull, ← FileSystem.find_eq_nullCharacter_iff fs .reach]
    unfold FileSystem.status at hstatus
    cases hfind : fs.find .reach (lookup directory) with
    | error e =>
      rw [hfind] at hstatus
      exact congrArg Except.error (Except.error.inj hstatus)
    | ok place =>
      rw [hfind] at hstatus
      cases place <;> cases hstatus
  rw [lookup] at hnull
  split at hnull
  · exact absurd hnull (by simp [HasNull])
  · exact hnull

/-- The paths below a directory: the names in it, and what is below each of
them. -/
theorem descendants_eq_ok {depth : Nat} {directory : String} {xs : List String}
    (h : descendants fs directoriesOnly (depth + 1) directory = .ok xs) :
    ∃ found, namesIn fs directoriesOnly directory = .ok found ∧ ∃ below : String → List String,
      (∀ name ∈ found, descendants fs directoriesOnly depth (pathIn directory name)
        = .ok (below name)) ∧
      xs = found.flatMap fun name => name :: (below name).map (pathIn name) := by
  rw [descendants] at h
  cases hfound : namesIn fs directoriesOnly directory with
  | error e =>
    rw [hfound] at h
    cases h
  | ok found =>
    rw [hfound] at h
    obtain ⟨lists, hlists, rfl⟩ := exists_of_flatten_ok h
    have hbelow : ∀ name ∈ found, ∃ below,
        descendants fs directoriesOnly depth (pathIn directory name) = .ok below ∧
          lists name = name :: below.map (pathIn name) := by
      intro name hname
      have hlist := hlists name hname
      cases hbelow : descendants fs directoriesOnly depth (pathIn directory name) with
      | error e =>
        rw [hbelow] at hlist
        cases hlist
      | ok below =>
        rw [hbelow] at hlist
        exact ⟨below, rfl, (Except.ok.inj hlist).symm⟩
    choose! below hbelow using hbelow
    refine ⟨found, rfl, below, fun name hname => (hbelow name hname).1, ?_⟩
    exact List.flatMap_congr fun name hname => (hbelow name hname).2

variable (htree : fs.IsTree)
include htree

/-- What is below a directory is spelled by names that are there. -/
theorem of_mem_descendants : ∀ {depth : Nat} {names : List String} {directory : String}
    {xs : List String}, (∀ name ∈ names, IsFileName name) → Spells names directory →
      descendants fs directoriesOnly depth directory = .ok xs → ∀ x ∈ xs,
        ∃ more, more ≠ [] ∧ x = spelling more ∧
          ∀ name ∈ more, IsFileName name ∧ ¬ HasNull name := by
  intro depth
  induction depth with
  | zero =>
    intro names directory xs _ _ h
    cases h
  | succ depth ih =>
    intro names directory xs hnames hdirectory h x hx
    obtain ⟨found, hfound, below, hbelow, rfl⟩ := descendants_eq_ok h
    obtain ⟨name, hmem, hx⟩ := List.mem_flatMap.mp hx
    obtain ⟨n, hnode⟩ := Option.isSome_iff_exists.mp
      (node?_of_mem_namesIn htree hnames hdirectory hfound hmem).1
    have hname : IsFileName name ∧ ¬ HasNull name :=
      ⟨(FileSystem.isFileName_of_node? htree hnode).2 name (List.mem_singleton_self name),
        FileSystem.not_hasNull_of_node? htree hnode name (by simp)⟩
    rcases List.mem_cons.mp hx with rfl | hx
    · exact ⟨[x], List.cons_ne_nil _ _, (FileSystem.spelling_singleton x).symm,
        by simpa using hname⟩
    · obtain ⟨y, hy, rfl⟩ := List.mem_map.mp hx
      have hall : ∀ m ∈ names ++ [name], IsFileName m := by
        simpa [or_imp, forall_and, hname.1] using hnames
      obtain ⟨more, hne, rfl, hmore⟩ := ih hall
        (pathIn_name hnames hdirectory hname.1 ▸ Spells.plain) (hbelow name hmem) y hy
      refine ⟨name :: more, List.cons_ne_nil _ _, ?_, List.forall_mem_cons.mpr ⟨hname, hmore⟩⟩
      have hpath := pathIn_spelling (by simpa using hname.1) (@Spells.plain [name]) hne
        fun m hm => (hmore m hm).1
      rwa [FileSystem.spelling_singleton] at hpath

/-- What is there below a directory is found, if its path is not too long. -/
theorem mem_descendants (hlisted : fs.unlisted = []) : ∀ {depth : Nat} {names more : List String} {directory : String}
    {xs : List String} {n : Node}, (∀ name ∈ names, IsFileName name) → Spells names directory →
      more ≠ [] →
      fs.node? (fs.workingDirectory ++ (names ++ more)) = some n →
      (directoriesOnly = true → n = .directory) →
      (spelling (names ++ more)).utf8ByteSize < pathSizeLimit →
      descendants fs directoriesOnly depth directory = .ok xs → spelling more ∈ xs := by
  intro depth
  induction depth with
  | zero =>
    intro names more directory xs n _ _ _ _ _ _ h
    cases h
  | succ depth ih =>
    intro names more directory xs n hnames hdirectory hne hnode hkind hshort h
    obtain ⟨name, rest, rfl⟩ := List.exists_cons_of_ne_nil hne
    obtain ⟨found, hfound, below, hbelow, rfl⟩ := descendants_eq_ok h
    obtain ⟨hname, hrest⟩ :=
      List.forall_mem_cons.mp (FileSystem.isFileName_of_node? htree hnode).2
    have hsplit : names ++ name :: rest = names ++ [name] ++ rest := by simp
    -- the first name is that of a directory, unless it is the only one
    obtain ⟨k, hk, hkkind⟩ : ∃ k, fs.node? (fs.workingDirectory ++ (names ++ [name])) = some k ∧
        (directoriesOnly = true → k = .directory) := by
      by_cases hnil : rest = []
      · subst hnil
        exact ⟨n, hnode, hkind⟩
      · rw [hsplit] at hnode
        exact ⟨.directory, FileSystem.isDirectory_of_node? htree hnode hnil, fun _ => rfl⟩
    have hkshort : (spelling (names ++ [name])).utf8ByteSize < pathSizeLimit := by
      by_cases hnil : rest = []
      · subst hnil
        exact hshort
      · rw [hsplit] at hshort
        exact (Spells.plain.size_lt hnil hrest).trans hshort
    have hmem := mem_namesIn htree hnames hdirectory hlisted hk hkkind hkshort hfound
    refine List.mem_flatMap.mpr ⟨name, hmem, ?_⟩
    by_cases hnil : rest = []
    · subst hnil
      rw [FileSystem.spelling_singleton]
      exact List.mem_cons_self ..
    · have hall : ∀ m ∈ names ++ [name], IsFileName m := by
        simpa [or_imp, forall_and, hname] using hnames
      rw [hsplit] at hnode hshort
      have hin := ih hall (pathIn_name hnames hdirectory hname ▸ Spells.plain) hnil hnode hkind
        hshort (hbelow name hmem)
      refine List.mem_cons_of_mem name (List.mem_map.mpr ⟨spelling rest, hin, ?_⟩)
      have hpath := pathIn_spelling (by simpa using hname) (@Spells.plain [name]) hnil hrest
      rwa [FileSystem.spelling_singleton] at hpath

/-- A null character in a directory keeps what is below it from being found, and
otherwise nothing does but a location that is too far below. -/
theorem descendants_eq_error : ∀ {depth : Nat} {names : List String} {directory : String}
    {e : ExpandError}, (∀ name ∈ names, IsFileName name) → Spells names directory →
      descendants fs directoriesOnly depth directory = .error e →
      (e = .nullCharacter ∧ HasNull directory) ∨
        e = .tooDeep ∧ (depth = 0 ∨ ∃ below,
          (fs.node? (fs.workingDirectory ++ (names ++ below))).isSome = true ∧
            depth ≤ below.length) := by
  intro depth
  induction depth with
  | zero =>
    intro names directory e _ _ h
    exact .inr ⟨(Except.error.inj h).symm, .inl rfl⟩
  | succ depth ih =>
    intro names directory e hnames hdirectory h
    rw [descendants] at h
    cases hfound : namesIn fs directoriesOnly directory with
    | error e' =>
      rw [hfound] at h
      obtain rfl := Except.error.inj h
      exact .inl (hasNull_of_namesIn hfound)
    | ok found =>
      rw [hfound] at h
      obtain ⟨name, hmem, hname⟩ := exists_of_flatten_error h
      have hthere := (node?_of_mem_namesIn htree hnames hdirectory hfound hmem).1
      obtain ⟨n, hnode⟩ := Option.isSome_iff_exists.mp hthere
      have hfile := (FileSystem.isFileName_of_node? htree hnode).2 name
        (List.mem_singleton_self name)
      have hall : ∀ m ∈ names ++ [name], IsFileName m := by
        simpa [or_imp, forall_and, hfile] using hnames
      have hpath := pathIn_name hnames hdirectory hfile
      rw [← List.append_nil (names ++ [name])] at hnode
      cases hbelow : descendants fs directoriesOnly depth (pathIn directory name) with
      | error e' =>
        rw [hbelow] at hname
        obtain rfl := Except.error.inj hname
        rcases ih hall (hpath ▸ Spells.plain) hbelow with
          ⟨-, hnull⟩ | ⟨rfl, rfl | ⟨below, hthere', hdeep⟩⟩
        · rw [hpath] at hnull
          exact absurd hnull (Spells.plain.not_hasNull htree hnode)
        · exact .inr ⟨rfl, .inr ⟨[name], hthere, Nat.le_refl _⟩⟩
        · rw [List.append_assoc] at hthere'
          exact .inr ⟨rfl, .inr ⟨name :: below, hthere', Nat.succ_le_succ hdeep⟩⟩
      | ok below =>
        rw [hbelow] at hname
        cases hname

/-- So it is with any part. -/
theorem expandPart_eq_error {names : List String} {directory part : String} {depth : Nat}
    {e : ExpandError} (hnames : ∀ name ∈ names, IsFileName name)
    (hdirectory : Spells names directory)
    (h : expandPart fs depth directoriesOnly directory part = .error e) :
    (e = .nullCharacter ∧ HasNull directory) ∨
      e = .tooDeep ∧ (depth = 0 ∨ ∃ below,
        (fs.node? (fs.workingDirectory ++ (names ++ below))).isSome = true ∧
          depth ≤ below.length) := by
  rw [expandPart] at h
  split at h
  · cases hbelow : descendants fs directoriesOnly depth directory with
    | error e' =>
      rw [hbelow] at h
      obtain rfl := Except.error.inj h
      exact descendants_eq_error htree hnames hdirectory hbelow
    | ok below =>
      rw [hbelow] at h
      cases h
  · split at h
    · cases hfound : namesIn fs directoriesOnly directory with
      | error e' =>
        rw [hfound] at h
        obtain rfl := Except.error.inj h
        exact .inl (hasNull_of_namesIn hfound)
      | ok found =>
        rw [hfound] at h
        cases h
    · split at h <;> cases h

end

/-! ## One part in some directories -/

section

variable {fs : FileSystem} {depth : Nat} {directoriesOnly : Bool} {part : String}
  {directories : List String}

/-- What is found in some directories is found in each of them. -/
theorem expandIn_eq_ok {xs : List String}
    (h : expandIn fs depth directoriesOnly part directories = .ok xs) :
    ∃ found : String → List String,
      (∀ d ∈ directories, expandPart fs depth directoriesOnly d part = .ok (found d)) ∧
      xs = directories.flatMap fun d => (found d).map (joined d) := by
  obtain ⟨lists, hlists, rfl⟩ := exists_of_flatten_ok h
  have hfound : ∀ d ∈ directories, ∃ found,
      expandPart fs depth directoriesOnly d part = .ok found ∧ lists d = found.map (joined d) := by
    intro d hd
    have hlist := hlists d hd
    cases hfound : expandPart fs depth directoriesOnly d part with
    | error e =>
      rw [hfound] at hlist
      cases hlist
    | ok found =>
      rw [hfound] at hlist
      exact ⟨found, rfl, (Except.ok.inj hlist).symm⟩
  choose! found hfound using hfound
  exact ⟨found, fun d hd => (hfound d hd).1, List.flatMap_congr fun d hd => (hfound d hd).2⟩

theorem expandIn_eq_error {e : ExpandError}
    (h : expandIn fs depth directoriesOnly part directories = .error e) :
    ∃ d ∈ directories, expandPart fs depth directoriesOnly d part = .error e := by
  obtain ⟨d, hd, hfound⟩ := exists_of_flatten_error h
  refine ⟨d, hd, ?_⟩
  cases hpart : expandPart fs depth directoriesOnly d part with
  | error e' =>
    rw [hpart] at hfound
    exact congrArg Except.error (Except.error.inj hfound)
  | ok found =>
    rw [hpart] at hfound
    cases hfound

end

/-- What the directories are that the first parts of a pattern stand for. -/
structure Covers (fs : FileSystem) (parts directories : List String) : Prop where
  sound : ∀ d ∈ directories, ∃ names, Spells names d ∧ (∀ name ∈ names, IsFileName name) ∧
    MatchesParts parts names ∧ (HasNull d → ∃ part ∈ parts, HasNull part)
  /-- The slash after the path of a directory counts, too. -/
  complete : ∀ names, MatchesParts parts names →
    fs.node? (fs.workingDirectory ++ names) = some .directory →
    (spelling names).utf8ByteSize + 1 < pathSizeLimit → ∃ d ∈ directories, Spells names d

section

variable {fs : FileSystem} (htree : fs.IsTree) {depth : Nat} {directoriesOnly : Bool}
  {part : String} {parts directories xs : List String} (hcovers : Covers fs parts directories)
include htree hcovers

/-- A part for one name stands for names that match and are there. -/
theorem of_mem_expandIn (hany : part ≠ anyDepth) (hpart : IsFileName part)
    (h : expandIn fs depth directoriesOnly part directories = .ok xs) {x : String} (hx : x ∈ xs) :
    ∃ names, names ≠ [] ∧ x = spelling names ∧ MatchesParts (parts ++ [part]) names ∧
      (fs.node? (fs.workingDirectory ++ names)).isSome = true := by
  obtain ⟨found, hfound, rfl⟩ := expandIn_eq_ok h
  obtain ⟨d, hd, hx⟩ := List.mem_flatMap.mp hx
  obtain ⟨name, hname, rfl⟩ := List.mem_map.mp hx
  obtain ⟨names, hspells, hnames, hmatches, -⟩ := hcovers.sound d hd
  obtain ⟨hpartName, hthere⟩ :=
    of_mem_expandPart htree hnames hspells hany hpart (hfound d hd) hname
  obtain ⟨n, hnode⟩ := Option.isSome_iff_exists.mp hthere
  have hfile := (FileSystem.isFileName_of_node? htree hnode).2 name (List.mem_singleton_self name)
  refine ⟨names ++ [name], by simp, ?_,
    matchesParts_concat_iff.mpr ⟨names, [name], rfl, hmatches, hpartName⟩, hthere⟩
  exact joined_name hnames hspells hfile

/-- Names that match and are there are found, if their path is not too long. -/
theorem mem_expandIn (hlisted : fs.unlisted = []) (hany : part ≠ anyDepth) (hpart : IsFileName part)
    (h : expandIn fs depth directoriesOnly part directories = .ok xs) {names : List String} {n : Node}
    (hmatches : MatchesParts (parts ++ [part]) names)
    (hnode : fs.node? (fs.workingDirectory ++ names) = some n)
    (hkind : directoriesOnly = true → n = .directory)
    (hshort : (spelling names).utf8ByteSize < pathSizeLimit) : spelling names ∈ xs := by
  obtain ⟨found, hfound, rfl⟩ := expandIn_eq_ok h
  obtain ⟨front, rest, rfl, hfront, hrest⟩ := matchesParts_concat_iff.mp hmatches
  obtain ⟨name, rfl⟩ := hrest.single hany
  obtain ⟨hfrontName, hname⟩ := FileSystem.isFileName_of_node? htree hnode
  have hhere := FileSystem.isDirectory_of_node? htree hnode (List.cons_ne_nil name [])
  obtain ⟨d, hd, hspells⟩ := hcovers.complete front hfront hhere
    (Nat.lt_of_le_of_lt (Spells.plain.size_lt (List.cons_ne_nil name []) hname) hshort)
  refine List.mem_flatMap.mpr ⟨d, hd, List.mem_map.mpr ⟨name, ?_, ?_⟩⟩
  · exact mem_expandPart htree hfrontName hspells hlisted hany hpart hrest hnode hkind hshort
      (hfound d hd)
  · exact joined_name hfrontName hspells (hname name (List.mem_singleton_self name))

/-- Any number of names stand for a directory itself, and for what is below it. -/
theorem Covers.concat_anyDepth (hlisted : fs.unlisted = [])
    (h : expandIn fs depth true anyDepth directories = .ok xs) :
    Covers fs (parts ++ [anyDepth]) xs := by
  obtain ⟨found, hfound, rfl⟩ := expandIn_eq_ok h
  have hbelow : ∀ d ∈ directories, ∃ below,
      descendants fs true depth d = .ok below ∧ found d = "" :: below := by
    intro d hd
    have hd := hfound d hd
    rw [expandPart, if_pos (by decide)] at hd
    cases hbelow : descendants fs true depth d with
    | error e =>
      rw [hbelow] at hd
      cases hd
    | ok below =>
      rw [hbelow] at hd
      exact ⟨below, rfl, (Except.ok.inj hd).symm⟩
  constructor
  · intro x hx
    obtain ⟨d, hd, hx⟩ := List.mem_flatMap.mp hx
    obtain ⟨y, hy, rfl⟩ := List.mem_map.mp hx
    obtain ⟨below, hdescendants, heq⟩ := hbelow d hd
    obtain ⟨names, hspells, hnames, hmatches, hnull⟩ := hcovers.sound d hd
    have hparts : (∃ name ∈ names, HasNull name) → ∃ part ∈ parts ++ [anyDepth], HasNull part := by
      rw [← hspells.hasNull_iff]
      intro hd
      obtain ⟨part, hpart, hnullPart⟩ := hnull hd
      exact ⟨part, List.mem_append_left _ hpart, hnullPart⟩
    rw [heq] at hy
    rcases List.mem_cons.mp hy with rfl | hy
    · have hempty := hspells.joined_empty hnames
      refine ⟨names, hempty, hnames, ?_, fun h => hparts (hempty.hasNull_iff.mp h)⟩
      exact matchesParts_concat_iff.mpr ⟨names, [], by simp, hmatches, .anyNames []⟩
    · obtain ⟨more, hne, rfl, hmore⟩ := of_mem_descendants htree hnames hspells hdescendants y hy
      have hjoined := hspells.joined hnames hne fun m hm => (hmore m hm).1
      rw [hjoined]
      refine ⟨names ++ more, .plain, fun m hm => ?_, ?_, fun h => hparts ?_⟩
      · rcases List.mem_append.mp hm with hm | hm
        · exact hnames m hm
        · exact (hmore m hm).1
      · exact matchesParts_concat_iff.mpr ⟨names, more, rfl, hmatches, .anyNames more⟩
      · obtain ⟨m, hm, hnull⟩ := Spells.plain.hasNull_iff.mp h
        rcases List.mem_append.mp hm with hm | hm
        · exact ⟨m, hm, hnull⟩
        · exact absurd hnull (hmore m hm).2
  · intro names hmatches hnode hshort
    obtain ⟨front, rest, rfl, hfront, -⟩ := matchesParts_concat_iff.mp hmatches
    obtain ⟨hnames, hrest⟩ := FileSystem.isFileName_of_node? htree hnode
    by_cases hnil : rest = []
    · subst hnil
      rw [List.append_nil] at hnode hshort
      obtain ⟨d, hd, hspells⟩ := hcovers.complete front hfront hnode hshort
      obtain ⟨below, -, heq⟩ := hbelow d hd
      refine ⟨joined d "", ?_, by rw [List.append_nil]; exact hspells.joined_empty hnames⟩
      exact List.mem_flatMap.mpr ⟨d, hd, List.mem_map_of_mem (by simp [heq])⟩
    · have hhere := FileSystem.isDirectory_of_node? htree hnode hnil
      have hlt : (spelling front).utf8ByteSize < (spelling (front ++ rest)).utf8ByteSize :=
        Spells.plain.size_lt hnil hrest
      obtain ⟨d, hd, hspells⟩ := hcovers.complete front hfront hhere (by omega)
      obtain ⟨below, hdescendants, heq⟩ := hbelow d hd
      have hin := mem_descendants htree hlisted hnames hspells hnil hnode (fun _ => rfl)
        (Nat.lt_of_succ_lt hshort) hdescendants
      refine ⟨spelling (front ++ rest), ?_, .plain⟩
      rw [← hspells.joined hnames hnil hrest]
      exact List.mem_flatMap.mpr ⟨d, hd, List.mem_map_of_mem (by simp [heq, hin])⟩

/-- The directories for one more part. -/
theorem Covers.concat (hlisted : fs.unlisted = []) (hpart : IsFileName part)
    (h : expandIn fs depth true part directories = .ok xs) :
    Covers fs (parts ++ [part]) xs := by
  by_cases hany : part = anyDepth
  · subst hany
    exact hcovers.concat_anyDepth htree hlisted h
  · constructor
    · intro x hx
      obtain ⟨names, hne, rfl, hmatches, hthere⟩ := of_mem_expandIn htree hcovers hany hpart h hx
      obtain ⟨n, hnode⟩ := Option.isSome_iff_exists.mp hthere
      rw [← List.append_nil names] at hnode
      exact ⟨names, .plain, (FileSystem.isFileName_of_node? htree hnode).1, hmatches,
        fun hnull => absurd hnull (Spells.plain.not_hasNull htree hnode)⟩
    · intro names hmatches hnode hshort
      exact ⟨_, mem_expandIn htree hcovers hlisted hany hpart h hmatches hnode (fun _ => rfl)
        (Nat.lt_of_succ_lt hshort), .plain⟩

end

/-! ## All parts -/

/-- The directories that the first parts of a pattern stand for, as they are
expanded. Parts without wildcards are not looked up. -/
def directoriesFor (fs : FileSystem) (depth : Nat) (parts : List String) :
    Except ExpandError (List String) :=
  if parts.isEmpty then .ok [""]
  else if parts.any hasWildcard then expandReversed fs depth true (spelling parts).toList.reverse
  else .ok [spelling parts]

theorem any_spelling (parts : List String) :
    (spelling parts).toList.any isWildcard = parts.any hasWildcard := by
  induction parts with
  | nil => rfl
  | cons part parts ih =>
    by_cases hne : parts = []
    · rw [hne, FileSystem.spelling_singleton]
      simp [hasWildcard]
    · have hslash : ("/" : String).toList.any isWildcard = false := by decide
      rw [← List.singleton_append, FileSystem.spelling_append (by simp) hne,
        FileSystem.spelling_singleton, String.toList_append, String.toList_append, List.any_append,
        List.any_append, hslash, ih]
      simp [hasWildcard]

theorem directoriesFor_of_ne {fs : FileSystem} {depth : Nat} {parts : List String}
    (hne : parts ≠ []) : directoriesFor fs depth parts =
      if parts.any hasWildcard then expandReversed fs depth true (spelling parts).toList.reverse
      else .ok [spelling parts] := by
  rw [directoriesFor, if_neg (by simpa using hne)]

/-- The working directory is the one that nothing is put to. -/
theorem expandIn_here (fs : FileSystem) (depth : Nat) (directoriesOnly : Bool) (part : String) :
    expandIn fs depth directoriesOnly part [""]
      = expandPart fs depth directoriesOnly "" part := by
  have hjoined : joined "" = id := funext joined_here
  rw [expandIn, List.mapM_cons, List.mapM_nil, hjoined]
  cases expandPart fs depth directoriesOnly "" part with
  | error e => rfl
  | ok xs =>
    have hxs : [xs.map id].flatten = xs := by simp
    exact congrArg Except.ok hxs

section

variable {fs : FileSystem} {depth : Nat} {directoriesOnly : Bool} {part : String}
  {parts : List String}

/-- The last part of a pattern is looked up in the directories that the parts
before it stand for. -/
theorem expandReversed_spelling (hparts : ∀ p ∈ parts, IsFileName p) (hpart : IsFileName part) :
    expandReversed fs (depth + 1) directoriesOnly (spelling (parts ++ [part])).toList.reverse
      = (directoriesFor fs depth parts).bind (expandIn fs depth directoriesOnly part) := by
  by_cases hne : parts = []
  · subst hne
    rw [List.nil_append, FileSystem.spelling_singleton, expandReversed_alone hpart.unslashed,
      String.ofList_toList, ← expandIn_here]
    rfl
  · have hchars : (spelling (parts ++ [part])).toList
        = (spelling parts).toList ++ List.replicate (0 + 1) '/' ++ part.toList := by
      rw [FileSystem.spelling_append hne (by simp), FileSystem.spelling_singleton,
        String.toList_append, String.toList_append]
      rfl
    rw [hchars, expandReversed_split hpart.unslashed (FileSystem.getLast?_spelling hparts),
      any_spelling, String.ofList_toList, String.ofList_toList,
      if_neg (by simpa using FileSystem.spelling_ne_empty hparts hne), directoriesFor_of_ne hne]
    split <;> rfl

/-- The directories for parts without wildcards. -/
theorem covers_literal (hparts : ∀ p ∈ parts, IsFileName p)
    (hliteral : parts.any hasWildcard = false) : Covers fs parts [spelling parts] := by
  constructor
  · intro d hd
    rw [List.mem_singleton.mp hd]
    exact ⟨parts, .plain, hparts, (matchesParts_literal_iff hliteral).mpr rfl,
      Spells.plain.hasNull_iff.mp⟩
  · intro names hmatches _ _
    rw [(matchesParts_literal_iff hliteral).mp hmatches]
    exact ⟨_, List.mem_singleton_self _, .plain⟩

/-- The directories that the first parts of a pattern stand for are found. By
induction from the last part on, since this is how they are looked up. -/
theorem covers_directoriesFor (htree : fs.IsTree) (hlisted : fs.unlisted = []) :
    ∀ {depth : Nat} {parts directories : List String}, (∀ p ∈ parts, IsFileName p) →
      directoriesFor fs depth parts = .ok directories → Covers fs parts directories := by
  intro depth parts
  induction parts using List.reverseRecOn generalizing depth with
  | nil =>
    intro directories _ h
    obtain rfl := Except.ok.inj h
    exact covers_literal (by simp) rfl
  | append_singleton parts part ih =>
    intro directories hall h
    rw [directoriesFor_of_ne (by simp)] at h
    cases hwildcard : (parts ++ [part]).any hasWildcard with
    | false =>
      rw [hwildcard, if_neg Bool.false_ne_true] at h
      obtain rfl := Except.ok.inj h
      exact covers_literal hall hwildcard
    | true =>
      have hparts : ∀ p ∈ parts, IsFileName p := fun p hp => hall p (List.mem_append_left _ hp)
      have hpart : IsFileName part := hall part (by simp)
      rw [hwildcard, if_pos rfl] at h
      cases depth with
      | zero =>
        rw [expandReversed] at h
        cases h
      | succ depth =>
        rw [expandReversed_spelling hparts hpart] at h
        cases hfound : directoriesFor fs depth parts with
        | error e =>
          rw [hfound] at h
          cases h
        | ok found =>
          rw [hfound] at h
          exact (ih hparts hfound).concat htree hlisted hpart h

/-- What keeps a search from its end: a null character in a part of the pattern, or
parts and directories that together are more than the levels it may go down. -/
inductive Obstructs (fs : FileSystem) (parts : List String) (depth : Nat) : ExpandError → Prop
  | nullCharacter {p} (hp : p ∈ parts) (hnull : HasNull p) : Obstructs fs parts depth .nullCharacter
  | tooDeep {names} (hthere : (fs.node? (fs.workingDirectory ++ names)).isSome = true)
      (hdeep : depth ≤ parts.length + names.length) : Obstructs fs parts depth .tooDeep

/-- One more part is one more level. -/
theorem Obstructs.concat {e : ExpandError} (h : Obstructs fs parts depth e) (part : String) :
    Obstructs fs (parts ++ [part]) (depth + 1) e := by
  cases h with
  | nullCharacter hp hnull => exact .nullCharacter (List.mem_append_left _ hp) hnull
  | tooDeep hthere hdeep =>
    refine .tooDeep hthere ?_
    rw [List.length_append, List.length_singleton]
    omega

theorem obstructs_of_length_le (htree : fs.IsTree) (h : depth ≤ parts.length) :
    Obstructs fs parts depth .tooDeep := by
  have hhere : (fs.node? (fs.workingDirectory ++ [])).isSome = true := by
    rw [List.append_nil, htree.here]
    rfl
  exact .tooDeep hhere h

theorem obstructs_of_expandIn (htree : fs.IsTree) {directories : List String} {e : ExpandError}
    (hcovers : Covers fs parts directories)
    (h : expandIn fs depth directoriesOnly part directories = .error e) :
    Obstructs fs (parts ++ [part]) (depth + 1) e := by
  obtain ⟨d, hd, herror⟩ := expandIn_eq_error h
  obtain ⟨names, hspells, hnames, -, hnull⟩ := hcovers.sound d hd
  rcases expandPart_eq_error htree hnames hspells herror with
    ⟨rfl, hdirectory⟩ | ⟨rfl, rfl | ⟨below, hthere, hdeep⟩⟩
  · obtain ⟨p, hp, hpnull⟩ := hnull hdirectory
    exact .nullCharacter (List.mem_append_left _ hp) hpnull
  · refine obstructs_of_length_le htree ?_
    rw [List.length_append, List.length_singleton]
    omega
  · refine .tooDeep hthere ?_
    simp only [List.length_append, List.length_singleton]
    omega

theorem obstructs_of_expandReversed (htree : fs.IsTree) (hlisted : fs.unlisted = []) :
    ∀ {depth : Nat} {directoriesOnly : Bool} {parts : List String} {part : String}
      {e : ExpandError}, (∀ p ∈ parts, IsFileName p) → IsFileName part →
      expandReversed fs depth directoriesOnly (spelling (parts ++ [part])).toList.reverse
        = .error e → Obstructs fs (parts ++ [part]) depth e := by
  intro depth
  induction depth with
  | zero =>
    intro directoriesOnly parts part e _ _ h
    rw [expandReversed] at h
    obtain rfl := Except.error.inj h
    exact obstructs_of_length_le htree (Nat.zero_le _)
  | succ depth ih =>
    intro directoriesOnly parts part e hparts hpart h
    rw [expandReversed_spelling hparts hpart] at h
    cases hfound : directoriesFor fs depth parts with
    | ok directories =>
      rw [hfound] at h
      exact obstructs_of_expandIn htree (covers_directoriesFor htree hlisted hparts hfound) h
    | error e' =>
      rw [hfound] at h
      obtain rfl := Except.error.inj h
      rcases List.eq_nil_or_concat parts with rfl | ⟨front, last, rfl⟩
      · cases hfound
      · rw [List.concat_eq_append] at hparts hfound ⊢
        rw [directoriesFor_of_ne (by simp)] at hfound
        split at hfound
        · exact (ih (fun p hp => hparts p (List.mem_append_left _ hp)) (hparts last (by simp))
            hfound).concat part
        · cases hfound

end

end SyntaxCorpus.Pattern
