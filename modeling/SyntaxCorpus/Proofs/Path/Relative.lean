/-
SyntaxCorpus.Proofs.Path.Relative — walking the way from a directory to a path.

A written path is walked from the root on, piece by piece. Names without `..`
that are walked one after another stay as they are, so all that has to be followed
is the part of the directory that the way leaves and the part of the path that it
enters. What the two share is found by comparing them from the front.

* `Normalises`, `NormalForm`, `normalForm_iff` — where the pieces of a written path
  lead.
* `collapse_append_replicate` — as many `..` as there are names lead back over
  them.
* `IsParting`, `exists_wayTo` — the longest part that two lists of names share,
  and what the way between them is.
* `IsWay`, `relativePath_normalises` — the way from a directory to a path leads to
  the path, and no two places have one way.
-/
import Mathlib.Data.List.Induction
import SyntaxCorpus.Batch.Outcome
import SyntaxCorpus.Proofs.FileSystem.Tidy
import SyntaxCorpus.Proofs.Path.Basic

namespace SyntaxCorpus

namespace Path

/-! ## Walking from the root -/

/-- The names that pieces of a written path lead to from the root on. An empty
piece and a point lead nowhere, two points lead one name back, and at the root
nowhere. -/
inductive Normalises : List String → List String → Prop
  | root : Normalises [] []
  | stay {pieces names piece} (h : Normalises pieces names) (hpiece : piece = "" ∨ piece = ".") :
      Normalises (pieces ++ [piece]) names
  | back {pieces names} (h : Normalises pieces names) :
      Normalises (pieces ++ [".."]) names.dropLast
  | enter {pieces names piece} (h : Normalises pieces names) (hempty : piece ≠ "")
      (hpoint : piece ≠ ".") (hback : piece ≠ "..") :
      Normalises (pieces ++ [piece]) (names ++ [piece])

/-- The names that a written path leads to from the root on. -/
def NormalForm (s : String) (names : List String) : Prop := Normalises (Text.pieces '/' s) names

variable {names more : List String} {name : String}

theorem collapse_concat_back (names : List String) :
    collapse (names ++ [".."]) = (collapse names).dropLast := by
  simp [collapse, List.dropLast_reverse]

theorem collapse_concat (names : List String) (h : name ≠ "..") :
    collapse (names ++ [name]) = collapse names ++ [name] := by
  simp [collapse, h]

/-- Pieces lead to the names that are left when `..` and what it cancels are
gone. -/
theorem normalises_iff {pieces : List String} :
    Normalises pieces names ↔ names = collapse (pieces.filter isProperName) := by
  constructor
  · intro h
    induction h with
    | root => rfl
    | stay _ hpiece ih =>
      have hproper : isProperName _ ≠ true := fun h =>
        hpiece.elim (isProperName_iff.mp h).1 (isProperName_iff.mp h).2
      rw [List.filter_append, List.filter_cons_of_neg hproper, List.filter_nil, List.append_nil]
      exact ih
    | back _ ih =>
      rw [ih, List.filter_append, ← collapse_concat_back]
      rfl
    | enter _ hempty hpoint hback ih =>
      rw [ih, List.filter_append, List.filter_cons_of_pos (isProperName_iff.mpr ⟨hempty, hpoint⟩),
        List.filter_nil, collapse_concat _ hback]
  · rintro rfl
    induction pieces using List.reverseRecOn with
    | nil => exact .root
    | append_singleton pieces piece ih =>
      rw [List.filter_append]
      by_cases hback : piece = ".."
      · subst hback
        have hcollapse := collapse_concat_back (pieces.filter isProperName)
        exact hcollapse ▸ .back ih
      · by_cases hproper : isProperName piece = true
        · obtain ⟨hempty, hpoint⟩ := isProperName_iff.mp hproper
          rw [List.filter_cons_of_pos hproper, List.filter_nil, collapse_concat _ hback]
          exact .enter ih hempty hpoint hback
        · rw [List.filter_cons_of_neg hproper, List.filter_nil, List.append_nil]
          rw [isProperName_iff, not_and_or, not_not, not_not] at hproper
          exact .stay ih hproper

theorem normalForm_iff {s : String} : NormalForm s names ↔ names = collapse (ofText s).names :=
  normalises_iff

/-! ## Names one after another -/

theorem mem_of_mem_collapse (h : name ∈ collapse names) : name ∈ names ∧ name ≠ ".." := by
  induction names using List.reverseRecOn with
  | nil => cases h
  | append_singleton names last ih =>
    by_cases hlast : last = ".."
    · subst hlast
      rw [collapse_concat_back] at h
      obtain ⟨hmem, hname⟩ := ih (List.dropLast_subset _ h)
      exact ⟨List.mem_append_left _ hmem, hname⟩
    · rw [collapse_concat _ hlast] at h
      rcases List.mem_append.mp h with h | h
      · exact ⟨List.mem_append_left _ (ih h).1, (ih h).2⟩
      · obtain rfl := List.mem_singleton.mp h
        exact ⟨List.mem_append_right _ h, hlast⟩

/-- Names without `..` are walked one after another. -/
theorem collapse_append (names : List String) (h : ".." ∉ more) :
    collapse (names ++ more) = collapse names ++ more := by
  induction more using List.reverseRecOn with
  | nil => simp
  | append_singleton more last ih =>
    simp only [List.mem_append, List.mem_singleton, not_or] at h
    rw [← List.append_assoc, collapse_concat _ (Ne.symm h.2), ih h.1, List.append_assoc]

/-- Going back, and what comes after it, starts from where the names before it
lead. -/
theorem collapse_append_collapse (names more : List String) :
    collapse (collapse names ++ more) = collapse (names ++ more) := by
  induction more using List.reverseRecOn with
  | nil =>
    have hback : ".." ∉ collapse names := fun h => (mem_of_mem_collapse h).2 rfl
    have hwalk := collapse_append [] hback
    rw [List.append_nil, List.append_nil]
    exact hwalk
  | append_singleton more last ih =>
    rw [← List.append_assoc, ← List.append_assoc]
    by_cases hlast : last = ".."
    · rw [hlast, collapse_concat_back, collapse_concat_back, ih]
    · rw [collapse_concat _ hlast, collapse_concat _ hlast, ih]

/-- As many `..` as there are names lead back over them. -/
theorem collapse_append_replicate {left : List String} (names : List String) (h : ".." ∉ left) :
    collapse (names ++ left ++ List.replicate left.length "..") = collapse names := by
  induction left using List.reverseRecOn with
  | nil => simp
  | append_singleton left last ih =>
    simp only [List.mem_append, List.mem_singleton, not_or] at h
    -- the last name is what the first `..` cancels
    have hstep : collapse (names ++ (left ++ [last]) ++ [".."]) = collapse (names ++ left) := by
      rw [collapse_concat_back, ← List.append_assoc, collapse_concat _ (Ne.symm h.2),
        List.dropLast_concat]
    rw [List.length_append, List.length_singleton, List.replicate_succ, List.append_cons,
      ← collapse_append_collapse, hstep, collapse_append_collapse, ih h.1]

/-! ## What two lists of names share -/

/-- The longest list that two lists of names both start with. -/
structure IsParting (directory path shared : List String) : Prop where
  startsDirectory : shared <+: directory
  startsPath : shared <+: path
  longest : ∀ l, l <+: directory → l <+: path → l <+: shared

/-- The way between two lists of names leaves what is not shared of the first,
and enters what is not shared of the second. -/
theorem exists_wayTo (directory path : List String) : ∃ shared left entered,
    directory = shared ++ left ∧ path = shared ++ entered ∧
      IsParting directory path shared ∧
      wayTo directory path = List.replicate left.length ".." ++ entered := by
  fun_induction wayTo directory path with
  | case1 d directory p path hsame ih =>
    obtain rfl := eq_of_beq hsame
    obtain ⟨shared, left, entered, rfl, rfl, hparting, hway⟩ := ih
    refine ⟨d :: shared, left, entered, rfl, rfl, ⟨by simp, by simp, fun l hd hp => ?_⟩, hway⟩
    cases l with
    | nil => exact List.nil_prefix
    | cons name l =>
      obtain ⟨rfl, hdirectory⟩ := List.cons_prefix_cons.mp hd
      have hpath := (List.cons_prefix_cons.mp hp).2
      exact List.cons_prefix_cons.mpr ⟨rfl, hparting.longest l hdirectory hpath⟩
  | case2 d directory p path hother =>
    refine ⟨[], d :: directory, p :: path, rfl, rfl,
      ⟨List.nil_prefix, List.nil_prefix, fun l hd hp => ?_⟩, rfl⟩
    cases l with
    | nil => exact List.nil_prefix
    | cons name l =>
      obtain ⟨rfl, _⟩ := List.cons_prefix_cons.mp hd
      obtain ⟨rfl, _⟩ := List.cons_prefix_cons.mp hp
      simp at hother
  | case3 directory path hends =>
    refine ⟨[], directory, path, rfl, rfl,
      ⟨List.nil_prefix, List.nil_prefix, fun l hd hp => ?_⟩, rfl⟩
    -- one of the two is empty
    cases directory with
    | nil => exact hd
    | cons d directory =>
      cases path with
      | nil => exact hp
      | cons p path => exact (hends d directory p path rfl rfl).elim

/-- The way between two lists of names leads from the one to the other. -/
theorem collapse_append_wayTo (directory path : List String) :
    collapse (directory ++ wayTo (collapse directory) (collapse path)) = collapse path := by
  obtain ⟨shared, left, entered, hdirectory, hpath, _, hway⟩ :=
    exists_wayTo (collapse directory) (collapse path)
  have hback : ∀ names part : List String, (∀ name ∈ part, name ∈ collapse names) → ".." ∉ part :=
    fun _ _ hpart h => (mem_of_mem_collapse (hpart _ h)).2 rfl
  have hshared : ".." ∉ shared := hback path _ fun _ h => hpath ▸ List.mem_append_left _ h
  have hleft : ".." ∉ left := hback directory _ fun _ h => hdirectory ▸ List.mem_append_right _ h
  have hentered : ".." ∉ entered := hback path _ fun _ h => hpath ▸ List.mem_append_right _ h
  calc collapse (directory ++ wayTo (collapse directory) (collapse path))
      = collapse (shared ++ left ++ List.replicate left.length ".." ++ entered) := by
        rw [← collapse_append_collapse, hway, hdirectory, List.append_assoc (shared ++ left)]
    _ = collapse shared ++ entered := by
        rw [collapse_append _ hentered, collapse_append_replicate _ hleft]
    _ = collapse path := by
        have hwalk := collapse_append [] hshared
        rw [hpath, ← List.nil_append shared, hwalk]
        rfl

/-! ## The way as it is written -/

/-- How a way is written: as a point, or as one `..` for each name of the directory
that the path does not share, with names after them. -/
def IsWay (directory path : List String) (way : String) : Prop :=
  ∃ shared, IsParting directory path shared ∧
    (way = "." ∧ directory = path ∨
      ∃ names, Text.pieces '/' way
          = List.replicate (directory.length - shared.length) ".." ++ names ∧
        path = shared ++ names ∧ ∀ name ∈ names, name ≠ "" ∧ name ≠ "." ∧ name ≠ "..")

theorem isProper_wayTo (directory p : Path) (hp : p.IsProper) :
    IsProper ⟨.none, wayTo (collapse directory.names) (collapse p.names)⟩ := by
  obtain ⟨shared, left, entered, _, hpath, _, hway⟩ :=
    exists_wayTo (collapse directory.names) (collapse p.names)
  intro name hname
  rw [hway, List.mem_append] at hname
  rcases hname with hname | hname
  · obtain rfl := List.eq_of_mem_replicate hname
    decide
  · have hmem : name ∈ collapse p.names := hpath ▸ List.mem_append_right _ hname
    exact hp name (mem_of_mem_collapse hmem).1

theorem isWay_relativeTo (directory p : Path) (hp : p.IsProper) :
    IsWay (collapse directory.names) (collapse p.names) (relativeTo directory p) := by
  have hproper := isProper_wayTo directory p hp
  obtain ⟨shared, left, entered, hdirectory, hpath, hparting, hway⟩ :=
    exists_wayTo (collapse directory.names) (collapse p.names)
  refine ⟨shared, hparting, ?_⟩
  have hlength : (collapse directory.names).length - shared.length = left.length := by
    rw [hdirectory, List.length_append, Nat.add_sub_cancel_left]
  by_cases hnil : wayTo (collapse directory.names) (collapse p.names) = []
  · refine .inl ⟨by rw [relativeTo, hnil]; rfl, ?_⟩
    rw [hnil, eq_comm, List.append_eq_nil_iff, List.replicate_eq_nil_iff,
      List.length_eq_zero_iff] at hway
    rw [hdirectory, hpath, hway.1, hway.2]
  · have htext : relativeTo directory p
        = String.intercalate "/" (wayTo (collapse directory.names) (collapse p.names)) := by
      rw [relativeTo, text]
      split
      · rename_i hnames
        exact absurd hnames hnil
      · exact String.empty_append
    have hpieces : Text.pieces '/' (relativeTo directory p)
        = wayTo (collapse directory.names) (collapse p.names) := by
      rw [htext]
      exact Text.pieces_intercalate hnil fun name hname => (hproper name hname).2
    refine .inr ⟨entered, by rw [hpieces, hway, hlength], hpath, fun name hname => ?_⟩
    have hmem : name ∈ collapse p.names := hpath ▸ List.mem_append_right _ hname
    obtain ⟨hmem, hback⟩ := mem_of_mem_collapse hmem
    obtain ⟨hempty, hpoint⟩ := isProperName_iff.mp (hp name hmem).1
    exact ⟨hempty, hpoint, hback⟩

theorem names_ofText (s : String) : (ofText s).names = (Text.pieces '/' s).filter isProperName :=
  rfl

/-- A directory and the way from it to a path, written one after the other. -/
theorem collapse_ofText_relativeTo (r : String) (p : Path) (hp : p.IsProper) :
    collapse (ofText (r ++ "/" ++ relativeTo (ofText r) p)).names = collapse p.names := by
  have hnames : ∀ way : String,
      (ofText (r ++ "/" ++ way)).names = (ofText r).names ++ (ofText way).names := by
    intro way
    have hpieces := Text.pieces_append '/' r way
    rw [names_ofText, names_ofText, names_ofText, ← List.filter_append, ← hpieces]
    rfl
  rw [hnames, relativeTo, ofText_text (isProper_wayTo _ p hp), collapse_append_wayTo]

end Path

/-! ## Paths from the root on -/

section

open SyntaxCorpus.Path (NormalForm IsWay normalForm_iff isProper_ofText isWay_relativeTo)

variable {p q r : String}

theorem isAbsolute_ofText {s : String} (h : startsAtRoot s = true) :
    (Path.ofText s).isAbsolute = true := by
  rw [FileSystem.startsAtRoot_eq] at h
  exact h

/-- From the root on, the working directory does not count. -/
theorem relativePath_ofText (fs : FileSystem) (hp : startsAtRoot p = true)
    (hr : startsAtRoot r = true) :
    relativePath fs (Path.ofText p) (Path.ofText r)
      = Path.relativeTo (Path.ofText r) (Path.ofText p) := by
  rw [relativePath, Path.onto, Path.onto, if_pos (isAbsolute_ofText hp),
    if_pos (isAbsolute_ofText hr)]

/-- **The way from a directory to a path leads to the path, and two paths have one
way exactly if they lead to one place.** -/
theorem relativePath_normalises (fs : FileSystem) (hp : startsAtRoot p = true)
    (hr : startsAtRoot r = true) :
    (∀ names, NormalForm (r ++ "/" ++ relativePath fs (Path.ofText p) (Path.ofText r)) names ↔
      NormalForm p names) ∧
    (∃ directory path, NormalForm r directory ∧ NormalForm p path ∧
      IsWay directory path (relativePath fs (Path.ofText p) (Path.ofText r))) ∧
    ∀ q, startsAtRoot q = true →
      (relativePath fs (Path.ofText p) (Path.ofText r)
          = relativePath fs (Path.ofText q) (Path.ofText r) ↔
        ∃ names, NormalForm p names ∧ NormalForm q names) := by
  have hwalk : ∀ s : String, Path.collapse (Path.ofText
        (r ++ "/" ++ Path.relativeTo (Path.ofText r) (Path.ofText s))).names
      = Path.collapse (Path.ofText s).names :=
    fun s => Path.collapse_ofText_relativeTo r _ (isProper_ofText s)
  refine ⟨fun names => ?_, ⟨_, _, normalForm_iff.mpr rfl, normalForm_iff.mpr rfl, ?_⟩,
    fun q hq => ?_⟩
  · rw [relativePath_ofText fs hp hr, normalForm_iff, normalForm_iff, hwalk]
  · rw [relativePath_ofText fs hp hr]
    exact isWay_relativeTo _ _ (isProper_ofText p)
  · rw [relativePath_ofText fs hp hr, relativePath_ofText fs hq hr]
    constructor
    · intro hsame
      have hnames := hwalk p
      rw [hsame, hwalk q] at hnames
      exact ⟨_, normalForm_iff.mpr rfl, normalForm_iff.mpr hnames.symm⟩
    · rintro ⟨names, hpath, hother⟩
      rw [Path.relativeTo, Path.relativeTo, ← normalForm_iff.mp hpath, ← normalForm_iff.mp hother]

/-- Both paths go back at the root, and one starts with two slashes. -/
theorem relativePath_normalises_backwards :
    startsAtRoot "//a/./b/../../../c.py" = true ∧ startsAtRoot "/a//x/../y/." = true ∧
      startsAtRoot "/c.py" = true ∧
      (∀ names, NormalForm "/a//x/../y/./../../c.py" names ↔
        NormalForm "//a/./b/../../../c.py" names) ∧
      (∃ directory path, NormalForm "/a//x/../y/." directory ∧
        NormalForm "//a/./b/../../../c.py" path ∧ IsWay directory path "../../c.py") ∧
      ∃ names, NormalForm "//a/./b/../../../c.py" names ∧ NormalForm "/c.py" names := by
  have hpath : startsAtRoot "//a/./b/../../../c.py" = true := by decide
  have hdirectory : startsAtRoot "/a//x/../y/." = true := by decide
  have hother : startsAtRoot "/c.py" = true := by decide
  have hway : relativePath (.empty []) (Path.ofText "//a/./b/../../../c.py")
      (Path.ofText "/a//x/../y/.") = "../../c.py" := by decide +kernel
  have hsame : relativePath (.empty []) (Path.ofText "/c.py") (Path.ofText "/a//x/../y/.")
      = "../../c.py" := by decide +kernel
  have hjoined : "/a//x/../y/." ++ "/" ++ "../../c.py" = "/a//x/../y/./../../c.py" := by
    decide +kernel
  obtain ⟨hwalk, hshape, heq⟩ := relativePath_normalises (.empty []) hpath hdirectory
  rw [hway] at hwalk hshape heq
  rw [hjoined] at hwalk
  exact ⟨hpath, hdirectory, hother, hwalk, hshape, (heq "/c.py" hother).mp hsame.symm⟩

end

end SyntaxCorpus
