/-
SyntaxCorpus.Proofs.FileSystem.Tree — file systems that are trees, and the texts
of the paths in them.

Without links, a location has just one way to it. So a path that is written with
the names from the working directory on leads to the location of these names, if
there is anything, and it is not too long.

* `IsFileName` — the names that a directory can hold.
* `IsTree` — file systems without links.
* `spelling`, `Spells` — names as a path, maybe with a slash at its end.
* `Spells.joined` — a name put to the text of a directory.
* `status_spelling_iff`, `status_lookup_iff` — where these texts lead.
-/
import SyntaxCorpus.Proofs.FileSystem.Tidy
import SyntaxCorpus.Proofs.Pattern.Expand

namespace SyntaxCorpus

/-! ## Names and trees -/

/-- A name that a file can have, as far as slashes, points and its size go. -/
structure IsFileName (name : String) : Prop where
  nonempty : name ≠ ""
  notHere : name ≠ "."
  notUp : name ≠ ".."
  unslashed : '/' ∉ name.toList
  short : name.utf8ByteSize ≤ maxNameSize

instance (name : String) : Decidable (IsFileName name) :=
  decidable_of_iff (name ≠ "" ∧ name ≠ "." ∧ name ≠ ".." ∧ '/' ∉ name.toList ∧
      name.utf8ByteSize ≤ maxNameSize)
    ⟨fun ⟨h₁, h₂, h₃, h₄, h₅⟩ => ⟨h₁, h₂, h₃, h₄, h₅⟩,
      fun ⟨h₁, h₂, h₃, h₄, h₅⟩ => ⟨h₁, h₂, h₃, h₄, h₅⟩⟩

/-- Whether a text has a null character. -/
def HasNull (s : String) : Prop := Char.ofNat 0 ∈ s.toList

instance (s : String) : Decidable (HasNull s) :=
  inferInstanceAs (Decidable (Char.ofNat 0 ∈ s.toList))

theorem IsFileName.isProperName {name : String} (h : IsFileName name) :
    Path.isProperName name = true := by
  simp [Path.isProperName, h.nonempty, h.notHere]

namespace FileSystem

/-- A file system without links. Everything is in a directory, and has a name
without a null character. -/
structure IsTree (fs : FileSystem) : Prop where
  up : ∀ l n, l ≠ [] → fs.node? l = some n → fs.node? l.dropLast = some .directory
  noLink : ∀ l target, fs.node? l ≠ some (.link target)
  names : ∀ l n, fs.node? l = some n → ∀ name ∈ l, IsFileName name ∧ ¬ HasNull name
  here : fs.node? fs.workingDirectory = some .directory

/-- What is below something is in a directory. -/
theorem IsTree.isDirectory {fs : FileSystem} (htree : fs.IsTree) {l : Location} {more : List String}
    {n : Node} (h : fs.node? (l ++ more) = some n) (hne : more ≠ []) :
    fs.node? l = some .directory := by
  induction more using List.reverseRecOn generalizing n with
  | nil => exact absurd rfl hne
  | append_singleton more name ih =>
    have hup := htree.up _ n (by simp) h
    rw [← List.append_assoc, List.dropLast_concat] at hup
    by_cases hmore : more = []
    · rw [hmore, List.append_nil] at hup
      exact hup
    · exact ih hup hmore

/-- In a tree, names lead down from a directory. -/
theorem leads_iff {fs : FileSystem} (htree : fs.IsTree) {purpose : Purpose}
    (hpurpose : purpose ≠ .create) {links : Nat} {l : Location} {n : Node} :
    ∀ {names : List String} {here : Location}, (∀ name ∈ names, IsFileName name) →
      (Leads fs purpose links here names (.present l n) ↔
        l = here ++ names ∧ fs.node? l = some n) := by
  have hentry : ∀ {name : String} {rest : List String}, IsFileName name →
      IsEntry purpose name rest := by
    intro name rest h
    exact ⟨by simp [h.nonempty, h.notHere], by simp [h.notUp], by simp [isSlashedFile, hpurpose],
      Nat.not_lt.mpr h.short⟩
  intro names
  induction names with
  | nil =>
    intro here _
    rw [List.append_nil]
    constructor
    · intro h
      cases h with
      | arrive hn => exact ⟨rfl, hn⟩
    · rintro ⟨rfl, hn⟩
      exact .arrive hn
  | cons name names ih =>
    intro here hnames
    obtain ⟨hname, hrest⟩ := List.forall_mem_cons.mp hnames
    have hdown : here ++ [name] ++ names = here ++ name :: names := by simp
    constructor
    · intro h
      cases h with
      | stay _ hproper _ => cases (@hentry name names hname).proper.symm.trans hproper
      | up _ _ hup _ => cases (@hentry name names hname).down.symm.trans hup
      | inspect _ _ hnode _ => exact absurd hnode (htree.noLink _ _)
      | follow _ _ hnode _ _ => exact absurd hnode (htree.noLink _ _)
      | enter _ _ _ _ hleads =>
        rw [← hdown]
        exact (ih hrest).mp hleads
    · rintro ⟨rfl, hn⟩
      obtain ⟨k, hk⟩ : ∃ k, fs.node? (here ++ [name]) = some k := by
        rw [← hdown] at hn
        by_cases hnil : names = []
        · rw [hnil, List.append_nil] at hn
          exact ⟨n, hn⟩
        · exact ⟨_, htree.isDirectory hn hnil⟩
      exact .enter (htree.isDirectory hk (by simp)) (hentry hname) hk
        (fun target heq => htree.noLink _ target (heq ▸ hk)) ((ih hrest).mpr ⟨hdown.symm, hn⟩)

/-- In a tree, names of files do not lead to a name that is too long. -/
theorem walk_ne_nameTooLong {fs : FileSystem} (htree : fs.IsTree) {links : Nat} :
    ∀ {names : List String} {here : Location}, (∀ name ∈ names, IsFileName name) →
      fs.walk .reach links here names ≠ .error .nameTooLong := by
  intro names
  induction names with
  | nil =>
    intro here _
    rw [walk]
    split <;> simp
  | cons name names ih =>
    intro here hnames
    obtain ⟨hname, hrest⟩ := List.forall_mem_cons.mp hnames
    rw [walk]
    split
    · simp
    · simp only [beq_eq_false_iff_ne.mpr hname.nonempty, beq_eq_false_iff_ne.mpr hname.notHere,
        beq_eq_false_iff_ne.mpr hname.notUp, Bool.or_false, Bool.false_eq_true, if_false,
        if_neg (Nat.not_lt.mpr hname.short)]
      split
      · rename_i hslashed
        cases hslashed
      · split
        · split <;> simp
        · rename_i target hnode
          exact absurd hnode (htree.noLink _ target)
        · exact ih hrest
    · simp

/-- A list of entries is a tree if each of them is in a directory and has the
name of a file. -/
theorem isTree_of_entries {fs : FileSystem}
    (hup : ∀ e ∈ fs.entries, fs.node? e.1.dropLast = some .directory)
    (hlink : ∀ e ∈ fs.entries, ∀ target, e.2 ≠ .link target)
    (hnames : ∀ e ∈ fs.entries, ∀ name ∈ e.1, IsFileName name ∧ ¬ HasNull name)
    (hhere : fs.node? fs.workingDirectory = some .directory) : fs.IsTree := by
  have hentry : ∀ l n, l ≠ [] → fs.node? l = some n → (l, n) ∈ fs.entries := by
    intro l n hl hn
    rw [node?_of_ne_nil fs hl] at hn
    obtain ⟨e, he, rfl⟩ := Option.map_eq_some_iff.mp hn
    obtain rfl : e.1 = l := by simpa using List.find?_some he
    exact List.mem_of_find?_eq_some he
  refine ⟨fun l n hl hn => hup _ (hentry l n hl hn), fun l target hn => ?_, fun l n hn => ?_, hhere⟩
  · by_cases hl : l = []
    · subst hl
      cases hn
    · exact hlink _ (hentry l _ hl hn) target rfl
  · by_cases hl : l = []
    · simp [hl]
    · exact hnames _ (hentry l n hl hn)

/-! ## Names as a path -/

/-- Names as the text of a path. -/
def spelling (names : List String) : String := String.intercalate "/" names

theorem spelling_singleton (name : String) : spelling [name] = name :=
  String.intercalate_singleton

theorem spelling_append {names more : List String} (hnames : names ≠ []) (hmore : more ≠ []) :
    spelling (names ++ more) = spelling names ++ "/" ++ spelling more := by
  induction names with
  | nil => exact absurd rfl hnames
  | cons name names ih =>
    obtain ⟨next, rest, rfl⟩ := List.exists_cons_of_ne_nil hmore
    cases names with
    | nil => exact String.intercalate_cons_cons
    | cons second names =>
      have hrest := ih (List.cons_ne_nil second names)
      unfold spelling at hrest ⊢
      rw [List.cons_append, List.cons_append, String.intercalate_cons_cons, ← List.cons_append,
        hrest, String.intercalate_cons_cons]
      simp only [String.append_assoc]

section

variable {names : List String} (hnames : ∀ name ∈ names, IsFileName name)
include hnames

theorem pieces_spelling (hne : names ≠ []) : Text.pieces '/' (spelling names) = names :=
  Text.pieces_intercalate hne fun name hname => (hnames name hname).unslashed

theorem startsAtRoot_spelling : startsAtRoot (spelling names) = false := by
  rw [startsAtRoot, beq_eq_false_iff_ne]
  exact Path.head?_intercalate fun name hname =>
    ⟨(hnames name hname).isProperName, (hnames name hname).unslashed⟩

theorem spelling_ne_empty (hne : names ≠ []) : spelling names ≠ "" := by
  intro hempty
  have hpieces := pieces_spelling hnames hne
  rw [hempty] at hpieces
  have hmem : "" ∈ names := by
    rw [← hpieces]
    decide
  exact (hnames "" hmem).nonempty rfl

theorem getLast?_spelling : (spelling names).toList.getLast? ≠ some '/' := by
  rcases List.eq_nil_or_concat names with rfl | ⟨front, name, rfl⟩
  · simp [spelling]
  · rw [List.concat_eq_append] at hnames ⊢
    have hname := hnames name (by simp)
    have hlast := Pattern.getLast?_append_ne_slash (by simpa using hname.nonempty) hname.unslashed
    by_cases hfront : front = []
    · rw [hfront, List.nil_append, spelling_singleton]
      exact hlast []
    · rw [spelling_append hfront (by simp), spelling_singleton, String.toList_append]
      exact hlast _

theorem ofText_spelling : Path.ofText (spelling names) = ⟨.none, names⟩ := by
  have hproper : ∀ name ∈ names, Path.isProperName name = true ∧ '/' ∉ name.toList :=
    fun name hname => ⟨(hnames name hname).isProperName, (hnames name hname).unslashed⟩
  have hroot := Path.ofChars_append .none (Path.head?_intercalate hproper)
  rw [Path.ofText, spelling, Path.filter_pieces_intercalate hproper]
  exact congrArg (Path.mk · names) hroot

end

/-! ## Texts of directories -/

/-- The texts of a path, given by its names. The empty text is the one of no
names. -/
inductive Spells (names : List String) : String → Prop
  | plain : Spells names (spelling names)
  | slashed (hne : names ≠ []) : Spells names (spelling names ++ "/")

section

variable {fs : FileSystem} (htree : fs.IsTree) {names : List String} {text : String}
  (hnames : ∀ name ∈ names, IsFileName name)

theorem Spells.size_le (h : Spells names text) :
    (spelling names).utf8ByteSize ≤ text.utf8ByteSize ∧
      text.utf8ByteSize ≤ (spelling names).utf8ByteSize + 1 := by
  cases h with
  | plain => exact ⟨Nat.le_refl _, Nat.le_succ _⟩
  | slashed _ =>
    have hslash : ("/" : String).utf8ByteSize = 1 := rfl
    rw [String.utf8ByteSize_append, hslash]
    exact ⟨Nat.le_succ _, Nat.le_refl _⟩

/-- A path has the null characters of its names. -/
theorem Spells.hasNull_iff (h : Spells names text) :
    HasNull text ↔ ∃ name ∈ names, HasNull name := by
  have hplain : ∀ names : List String,
      HasNull (spelling names) ↔ ∃ name ∈ names, HasNull name := by
    intro names
    induction names with
    | nil => simp [spelling, HasNull]
    | cons name names ih =>
      by_cases hne : names = []
      · rw [hne, spelling_singleton]
        simp
      · rw [HasNull] at ih
        rw [← List.singleton_append, spelling_append (by simp) hne, spelling_singleton, HasNull,
          String.toList_append, String.toList_append, List.mem_append, List.mem_append, ih]
        simp [HasNull]
  cases h with
  | plain => exact hplain names
  | slashed _ =>
    rw [← hplain, HasNull, HasNull, String.toList_append]
    simp

/-- The path of something in a directory is longer than any text of the
directory. -/
theorem Spells.size_lt (h : Spells names text) {more : List String} (hne : more ≠ [])
    (hmore : ∀ name ∈ more, IsFileName name) :
    text.utf8ByteSize < (spelling (names ++ more)).utf8ByteSize := by
  have hpos : 0 < (spelling more).utf8ByteSize := by
    have hempty := spelling_ne_empty hmore hne
    rw [Nat.pos_iff_ne_zero, Ne, String.utf8ByteSize_eq_zero_iff]
    exact hempty
  have hle := h.size_le.2
  by_cases hnil : names = []
  · subst hnil
    cases h with
    | plain => exact hpos
    | slashed hne => exact absurd rfl hne
  · have hslash : ("/" : String).utf8ByteSize = 1 := rfl
    rw [spelling_append hnil hne, String.utf8ByteSize_append, String.utf8ByteSize_append, hslash]
    omega

include hnames

/-- Names put to the text of a directory. -/
theorem Spells.joined (h : Spells names text) {more : List String} (hne : more ≠ [])
    (hmore : ∀ name ∈ more, IsFileName name) :
    Pattern.joined text (spelling more) = spelling (names ++ more) := by
  have hroot := startsAtRoot_spelling hmore
  cases h with
  | plain =>
    by_cases hnil : names = []
    · rw [hnil, List.nil_append]
      exact Pattern.joined_here _
    · rw [Pattern.joined_of_not_slash hroot (spelling_ne_empty hnames hnil)
        (getLast?_spelling hnames), spelling_append hnil hne]
  | slashed hnil =>
    rw [Pattern.joined_of_slash hroot (by simp), spelling_append hnil hne]

/-- No name put to the text of a directory. -/
theorem Spells.joined_empty (h : Spells names text) : Spells names (Pattern.joined text "") := by
  cases h with
  | plain =>
    by_cases hnil : names = []
    · subst hnil
      exact Pattern.joined_here _ ▸ .plain
    · rw [Pattern.joined_of_not_slash rfl (spelling_ne_empty hnames hnil)
        (getLast?_spelling hnames), String.append_empty]
      exact .slashed hnil
  | slashed hnil =>
    rw [Pattern.joined_of_slash rfl (by simp), String.append_empty]
    exact .slashed hnil

include htree

theorem find_spelling_iff {purpose : Purpose} (hpurpose : purpose ≠ .create) (hne : names ≠ [])
    {l : Location} {n : Node} :
    fs.find purpose (spelling names) = .ok (.present l n) ↔
      ¬ HasNull (spelling names) ∧ (spelling names).utf8ByteSize < pathSizeLimit ∧
        l = fs.workingDirectory ++ names ∧ fs.node? l = some n := by
  rw [find_eq_ok_iff, startOf, startsAtRoot_spelling hnames, if_neg Bool.false_ne_true,
    pieces_spelling hnames hne, leads_iff htree hpurpose hnames]
  constructor
  · rintro ⟨hpath, hplace⟩
    exact ⟨by simpa [HasNull] using hpath.noNull, Nat.not_le.mp hpath.short, hplace⟩
  · rintro ⟨hnull, hshort, hplace⟩
    exact ⟨⟨by simpa [HasNull] using hnull, by simpa using spelling_ne_empty hnames hne,
      Nat.not_le.mpr hshort⟩, hplace⟩

/-- A path leads to the location of its names, if it is looked up and there is
something. -/
theorem status_spelling_iff (hne : names ≠ []) {l : Location} {n : Node} :
    fs.status (spelling names) = .ok (l, n) ↔
      ¬ HasNull (spelling names) ∧ (spelling names).utf8ByteSize < pathSizeLimit ∧
        l = fs.workingDirectory ++ names ∧ fs.node? l = some n := by
  rw [status_eq_ok_iff, ← find_eq_ok_iff, find_spelling_iff htree hnames (by decide) hne]

theorem node?_of_has (hne : names ≠ []) (h : fs.has (spelling names) = true) :
    (fs.node? (fs.workingDirectory ++ names)).isSome = true := by
  unfold has at h
  split at h
  · rename_i l n hfind
    obtain ⟨-, -, rfl, hn⟩ := (find_spelling_iff htree hnames (by decide) hne).mp hfind
    rw [hn]
    rfl
  · cases h

/-- A path is too long if it is said to be. -/
theorem size_of_nameTooLong (hne : names ≠ [])
    (h : fs.status (spelling names) = .error .nameTooLong) :
    pathSizeLimit ≤ (spelling names).utf8ByteSize := by
  unfold status find at h
  split at h
  · cases h
  · split at h
    · cases h
    · split at h
      · assumption
      · rw [startOf, startsAtRoot_spelling hnames, if_neg Bool.false_ne_true,
          pieces_spelling hnames hne] at h
        cases hwalk : fs.walk .reach maxLinks fs.workingDirectory names with
        | error e =>
          rw [hwalk] at h
          obtain rfl := Except.error.inj h
          exact absurd hwalk (walk_ne_nameTooLong htree hnames)
        | ok place =>
          rw [hwalk] at h
          cases place <;> cases h

/-- A directory is where its names are, whether there is a slash after them or
not. -/
theorem status_lookup_iff (h : Spells names text) {l : Location} :
    fs.status (Pattern.lookup text) = .ok (l, .directory) ↔
      ¬ HasNull text ∧ text.utf8ByteSize < pathSizeLimit ∧
        l = fs.workingDirectory ++ names ∧ fs.node? l = some .directory := by
  cases h with
  | plain =>
    by_cases hnil : names = []
    · subst hnil
      have hlookup : Pattern.lookup (spelling []) = "." := rfl
      rw [hlookup, status_dot htree.here, List.append_nil]
      constructor
      · intro heq
        obtain ⟨rfl, -⟩ := Prod.mk.inj (Except.ok.inj heq)
        exact ⟨by simp [HasNull, spelling], by decide, rfl, htree.here⟩
      · rintro ⟨-, -, rfl, -⟩
        rfl
    · rw [Pattern.lookup_of_ne (spelling_ne_empty hnames hnil)]
      exact status_spelling_iff htree hnames hnil
  | slashed hnil =>
    have hroot : startsAtRoot (spelling names ++ "/") = false := by
      have hplain := startsAtRoot_spelling hnames
      obtain ⟨c, cs, hcs⟩ := List.exists_cons_of_ne_nil
        (show (spelling names).toList ≠ [] by simpa using spelling_ne_empty hnames hnil)
      rw [startsAtRoot, hcs] at hplain
      rw [startsAtRoot, String.toList_append, hcs]
      exact hplain
    have hpieces : Text.pieces '/' (spelling names ++ "/") = names ++ [""] := by
      have happend := Text.pieces_append '/' (spelling names) ""
      rw [String.append_empty, pieces_spelling hnames hnil] at happend
      exact happend
    rw [Pattern.lookup_of_ne (by simp), status_eq_ok_iff, startOf, hroot,
      if_neg Bool.false_ne_true, hpieces]
    constructor
    · rintro ⟨hpath, hleads⟩
      have htidy : Tidies (names ++ [""]) names := by
        simpa using (Tidies.refl names).append (.drop rfl .nil)
      exact ⟨by simpa [HasNull] using hpath.noNull, Nat.not_le.mp hpath.short,
        (leads_iff htree (by decide) hnames).mp (hleads.tidy htidy)⟩
    · rintro ⟨hnull, hshort, hplace⟩
      exact ⟨⟨by simpa [HasNull] using hnull, by simp, Nat.not_le.mpr hshort⟩,
        ((leads_iff htree (by decide) hnames).mpr hplace).append_empty rfl⟩

end

section

variable {fs : FileSystem} (htree : fs.IsTree) {names more : List String} {n : Node}
  (hnode : fs.node? (fs.workingDirectory ++ (names ++ more)) = some n)
include htree hnode

theorem isFileName_of_node? :
    (∀ name ∈ names, IsFileName name) ∧ ∀ name ∈ more, IsFileName name :=
  ⟨fun name hname => (htree.names _ n hnode name (by simp [hname])).1,
    fun name hname => (htree.names _ n hnode name (by simp [hname])).1⟩

theorem not_hasNull_of_node? : ∀ name ∈ names ++ more, ¬ HasNull name :=
  fun name hname => (htree.names _ n hnode name (List.mem_append_right _ hname)).2

/-- What is above something is a directory. -/
theorem isDirectory_of_node? (hne : more ≠ []) :
    fs.node? (fs.workingDirectory ++ names) = some .directory := by
  rw [← List.append_assoc] at hnode
  exact htree.isDirectory hnode hne

/-- The path of something that is there, and the paths of the directories above
it, have no null characters. -/
theorem Spells.not_hasNull {text : String} (h : Spells names text) : ¬ HasNull text := by
  rw [h.hasNull_iff]
  rintro ⟨name, hname, hnull⟩
  exact not_hasNull_of_node? htree hnode name (List.mem_append_left _ hname) hnull

end

/-- What is there can be reached by its path, if that is not too long. -/
theorem status_of_node? {fs : FileSystem} (htree : fs.IsTree) {names : List String} {n : Node}
    (hnode : fs.node? (fs.workingDirectory ++ names) = some n) (hne : names ≠ [])
    (hshort : (spelling names).utf8ByteSize < pathSizeLimit) :
    fs.status (spelling names) = .ok (fs.workingDirectory ++ names, n) := by
  have hall : fs.node? (fs.workingDirectory ++ (names ++ [])) = some n := by
    rwa [List.append_nil]
  exact (status_spelling_iff htree (isFileName_of_node? htree hall).1 hne).mpr
    ⟨Spells.plain.not_hasNull htree hall, hshort, rfl, hnode⟩

end FileSystem
end SyntaxCorpus
