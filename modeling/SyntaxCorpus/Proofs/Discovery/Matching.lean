/-
SyntaxCorpus.Proofs.Discovery.Matching — in a tree, what is found are the files
that match.

In a file system without links, two paths of different names lead to different
files. So nothing is lost among the candidates of a pattern, and a search finds
the files whose names match it, if all directories can be listed. There are two
limits to this. A path that is too long is not looked up: a file with such a path is
not found, and a candidate with such a path ends the search. And a search goes down
only so many levels, those of the pattern and those of the directories together.

* `IsPattern` — patterns whose parts are names or wildcards for names.
* `IsLookedFor`, `Offers` — the paths that a search looks up;
  `offers_candidates` finds them among the candidates.
* `FindsMatches`, `findFiles_matches` — what a search finds, and how it fails.
* `findFiles_of_long`, `findFiles_stars_tooDeep`, `findFiles_limits` — a path that is too
  long, a pattern of too many levels, and a directory that cannot be listed.
-/
import SyntaxCorpus.Proofs.Discovery.Selection
import SyntaxCorpus.Proofs.Pattern.Matching

namespace SyntaxCorpus

open FileSystem (spelling Spells)
open Pattern (MatchesParts hasWildcard)

/-- A pattern from the working directory on. Each of its parts could be the name
of a file, and the last one stands for one name. -/
structure IsPattern (pattern : String) : Prop where
  notBlank : Text.isAllBlank pattern = false
  parts : ∀ part ∈ Text.pieces '/' pattern, IsFileName part
  last : (Text.pieces '/' pattern).getLast? ≠ some Pattern.anyDepth

/-- Paths that a search looks up: the pattern itself if it has no wildcards, and
what is there and matches. -/
inductive IsLookedFor (fs : FileSystem) (pattern : String) : String → Prop
  | itself (hliteral : hasWildcard pattern = false) : IsLookedFor fs pattern pattern
  | there {names} (hmatches : MatchesParts (Text.pieces '/' pattern) names)
      (hthere : (fs.node? (fs.workingDirectory ++ names)).isSome = true) :
      IsLookedFor fs pattern (spelling names)

/-- What a search for a pattern finds, and how it fails. -/
structure FindsMatches (fs : FileSystem) (pattern : String)
    (result : Except DiscoveryError (List Path)) : Prop where
  /-- Found are the files that match and whose paths can be looked up. -/
  found_iff : ∀ found, result = .ok found → ∀ p, p ∈ found ↔
    ∃ names content, p = ⟨.none, names⟩ ∧ MatchesParts (Text.pieces '/' pattern) names ∧
      fs.node? (fs.workingDirectory ++ names) = some (.file content) ∧
      (spelling names).utf8ByteSize < pathSizeLimit
  once : ∀ found, result = .ok found → found.Nodup
  /-- A search fails for a null character before a wildcard, for too many levels, and
  for a path that is too long. -/
  fails : ∀ e, result = .error e →
    (e = .nullCharacter ∧ HasNull pattern ∧ hasWildcard pattern = true) ∨
      (e = .tooDeep ∧ hasWildcard pattern = true ∧ ∃ names,
        (fs.node? (fs.workingDirectory ++ names)).isSome = true ∧
          fs.searchDepth ≤ (Text.pieces '/' pattern).length + names.length) ∨
      ∃ path, e = .inaccessible path .nameTooLong ∧ IsLookedFor fs pattern path ∧
        pathSizeLimit ≤ path.utf8ByteSize
  returns : ¬ HasNull pattern →
    (∀ names, (fs.node? (fs.workingDirectory ++ names)).isSome = true →
      (Text.pieces '/' pattern).length + names.length < fs.searchDepth) →
    (∀ path, IsLookedFor fs pattern path → path.utf8ByteSize < pathSizeLimit) →
      ∃ found, result = .ok found

/-! ## Candidates -/

/-- What the candidates of a pattern are: texts of names that match, and all of
those that are there and not too long. -/
structure Offers (fs : FileSystem) (pattern : String) (texts : List String) : Prop where
  sound : ∀ x ∈ texts, IsLookedFor fs pattern x ∧ ∃ names, names ≠ [] ∧
    (∀ name ∈ names, IsFileName name) ∧ x = spelling names ∧
    MatchesParts (Text.pieces '/' pattern) names
  complete : ∀ names n, MatchesParts (Text.pieces '/' pattern) names →
    fs.node? (fs.workingDirectory ++ names) = some n →
    (spelling names).utf8ByteSize < pathSizeLimit → spelling names ∈ texts

section

variable {fs : FileSystem} (htree : fs.IsTree) (hlisted : fs.unlisted = []) {pattern : String}

theorem spelling_pieces (pattern : String) : spelling (Text.pieces '/' pattern) = pattern :=
  Text.intercalate_pieces '/' pattern

theorem any_pieces (pattern : String) :
    (Text.pieces '/' pattern).any hasWildcard = hasWildcard pattern := by
  rw [← Pattern.any_spelling, spelling_pieces, hasWildcard]

/-- A pattern without wildcards offers itself. -/
theorem offers_literal (hpattern : IsPattern pattern) (hliteral : hasWildcard pattern = false) :
    Offers fs pattern [pattern] := by
  have hmatches : ∀ names, MatchesParts (Text.pieces '/' pattern) names ↔
      names = Text.pieces '/' pattern := by
    intro names
    exact Pattern.matchesParts_literal_iff (by rw [any_pieces, hliteral])
  constructor
  · intro x hx
    obtain rfl := List.mem_singleton.mp hx
    exact ⟨.itself hliteral, _, Text.pieces_ne_nil '/' x, hpattern.parts, (spelling_pieces x).symm,
      (hmatches _).mpr rfl⟩
  · intro names n hnames _ _
    rw [(hmatches names).mp hnames, spelling_pieces]
    exact List.mem_singleton_self _

/-- A pattern has a last part, and parts before it. -/
theorem IsPattern.exists_last (hpattern : IsPattern pattern) : ∃ front last,
    Text.pieces '/' pattern = front ++ [last] ∧ last ≠ Pattern.anyDepth ∧ IsFileName last ∧
      ∀ p ∈ front, IsFileName p := by
  have hparts := hpattern.parts
  have hlast := hpattern.last
  rcases List.eq_nil_or_concat (Text.pieces '/' pattern) with hnil | ⟨front, last, heq⟩
  · exact absurd hnil (Text.pieces_ne_nil '/' pattern)
  · rw [List.concat_eq_append] at heq
    rw [heq] at hparts hlast
    exact ⟨front, last, heq, by simpa using hlast, hparts last (by simp),
      fun p hp => hparts p (List.mem_append_left _ hp)⟩

include htree hlisted

/-- What a pattern with wildcards expands to. -/
theorem offers_expand (hpattern : IsPattern pattern) {texts : List String}
    (h : Pattern.expand fs pattern = .ok texts) : Offers fs pattern texts := by
  obtain ⟨front, last, heq, hany, hlast, hfront⟩ := hpattern.exists_last
  rw [Pattern.expand, ← spelling_pieces pattern, heq] at h
  generalize fs.searchDepth = levels at h
  cases levels with
  | zero =>
    rw [Pattern.expandReversed] at h
    cases h
  | succ depth =>
    rw [Pattern.expandReversed_spelling hfront hlast] at h
    cases hfound : Pattern.directoriesFor fs depth front with
    | error e =>
      rw [hfound] at h
      cases h
    | ok directories =>
      rw [hfound] at h
      have hcovers := Pattern.covers_directoriesFor htree hlisted hfront hfound
      constructor
      · intro x hx
        obtain ⟨names, hne, rfl, hmatches, hthere⟩ :=
          Pattern.of_mem_expandIn htree hcovers hany hlast h hx
        rw [← heq] at hmatches
        obtain ⟨n, hnode⟩ := Option.isSome_iff_exists.mp hthere
        rw [← List.append_nil names] at hnode
        exact ⟨.there hmatches hthere, names, hne, (FileSystem.isFileName_of_node? htree hnode).1,
          rfl, hmatches⟩
      · intro names n hmatches hnode hshort
        rw [heq] at hmatches
        exact Pattern.mem_expandIn htree hcovers hlisted hany hlast h hmatches hnode
          (fun honly => absurd honly Bool.false_ne_true) hshort

/-- The candidates of a pattern are the paths that it offers. -/
theorem offers_candidates (hpattern : IsPattern pattern) {cs : List Path}
    (h : candidates fs pattern = .ok cs) :
    ∃ texts, cs = texts.map Path.ofText ∧ Offers fs pattern texts := by
  unfold candidates at h
  split at h
  · cases hexpand : Pattern.expand fs pattern with
    | error e =>
      rw [hexpand] at h
      cases h
    | ok texts =>
      rw [hexpand] at h
      exact ⟨texts, (Except.ok.inj h).symm, offers_expand htree hlisted hpattern hexpand⟩
  · rename_i hwildcard
    exact ⟨[pattern], (Except.ok.inj h).symm, offers_literal hpattern (by simpa using hwildcard)⟩

/-- Why a pattern does not have candidates. -/
theorem obstructs_of_candidates (hpattern : IsPattern pattern) {e : DiscoveryError}
    (h : candidates fs pattern = .error e) :
    hasWildcard pattern = true ∧ ∃ cause, e = .ofExpandError cause ∧
      Pattern.Obstructs fs (Text.pieces '/' pattern) fs.searchDepth cause := by
  obtain ⟨front, last, heq, -, hlast, hfront⟩ := hpattern.exists_last
  unfold candidates at h
  split at h
  · rename_i hwildcard
    cases hexpand : Pattern.expand fs pattern with
    | ok texts =>
      rw [hexpand] at h
      cases h
    | error cause =>
      rw [hexpand] at h
      refine ⟨hwildcard, cause, (Except.error.inj h).symm, ?_⟩
      rw [Pattern.expand, ← spelling_pieces pattern, heq] at hexpand
      rw [heq]
      exact Pattern.obstructs_of_expandReversed htree hlisted hfront hlast hexpand
  · cases h

/-! ## Files -/

omit htree hlisted in
theorem text_of_names {names : List String} (hne : names ≠ []) :
    (Path.mk .none names).text = spelling names := by
  unfold Path.text
  split
  · rename_i hnil
    exact absurd hnil hne
  · rw [Root.text, String.empty_append]
    rfl

omit hlisted in
/-- The files that are found are those that match. -/
theorem mem_found_iff {texts : List String} (hoffers : Offers fs pattern texts)
    {found : List Path} (h : selectFiles fs [] (texts.map Path.ofText) = .ok found) (p : Path) :
    p ∈ found ↔ ∃ names content, p = ⟨.none, names⟩ ∧
      MatchesParts (Text.pieces '/' pattern) names ∧
      fs.node? (fs.workingDirectory ++ names) = some (.file content) ∧
      (spelling names).utf8ByteSize < pathSizeLimit := by
  -- a path that is found has names that match, and leads to their location
  have hsound : ∀ q ∈ found, ∃ names content, q = ⟨.none, names⟩ ∧
      MatchesParts (Text.pieces '/' pattern) names ∧
      fs.node? (fs.workingDirectory ++ names) = some (.file content) ∧
      (spelling names).utf8ByteSize < pathSizeLimit ∧
      locationOf? fs q = some (fs.workingDirectory ++ names) := by
    intro q hq
    obtain ⟨hmem, l, content, hstatus⟩ := mem_selectFiles h q hq
    obtain ⟨x, hx, rfl⟩ := List.mem_map.mp hmem
    obtain ⟨-, names, hne, hnames, rfl, hmatches⟩ := hoffers.sound x hx
    have hpath := FileSystem.ofText_spelling hnames
    have hlocation : locationOf? fs (Path.ofText (spelling names)) = some l := by
      rw [locationOf?, hstatus]
      rfl
    rw [hpath, text_of_names hne] at hstatus
    obtain ⟨-, hshort, rfl, hnode⟩ :=
      (FileSystem.status_spelling_iff htree hnames hne).mp hstatus
    exact ⟨names, content, hpath, hmatches, hnode, hshort, hlocation⟩
  constructor
  · intro hp
    obtain ⟨names, content, heq, hmatches, hnode, hshort, -⟩ := hsound p hp
    exact ⟨names, content, heq, hmatches, hnode, hshort⟩
  · rintro ⟨names, content, rfl, hmatches, hnode, hshort⟩
    have hin := hoffers.complete names _ hmatches hnode hshort
    have hne : names ≠ [] := by
      rintro rfl
      rw [List.append_nil, htree.here] at hnode
      cases hnode
    have hstatus := FileSystem.status_of_node? htree hnode hne hshort
    have hnames : ∀ name ∈ names, IsFileName name := fun name hname =>
      (htree.names _ _ hnode name (List.mem_append_right _ hname)).1
    have hpath := FileSystem.ofText_spelling hnames
    rw [← text_of_names hne, ← hpath] at hstatus
    obtain ⟨q, hq, hlocation⟩ := List.mem_map.mp ((mem_locations_iff h _).mpr
      ⟨_, List.mem_map_of_mem hin, isFile_iff.mpr ⟨_, _, hstatus⟩, rfl⟩)
    -- the path that is found has the same location, and so the same names
    obtain ⟨names', -, rfl, -, -, -, hlocation'⟩ := hsound q hq
    rw [hlocation'] at hlocation
    rw [locationOf?, hstatus] at hlocation
    obtain rfl : names' = names := List.append_cancel_left (Option.some.inj hlocation)
    exact hq

omit hlisted in
/-- A candidate that ends the search has a path that is too long. -/
theorem inaccessible_of_selectFiles {texts : List String} (hoffers : Offers fs pattern texts)
    {e : DiscoveryError} (h : selectFiles fs [] (texts.map Path.ofText) = .error e) :
    ∃ path, e = .inaccessible path .nameTooLong ∧ IsLookedFor fs pattern path ∧
      pathSizeLimit ≤ path.utf8ByteSize := by
  obtain ⟨c, hc, herror⟩ := selectFiles_eq_error h
  obtain ⟨cause, hcause, rfl⟩ := fileLocation?_eq_error_iff.mp herror
  obtain ⟨x, hx, rfl⟩ := List.mem_map.mp hc
  obtain ⟨hlooked, names, hne, hnames, rfl, -⟩ := hoffers.sound x hx
  rw [FileSystem.ofText_spelling hnames, text_of_names hne] at hcause ⊢
  obtain ⟨rfl, hstatus⟩ : cause = .nameTooLong ∧
      fs.status (spelling names) = .error .nameTooLong := by
    unfold FileSystem.isFile at hcause
    split at hcause
    · cases hcause
    · cases hcause
    · rename_i hstatus
      exact ⟨(Except.error.inj hcause).symm, hstatus⟩
    · cases hcause
  exact ⟨_, rfl, hlooked, FileSystem.size_of_nameTooLong htree hnames hne hstatus⟩

/-! ## The search -/

omit htree hlisted in
theorem findFiles_eq (hpattern : IsPattern pattern) :
    findFiles fs pattern = (candidates fs pattern).bind (selectFiles fs []) := by
  rw [findFiles, hpattern.notBlank, if_neg Bool.false_ne_true]

theorem findFiles_fails (hpattern : IsPattern pattern) {e : DiscoveryError}
    (h : findFiles fs pattern = .error e) :
    (e = .nullCharacter ∧ HasNull pattern ∧ hasWildcard pattern = true) ∨
      (e = .tooDeep ∧ hasWildcard pattern = true ∧ ∃ names,
        (fs.node? (fs.workingDirectory ++ names)).isSome = true ∧
          fs.searchDepth ≤ (Text.pieces '/' pattern).length + names.length) ∨
      ∃ path, e = .inaccessible path .nameTooLong ∧ IsLookedFor fs pattern path ∧
        pathSizeLimit ≤ path.utf8ByteSize := by
  rw [findFiles_eq hpattern] at h
  cases hcandidates : candidates fs pattern with
  | error e' =>
    rw [hcandidates] at h
    obtain rfl := Except.error.inj h
    obtain ⟨hwildcard, cause, rfl, hobstructs⟩ :=
      obstructs_of_candidates htree hlisted hpattern hcandidates
    cases hobstructs with
    | nullCharacter hp hnull =>
      refine .inl ⟨rfl, ?_, hwildcard⟩
      rw [← spelling_pieces pattern, Spells.plain.hasNull_iff]
      exact ⟨_, hp, hnull⟩
    | tooDeep hthere hdeep => exact .inr (.inl ⟨rfl, hwildcard, _, hthere, hdeep⟩)
  | ok cs =>
    rw [hcandidates] at h
    obtain ⟨texts, rfl, hoffers⟩ := offers_candidates htree hlisted hpattern hcandidates
    exact .inr (.inr (inaccessible_of_selectFiles htree hoffers h))

/-- **In a tree whose directories can be listed, the files that are found are those that
match the pattern.** A path that is too long is no path of a file that is found, and
nothing but such a path, too many levels or a null character ends the search. -/
theorem findFiles_matches (hpattern : IsPattern pattern) :
    FindsMatches fs pattern (findFiles fs pattern) where
  found_iff := by
    intro found h p
    rw [findFiles_eq hpattern] at h
    cases hcandidates : candidates fs pattern with
    | error e =>
      rw [hcandidates] at h
      cases h
    | ok cs =>
      rw [hcandidates] at h
      obtain ⟨texts, rfl, hoffers⟩ := offers_candidates htree hlisted hpattern hcandidates
      exact mem_found_iff htree hoffers h p
  once := fun found h => findFiles_nodup h
  fails := fun e h => findFiles_fails htree hlisted hpattern h
  returns := by
    intro hnull hdepth hshort
    cases h : findFiles fs pattern with
    | ok found => exact ⟨found, rfl⟩
    | error e =>
      rcases findFiles_fails htree hlisted hpattern h with
        ⟨-, hhas, -⟩ | ⟨-, -, names, hthere, hdeep⟩ | ⟨path, -, hlooked, hlong⟩
      · exact absurd hhas hnull
      · exact absurd (hdepth names hthere) (Nat.not_lt.mpr hdeep)
      · exact absurd (hshort path hlooked) (Nat.not_lt.mpr hlong)

end

/-- A file in the working directory, and one in a hidden directory of it. -/
def hiddenFiles : FileSystem where
  entries := [(["work"], .directory), (["work", "a.py"], .file .empty),
    (["work", ".git"], .directory), (["work", ".git", "b.py"], .file .empty)]
  workingDirectory := ["work"]

theorem isTree_hiddenFiles : hiddenFiles.IsTree :=
  FileSystem.isTree_of_entries (by simp [hiddenFiles, FileSystem.node?])
    (by simp [hiddenFiles]) (by decide) rfl

theorem findFiles_hidden : hiddenFiles.IsTree ∧ hiddenFiles.unlisted = [] ∧
    IsPattern "**/*.py" ∧ FindsMatches hiddenFiles "**/*.py" (findFiles hiddenFiles "**/*.py") :=
  have hpattern : IsPattern "**/*.py" := ⟨by decide, by decide, by decide⟩
  ⟨isTree_hiddenFiles, rfl, hpattern, findFiles_matches isTree_hiddenFiles rfl hpattern⟩

/-! ## Paths that are too long -/

/-- A path that is too long ends a search even if there is nothing like it. -/
theorem findFiles_of_long {fs : FileSystem} {pattern : String} (hpattern : IsPattern pattern)
    (hliteral : hasWildcard pattern = false) (hnull : ¬ HasNull pattern)
    (hlong : pathSizeLimit ≤ pattern.utf8ByteSize) :
    findFiles fs pattern = .error (.inaccessible pattern .nameTooLong) := by
  have hne := Text.pieces_ne_nil '/' pattern
  have htext : (Path.ofText pattern).text = pattern := by
    have hpath := FileSystem.ofText_spelling hpattern.parts
    rw [spelling_pieces] at hpath
    rw [hpath, text_of_names hne, spelling_pieces]
  have hempty : ¬ pattern.isEmpty = true := by
    have hspelling := FileSystem.spelling_ne_empty hpattern.parts hne
    rw [spelling_pieces] at hspelling
    simpa using hspelling
  have hstatus : fs.status pattern = .error .nameTooLong := by
    rw [FileSystem.status, FileSystem.find, if_neg (by simpa [HasNull] using hnull),
      if_neg hempty, if_pos hlong]
    rfl
  rw [findFiles_eq hpattern, candidates, hliteral, if_neg Bool.false_ne_true]
  simp only [Except.bind, selectFiles, fileLocation?, htext, FileSystem.isFile, hstatus]

/-- A pattern of many short names. -/
def longPattern : String := spelling (List.replicate 2049 "a")

theorem isPattern_longPattern : IsPattern longPattern ∧
    findFiles hiddenFiles longPattern = .error (.inaccessible longPattern .nameTooLong) := by
  have hname : ∀ name ∈ List.replicate 2049 "a", IsFileName name := by
    intro name hname
    rw [List.eq_of_mem_replicate hname]
    decide
  have hne : List.replicate 2049 "a" ≠ [] := List.cons_ne_nil _ _
  have hpieces : Text.pieces '/' longPattern = List.replicate 2049 "a" :=
    FileSystem.pieces_spelling hname hne
  have hnull : ¬ HasNull longPattern := by
    rw [longPattern, Spells.plain.hasNull_iff]
    rintro ⟨name, hname, hnull⟩
    rw [List.eq_of_mem_replicate hname] at hnull
    revert hnull
    decide
  have hliteral : hasWildcard longPattern = false := by
    rw [← any_pieces, hpieces, List.any_replicate]
    decide
  have hlong : pathSizeLimit ≤ longPattern.utf8ByteSize := by
    have hsize := @Text.utf8ByteSize_intercalate "/" _ hne
    rw [List.map_replicate, List.sum_replicate_nat] at hsize
    have hslash : ("/" : String).utf8ByteSize = 1 := rfl
    have hletter : ("a" : String).utf8ByteSize = 1 := rfl
    rw [hslash, hletter] at hsize
    rw [longPattern, spelling, pathSizeLimit]
    omega
  have hpattern : IsPattern longPattern := by
    refine ⟨?_, hpieces ▸ hname, ?_⟩
    · refine List.all_eq_false.mpr ⟨'a', ?_, by decide⟩
      exact (Text.exists_mem_pieces_iff (by decide : 'a' ≠ '/') _).mp
        ⟨"a", hpieces ▸ List.mem_replicate.mpr ⟨by decide, rfl⟩, by decide⟩
    · rw [hpieces, List.getLast?_replicate]
      decide
  exact ⟨hpattern, findFiles_of_long hpattern hliteral hnull hlong⟩

/-! ## Patterns of too many levels -/

/-- A pattern of wildcards alone. -/
def stars (levels : Nat) : String := spelling (List.replicate levels "*")

theorem isFileName_of_mem_stars {levels : Nat} : ∀ part ∈ List.replicate levels "*",
    IsFileName part := by
  intro part hpart
  rw [List.eq_of_mem_replicate hpart]
  decide

/-- Every one of them is a level of the search. -/
theorem expandReversed_stars (fs : FileSystem) : ∀ {depth levels : Nat} {directoriesOnly : Bool},
    depth < levels → Pattern.expandReversed fs depth directoriesOnly (stars levels).toList.reverse
      = .error .tooDeep := by
  intro depth
  induction depth with
  | zero =>
    intro levels directoriesOnly _
    rw [Pattern.expandReversed]
  | succ depth ih =>
    intro levels directoriesOnly hdepth
    obtain ⟨above, rfl⟩ : ∃ above, levels = above + 1 := ⟨levels - 1, by omega⟩
    have hlength : 0 < (List.replicate above "*").length := by
      rw [List.length_replicate]
      omega
    have hwildcard : (List.replicate above "*").any hasWildcard = true := by
      rw [List.any_replicate, if_neg (by omega)]
      decide
    rw [stars, List.replicate_succ', Pattern.expandReversed_spelling isFileName_of_mem_stars
      (by decide), Pattern.directoriesFor_of_ne (List.ne_nil_of_length_pos hlength), if_pos hwildcard, ← stars,
      ih (Nat.lt_of_succ_lt_succ hdepth)]
    rfl

theorem isPattern_stars {levels : Nat} (h : levels ≠ 0) : IsPattern (stars levels) := by
  have hne : List.replicate levels "*" ≠ [] := by simpa using h
  have hpieces : Text.pieces '/' (stars levels) = List.replicate levels "*" :=
    FileSystem.pieces_spelling isFileName_of_mem_stars hne
  refine ⟨?_, hpieces ▸ isFileName_of_mem_stars, ?_⟩
  · refine List.all_eq_false.mpr ⟨'*', ?_, by decide⟩
    exact (Text.exists_mem_pieces_iff (by decide : '*' ≠ '/') _).mp
      ⟨"*", hpieces ▸ List.mem_replicate.mpr ⟨h, rfl⟩, by decide⟩
  · rw [hpieces, List.getLast?_replicate, if_neg h]
    decide

/-- A search for them fails, whatever is there. -/
theorem findFiles_stars_tooDeep {fs : FileSystem} {levels : Nat} (h : fs.searchDepth < levels) :
    findFiles fs (stars levels) = .error .tooDeep := by
  have hne : levels ≠ 0 := by omega
  have hwildcard : hasWildcard (stars levels) = true := by
    rw [← any_pieces, stars, FileSystem.pieces_spelling isFileName_of_mem_stars (by simpa using hne),
      List.any_replicate, if_neg hne]
    decide
  rw [findFiles_eq (isPattern_stars hne), candidates, hwildcard, if_pos rfl, Pattern.expand,
    expandReversed_stars fs h]
  rfl

/-! ## What is not found -/

/-- The hidden files, in a directory that cannot be listed. -/
def unlistedTree : FileSystem := { hiddenFiles with unlisted := [["work"]] }

/-- A search may fail for a long path and for many levels, and it misses a file in a
directory that cannot be listed. -/
theorem findFiles_limits :
    (hiddenFiles.IsTree ∧ IsPattern longPattern ∧
      findFiles hiddenFiles longPattern = .error (.inaccessible longPattern .nameTooLong)) ∧
    (IsPattern (stars 1001) ∧ findFiles hiddenFiles (stars 1001) = .error .tooDeep) ∧
    (unlistedTree.IsTree ∧ IsPattern "*.py" ∧
      unlistedTree.node? ["work", "a.py"] = some (.file .empty) ∧
      findFiles unlistedTree "*.py" = .ok []) := by
  refine ⟨⟨isTree_hiddenFiles, isPattern_longPattern⟩,
    ⟨isPattern_stars (by decide), findFiles_stars_tooDeep (by decide)⟩, ?_⟩
  refine ⟨FileSystem.isTree_of_entries (by simp [unlistedTree, hiddenFiles, FileSystem.node?])
    (by simp [unlistedTree, hiddenFiles]) (by decide) rfl, ⟨by decide, by decide, by decide⟩, rfl, ?_⟩
  exact findFiles_of_unlisted (by decide) (by decide) (by decide) (by decide)
    (FileSystem.status_dot rfl) (List.mem_singleton_self _) rfl

end SyntaxCorpus
