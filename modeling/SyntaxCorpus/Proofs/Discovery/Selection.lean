/-
SyntaxCorpus.Proofs.Discovery.Selection — what is selected among candidates.

A search goes through its candidates one by one and keeps the locations that it
has seen. So what it finds might depend on the order of the candidates, and on
how often one of them comes. What it finds does: of several paths to one file,
the first one stays. The files that it finds do not.

* `covers_selectFiles` — a candidate that is a file has its location among those
  that were seen before and those that are found.
* `selectFiles_eq_error_iff` — a search fails for a candidate that no answer is
  given for, and for nothing else.
* `findAmong` — a search, for any candidates.
* `Selects`, `findAmong_selects` — what it finds, and when it fails.
* `findFiles_of_unlisted` — nothing, where nothing can be listed.
-/
import SyntaxCorpus.Proofs.Discovery
import SyntaxCorpus.Proofs.Pattern.Expand

namespace SyntaxCorpus

variable {fs : FileSystem}

/-! ## One candidate -/

theorem isFile_iff {path : String} :
    fs.isFile path = .ok true ↔ ∃ l content, fs.status path = .ok (l, .file content) := by
  unfold FileSystem.isFile
  rcases fs.status path with e | ⟨l, node⟩
  · cases e <;> simp
  · cases node <;> simp

theorem fileLocation?_eq_error_iff {p : Path} {e : DiscoveryError} :
    fileLocation? fs p = .error e ↔
      ∃ cause, fs.isFile p.text = .error cause ∧ e = .inaccessible p.text cause := by
  unfold fileLocation?
  cases hfile : fs.isFile p.text with
  | error cause => simp [eq_comm]
  | ok isFile => cases isFile <;> simp

/-- A candidate that is a file has a location. -/
theorem fileLocation?_of_isFile {p : Path} (h : fs.isFile p.text = .ok true) :
    ∃ l, fileLocation? fs p = .ok (some l) ∧ locationOf? fs p = some l := by
  obtain ⟨l, content, hstatus⟩ := isFile_iff.mp h
  refine ⟨l, ?_, ?_⟩
  · rw [fileLocation?, h, hstatus]
    rfl
  · rw [locationOf?, hstatus]
    rfl

/-! ## All candidates -/

/-- The files among the candidates have been seen before, or are found. -/
theorem covers_selectFiles : ∀ {cs : List Path} {seen : List Location} {found : List Path},
    selectFiles fs seen cs = .ok found → ∀ c ∈ cs, ∀ l, fileLocation? fs c = .ok (some l) →
      l ∈ seen ∨ ∃ p ∈ found, locationOf? fs p = some l := by
  intro cs
  induction cs with
  | nil =>
    intro seen found _ c hc
    cases hc
  | cons d cs ih =>
    intro seen found h c hc l hl
    rcases selectFiles_cons_eq_ok h with ⟨hleft, hrest⟩ | ⟨m, more, hd, -, hmore, rfl⟩
    · rcases List.mem_cons.mp hc with rfl | hc
      · -- the candidate is left out, though it is a file: its location was seen
        rcases hleft with hnone | ⟨m, hm, hsome⟩
        · cases hnone.symm.trans hl
        · cases hsome.symm.trans hl
          exact .inl hm
      · exact ih hrest c hc l hl
    · rcases List.mem_cons.mp hc with rfl | hc
      · cases hd.symm.trans hl
        exact .inr ⟨c, List.mem_cons_self .., locationOf?_of_fileLocation? hd⟩
      · rcases ih hmore c hc l hl with hseen | ⟨p, hp, hloc⟩
        · rcases List.mem_cons.mp hseen with rfl | hseen
          · exact .inr ⟨d, List.mem_cons_self .., locationOf?_of_fileLocation? hd⟩
          · exact .inl hseen
        · exact .inr ⟨p, List.mem_cons_of_mem d hp, hloc⟩

/-- The error of a search tells of one of its candidates. -/
theorem selectFiles_eq_error : ∀ {cs : List Path} {seen : List Location} {e : DiscoveryError},
    selectFiles fs seen cs = .error e → ∃ c ∈ cs, fileLocation? fs c = .error e := by
  intro cs
  induction cs with
  | nil =>
    intro seen e h
    cases h
  | cons c cs ih =>
    intro seen e h
    rw [selectFiles] at h
    have hlater : ∀ seen, selectFiles fs seen cs = .error e →
        ∃ c' ∈ c :: cs, fileLocation? fs c' = .error e := by
      intro seen h
      obtain ⟨c', hc', herror⟩ := ih h
      exact ⟨c', List.mem_cons_of_mem c hc', herror⟩
    cases hc : fileLocation? fs c with
    | error e' =>
      rw [hc] at h
      obtain rfl := Except.error.inj h
      exact ⟨c, List.mem_cons_self .., hc⟩
    | ok location =>
      rw [hc] at h
      cases location with
      | none => exact hlater seen h
      | some l =>
        simp only [Except.bind] at h
        split at h
        · exact hlater seen h
        · cases hmore : selectFiles fs (l :: seen) cs with
          | error e' =>
            rw [hmore] at h
            obtain rfl := Except.error.inj h
            exact hlater _ hmore
          | ok more =>
            rw [hmore] at h
            cases h

/-- No candidate of a search that returns has an error. -/
theorem ne_error_of_selectFiles : ∀ {cs : List Path} {seen : List Location} {found : List Path},
    selectFiles fs seen cs = .ok found → ∀ c ∈ cs, ∀ e, fileLocation? fs c ≠ .error e := by
  intro cs
  induction cs with
  | nil =>
    intro seen found _ c hc
    cases hc
  | cons d cs ih =>
    intro seen found h c hc e he
    rcases selectFiles_cons_eq_ok h with ⟨hleft, hrest⟩ | ⟨l, more, hd, -, hmore, -⟩
    · rcases List.mem_cons.mp hc with rfl | hc
      · rcases hleft with hnone | ⟨l, -, hsome⟩
        · cases hnone.symm.trans he
        · cases hsome.symm.trans he
      · exact ih hrest c hc e he
    · rcases List.mem_cons.mp hc with rfl | hc
      · cases hd.symm.trans he
      · exact ih hmore c hc e he

/-- A search fails if a candidate does, wherever it stands. -/
theorem selectFiles_eq_error_iff {seen : List Location} {cs : List Path} :
    (∃ e, selectFiles fs seen cs = .error e) ↔ ∃ c ∈ cs, ∃ e, fs.isFile c.text = .error e := by
  constructor
  · rintro ⟨e, he⟩
    obtain ⟨c, hc, herror⟩ := selectFiles_eq_error he
    obtain ⟨cause, hcause, -⟩ := fileLocation?_eq_error_iff.mp herror
    exact ⟨c, hc, cause, hcause⟩
  · rintro ⟨c, hc, cause, hcause⟩
    cases hselect : selectFiles fs seen cs with
    | error e => exact ⟨e, rfl⟩
    | ok found =>
      exact absurd (fileLocation?_eq_error_iff.mpr ⟨cause, hcause, rfl⟩)
        (ne_error_of_selectFiles hselect c hc _)

/-- The locations that are found are those of the files among the
candidates. -/
theorem mem_locations_iff {cs found : List Path} (h : selectFiles fs [] cs = .ok found)
    (place : Option Location) : place ∈ found.map (locationOf? fs) ↔
      ∃ c ∈ cs, fs.isFile c.text = .ok true ∧ locationOf? fs c = place := by
  rw [List.mem_map]
  constructor
  · rintro ⟨p, hp, hplace⟩
    obtain ⟨hmem, hfile⟩ := mem_selectFiles h p hp
    exact ⟨p, hmem, isFile_iff.mpr hfile, hplace⟩
  · rintro ⟨c, hc, hfile, hplace⟩
    obtain ⟨l, hl, hloc⟩ := fileLocation?_of_isFile hfile
    rcases covers_selectFiles h c hc l hl with hseen | ⟨p, hp, hp'⟩
    · cases hseen
    · exact ⟨p, hp, hp'.trans (hloc.symm.trans hplace)⟩

/-! ## A search -/

/-- The files of an input among any candidates. `required` says whether there
has to be one. -/
def findAmong (fs : FileSystem) (input : String) (required : Bool) (cs : List Path) :
    Except DiscoveryError (List Path) :=
  if Text.isAllBlank input then .error .blankInput
  else (selectFiles fs [] cs).bind fun files =>
    if required && files.isEmpty then .error (.noFiles input) else .ok files

/-- What a search among candidates finds, and when it fails. -/
structure Selects (fs : FileSystem) (input : String) (required : Bool) (cs : List Path)
    (result : Except DiscoveryError (List Path)) : Prop where
  /-- If these are the candidates of the input, it is the search of the
  program. -/
  search : candidates fs input = .ok cs →
    (if required then findSomeFiles fs input else findFiles fs input) = result
  isFile : ∀ found, result = .ok found → ∀ p ∈ found, p ∈ cs ∧ fs.isFile p.text = .ok true
  /-- No two paths lead to one file. -/
  once : ∀ found, result = .ok found →
    found.Pairwise fun p q => locationOf? fs p ≠ locationOf? fs q
  /-- Every file is there, if not by the path of its candidate. -/
  complete : ∀ found, result = .ok found → ∀ c ∈ cs, fs.isFile c.text = .ok true →
    ∃ p ∈ found, locationOf? fs p = locationOf? fs c
  fails_iff : (∃ e, result = .error e) ↔ Text.isAllBlank input = true ∨
    (∃ c ∈ cs, ∃ e, fs.isFile c.text = .error e) ∨
    (required = true ∧ ∀ c ∈ cs, fs.isFile c.text ≠ .ok true)
  /-- A candidate with a null character is no file, but no error. -/
  ne_nullCharacter : result ≠ .error .nullCharacter
  /-- The order of the candidates, and how often each of them comes, does not
  matter to the files. -/
  sameFiles : ∀ cs', (∀ c, c ∈ cs' ↔ c ∈ cs) → ∀ found, result = .ok found →
    ∃ found', findAmong fs input required cs' = .ok found' ∧
      ∀ l, l ∈ found'.map (locationOf? fs) ↔ l ∈ found.map (locationOf? fs)

theorem findAmong_eq_ok {input : String} {required : Bool} {cs found : List Path}
    (h : findAmong fs input required cs = .ok found) : selectFiles fs [] cs = .ok found := by
  unfold findAmong at h
  split at h
  · cases h
  · cases hselect : selectFiles fs [] cs with
    | error e =>
      rw [hselect] at h
      cases h
    | ok files =>
      rw [hselect] at h
      simp only [Except.bind] at h
      split at h
      · cases h
      · exact h

theorem findAmong_eq_error_iff {input : String} {required : Bool} {cs : List Path} :
    (∃ e, findAmong fs input required cs = .error e) ↔ Text.isAllBlank input = true ∨
      (∃ c ∈ cs, ∃ e, fs.isFile c.text = .error e) ∨
      (required = true ∧ ∀ c ∈ cs, fs.isFile c.text ≠ .ok true) := by
  unfold findAmong
  split
  · rename_i hblank
    exact iff_of_true ⟨_, rfl⟩ (.inl hblank)
  · rename_i hblank
    rw [or_iff_right hblank, ← @selectFiles_eq_error_iff fs []]
    cases hselect : selectFiles fs [] cs with
    | error e => exact iff_of_true ⟨e, rfl⟩ (.inl ⟨e, rfl⟩)
    | ok files =>
      -- nothing is found if and only if no candidate is a file
      have hempty : files = [] ↔ ∀ c ∈ cs, fs.isFile c.text ≠ .ok true := by
        constructor
        · rintro rfl c hc hfile
          have := (mem_locations_iff hselect (locationOf? fs c)).mpr ⟨c, hc, hfile, rfl⟩
          cases this
        · intro hnone
          refine List.eq_nil_iff_forall_not_mem.mpr fun p hp => ?_
          obtain ⟨hmem, hfile⟩ := mem_selectFiles hselect p hp
          exact hnone p hmem (isFile_iff.mpr hfile)
      rw [← hempty]
      cases required <;> cases files <;> simp [Except.bind]

theorem findAmong_ne_nullCharacter {input : String} {required : Bool} {cs : List Path} :
    findAmong fs input required cs ≠ .error .nullCharacter := by
  intro h
  unfold findAmong at h
  split at h
  · cases h
  · cases hselect : selectFiles fs [] cs with
    | error e =>
      rw [hselect] at h
      obtain rfl := Except.error.inj h
      obtain ⟨c, -, herror⟩ := selectFiles_eq_error hselect
      obtain ⟨cause, -, hcause⟩ := fileLocation?_eq_error_iff.mp herror
      cases hcause
    | ok files =>
      rw [hselect] at h
      simp only [Except.bind] at h
      split at h <;> cases h

theorem findAmong_candidates {input : String} {cs : List Path} (required : Bool)
    (h : candidates fs input = .ok cs) :
    (if required then findSomeFiles fs input else findFiles fs input)
      = findAmong fs input required cs := by
  have hfind : findFiles fs input
      = if Text.isAllBlank input then .error .blankInput else selectFiles fs [] cs := by
    rw [findFiles, h]
    rfl
  cases required with
  | false =>
    rw [if_neg Bool.false_ne_true, hfind, findAmong]
    cases selectFiles fs [] cs <;> rfl
  | true =>
    rw [if_pos rfl, findSomeFiles, hfind, findAmong]
    split <;> rfl

/-- **A search finds every file among its candidates once**, whatever the file
system and the candidates are. It fails for a blank input, for a candidate that
no answer is given for, and for want of a file that has to be there. -/
theorem findAmong_selects (fs : FileSystem) (input : String) (required : Bool) (cs : List Path) :
    Selects fs input required cs (findAmong fs input required cs) where
  search := findAmong_candidates required
  isFile := by
    intro found h p hp
    obtain ⟨hmem, hfile⟩ := mem_selectFiles (findAmong_eq_ok h) p hp
    exact ⟨hmem, isFile_iff.mpr hfile⟩
  once := fun found h => List.pairwise_map.mp (nodup_selectFiles (findAmong_eq_ok h)).2
  complete := by
    intro found h c hc hfile
    exact List.mem_map.mp ((mem_locations_iff (findAmong_eq_ok h) _).mpr ⟨c, hc, hfile, rfl⟩)
  fails_iff := findAmong_eq_error_iff
  ne_nullCharacter := findAmong_ne_nullCharacter
  sameFiles := by
    intro cs' hsame found h
    cases h' : findAmong fs input required cs' with
    | error e =>
      -- what fails among the one candidates fails among the others
      have hfails := findAmong_eq_error_iff.mp ⟨e, h'⟩
      simp only [hsame] at hfails
      obtain ⟨e', he'⟩ := findAmong_eq_error_iff.mpr hfails
      cases h.symm.trans he'
    | ok found' =>
      refine ⟨found', rfl, fun place => ?_⟩
      rw [mem_locations_iff (findAmong_eq_ok h), mem_locations_iff (findAmong_eq_ok h')]
      simp only [hsame]

/-- A search by a part with wildcards finds nothing in a working directory that cannot be
listed. -/
theorem findFiles_of_unlisted {part : String} {here : Location} {depth : Nat}
    (hblank : Text.isAllBlank part = false) (hslash : '/' ∉ part.toList)
    (hany : part ≠ Pattern.anyDepth) (hwildcard : Pattern.hasWildcard part = true)
    (hhere : fs.status "." = .ok (here, .directory)) (hunlisted : here ∈ fs.unlisted)
    (hdepth : fs.searchDepth = depth + 1) : findFiles fs part = .ok [] := by
  rw [findFiles, hblank, if_neg Bool.false_ne_true, candidates, hwildcard, if_pos rfl,
    Pattern.expand_of_unlisted hslash hany hwildcard hhere hunlisted hdepth]
  rfl

end SyntaxCorpus
