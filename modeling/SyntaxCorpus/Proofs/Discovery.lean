/-
SyntaxCorpus.Proofs.Discovery — the files that are found are files.

* `selectFiles_cons_eq_ok` — what becomes of a candidate.
* `mem_selectFiles`, `nodup_selectFiles` — the candidates that are selected lead
  to files, and to different ones.
* `findFiles_isFile`, `findFiles_nodup` — so do the paths that are found, and
  each is the path of its written form.
* `findFiles_file` — a path without wildcards that leads to a file is found.
-/
import Mathlib.Data.List.Nodup
import SyntaxCorpus.Discovery
import SyntaxCorpus.Proofs.Path.Basic

namespace SyntaxCorpus

variable {fs : FileSystem}

theorem status_of_fileLocation? {p : Path} {l : Location} (h : fileLocation? fs p = .ok (some l)) :
    ∃ content, fs.status p.text = .ok (l, .file content) := by
  unfold fileLocation? FileSystem.isFile at h
  cases hstatus : fs.status p.text with
  | error e => cases e <;> simp [hstatus] at h
  | ok found =>
    obtain ⟨m, node⟩ := found
    cases node with
    | file content =>
      simp only [hstatus, Except.toOption, Option.map_some, Except.ok.injEq, Option.some.injEq] at h
      exact ⟨content, by rw [h]⟩
    | directory => simp [hstatus] at h
    | link target => simp [hstatus] at h

/-- A candidate is left out if it is no file or its file has been seen, and
otherwise it is the next file. -/
theorem selectFiles_cons_eq_ok {seen : List Location} {c : Path} {cs found : List Path}
    (h : selectFiles fs seen (c :: cs) = .ok found) :
    ((fileLocation? fs c = .ok none ∨ ∃ l ∈ seen, fileLocation? fs c = .ok (some l)) ∧
        selectFiles fs seen cs = .ok found) ∨
      ∃ l more, fileLocation? fs c = .ok (some l) ∧ l ∉ seen ∧
        selectFiles fs (l :: seen) cs = .ok more ∧ found = c :: more := by
  rw [selectFiles] at h
  cases hc : fileLocation? fs c with
  | error e =>
    rw [hc] at h
    cases h
  | ok location =>
    rw [hc] at h
    cases location with
    | none => exact .inl ⟨.inl rfl, h⟩
    | some l =>
      simp only [Except.bind] at h
      split at h
      · rename_i hseen
        exact .inl ⟨.inr ⟨l, by simpa using hseen, rfl⟩, h⟩
      · rename_i hseen
        cases hmore : selectFiles fs (l :: seen) cs with
        | error e =>
          rw [hmore] at h
          cases h
        | ok more =>
          rw [hmore] at h
          exact .inr ⟨l, more, rfl, by simpa using hseen, hmore, (Except.ok.inj h).symm⟩

theorem mem_selectFiles : ∀ {cs : List Path} {seen : List Location} {found : List Path},
    selectFiles fs seen cs = .ok found → ∀ p ∈ found, p ∈ cs ∧
      ∃ l content, fs.status p.text = .ok (l, .file content) := by
  intro cs
  induction cs with
  | nil =>
    intro seen found h p hp
    obtain rfl := Except.ok.inj h
    cases hp
  | cons c cs ih =>
    intro seen found h p hp
    rcases selectFiles_cons_eq_ok h with ⟨-, hrest⟩ | ⟨l, more, hc, -, hmore, rfl⟩
    · obtain ⟨hmem, hfile⟩ := ih hrest p hp
      exact ⟨List.mem_cons_of_mem c hmem, hfile⟩
    · rcases List.mem_cons.mp hp with rfl | hp
      · exact ⟨List.mem_cons_self .., l, status_of_fileLocation? hc⟩
      · obtain ⟨hmem, hfile⟩ := ih hmore p hp
        exact ⟨List.mem_cons_of_mem c hmem, hfile⟩

/-- The location that a path leads to. -/
def locationOf? (fs : FileSystem) (p : Path) : Option Location :=
  (fs.status p.text).toOption.map (·.1)

theorem locationOf?_of_fileLocation? {p : Path} {l : Location}
    (h : fileLocation? fs p = .ok (some l)) : locationOf? fs p = some l := by
  obtain ⟨content, hstatus⟩ := status_of_fileLocation? h
  rw [locationOf?, hstatus]
  rfl

/-- The files that are selected are different ones, and none of those seen
before. -/
theorem nodup_selectFiles : ∀ {cs : List Path} {seen : List Location} {found : List Path},
    selectFiles fs seen cs = .ok found →
      (∀ l ∈ seen, some l ∉ found.map (locationOf? fs)) ∧ (found.map (locationOf? fs)).Nodup := by
  intro cs
  induction cs with
  | nil =>
    intro seen found h
    obtain rfl := Except.ok.inj h
    simp
  | cons c cs ih =>
    intro seen found h
    rcases selectFiles_cons_eq_ok h with ⟨-, hrest⟩ | ⟨l, more, hc, hl, hmore, rfl⟩
    · exact ih hrest
    · obtain ⟨hseen, hnodup⟩ := ih hmore
      have hcl := locationOf?_of_fileLocation? hc
      rw [List.map_cons, hcl, List.nodup_cons]
      refine ⟨fun m hm hmem => ?_, hseen l (List.mem_cons_self ..), hnodup⟩
      rcases List.mem_cons.mp hmem with heq | hmem
      · obtain rfl := Option.some.inj heq
        exact hl hm
      · exact hseen m (List.mem_cons_of_mem l hm) hmem

theorem isProper_candidates {input : String} {cs : List Path} (h : candidates fs input = .ok cs) :
    ∀ p ∈ cs, p.IsProper := by
  unfold candidates at h
  split at h
  · cases hexpand : Pattern.expand fs input with
    | error e =>
      rw [hexpand] at h
      cases h
    | ok texts =>
      rw [hexpand] at h
      obtain rfl := Except.ok.inj h
      intro p hp
      obtain ⟨s, -, rfl⟩ := List.mem_map.mp hp
      exact Path.isProper_ofText s
  · obtain rfl := Except.ok.inj h
    intro p hp
    rw [List.mem_singleton] at hp
    rw [hp]
    exact Path.isProper_ofText input

/-- What is found is selected among the candidates. -/
theorem exists_candidates {input : String} {found : List Path}
    (h : findFiles fs input = .ok found) :
    ∃ cs, candidates fs input = .ok cs ∧ selectFiles fs [] cs = .ok found := by
  unfold findFiles at h
  split at h
  · cases h
  · cases hcandidates : candidates fs input with
    | error e =>
      rw [hcandidates] at h
      cases h
    | ok cs =>
      rw [hcandidates] at h
      exact ⟨cs, rfl, h⟩

/-- Every path that is found leads to a file. -/
theorem findFiles_isFile {input : String} {found : List Path} (h : findFiles fs input = .ok found) :
    ∀ p ∈ found, p.IsProper ∧ ∃ l content, fs.status p.text = .ok (l, .file content) := by
  intro p hp
  obtain ⟨cs, hcandidates, hselect⟩ := exists_candidates h
  obtain ⟨hmem, hfile⟩ := mem_selectFiles hselect p hp
  exact ⟨isProper_candidates hcandidates p hmem, hfile⟩

/-- A file is found once. -/
theorem findFiles_nodup {input : String} {found : List Path} (h : findFiles fs input = .ok found) :
    found.Nodup := by
  obtain ⟨cs, -, hselect⟩ := exists_candidates h
  exact (nodup_selectFiles hselect).2.of_map

/-- A path without wildcards that leads to a file is found. -/
theorem findFiles_file {input : String} (hblank : Text.isAllBlank input = false)
    (hwildcard : Pattern.hasWildcard input = false) (htext : (Path.ofText input).text = input)
    {l : Location} {content : ByteArray} (h : fs.status input = .ok (l, .file content)) :
    findFiles fs input = .ok [Path.ofText input] := by
  simp [findFiles, hblank, candidates, hwildcard, Except.bind, selectFiles, fileLocation?,
    FileSystem.isFile, htext, h, Except.toOption, Except.map]

end SyntaxCorpus
