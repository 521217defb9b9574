/-
SyntaxCorpus.Proofs.Batch.SinkPaths — where the outputs of a batch are.

The endings of the outputs are appended to a text before it is read as a path, so
an ending could get lost, or two of the paths could become one. This does not
happen: up to its last slash the text leads to a directory, and what stands behind
the slash is part of a name, even if it is empty or a point.

* `Path.entry` — a name in a directory.
* `Path.CutAtLastSlash`, `CutAtLastSlash.ofText_eq` — a text is read as such a name,
  if a name stands behind its last slash.
* `SinkPaths.of_eq` — the outputs are names in one directory.
* `SinkPaths.of_beside` — which names these are, and that no two outputs have one
  path.
-/
import Mathlib.Data.List.Nodup
import SyntaxCorpus.Batch.Sinks
import SyntaxCorpus.Proofs.Path.Relative

namespace SyntaxCorpus

namespace Path

/-! ## Names in a directory -/

/-- A name in a directory. -/
def entry (directory : Path) (name : String) : Path :=
  ⟨directory.root, directory.names ++ [name]⟩

@[simp] theorem name_entry (directory : Path) (name : String) :
    (directory.entry name).name = name := by
  simp [entry, Path.name]

theorem onto_entry (start directory : Path) (name : String) :
    start.onto (directory.entry name) = (start.onto directory).entry name := by
  have habsolute : (directory.entry name).isAbsolute = directory.isAbsolute := rfl
  rw [onto, onto, habsolute]
  split
  · rfl
  · simp [entry]

/-- A text is cut behind its last slash, or before all of it. -/
structure CutAtLastSlash (text front stem : String) : Prop where
  eq : text = front ++ stem
  front : front = "" ∨ ∃ before, front = before ++ "/"
  stem : '/' ∉ stem.toList

theorem exists_cutAtLastSlash (text : String) : ∃ front stem, CutAtLastSlash text front stem := by
  by_cases hslash : '/' ∈ text.toList
  · obtain ⟨front, stem, htext, hstem⟩ := Text.exists_last_occurrence hslash
    refine ⟨String.ofList front ++ "/", String.ofList stem, ?_, .inr ⟨_, rfl⟩, ?_⟩
    · rw [← String.toList_inj, htext]
      simp
    · simpa using hstem
  · exact ⟨"", text, by simp, .inl rfl, hslash⟩

theorem ofChars_append_of_head? {ds : List Char} (h : ds.head? ≠ some '/') (cs : List Char) :
    Root.ofChars (cs ++ ds) = Root.ofChars cs := by
  have hhead : ∀ rest : List Char, (∀ tail, rest ≠ '/' :: tail) →
      (rest ++ ds).head? ≠ some '/' := by
    intro rest hrest
    cases rest with
    | nil => exact h
    | cons c rest =>
      have hc : c ≠ '/' := fun hc => hrest rest (by rw [hc])
      simpa using hc
  fun_cases Root.ofChars cs with
  | case1 rest => rfl
  | case2 rest hrest => exact ofChars_append .double (hhead rest hrest)
  | case3 rest _ hrest => exact ofChars_append .single (hhead rest hrest)
  | case4 _ _ _ hrest => exact ofChars_append .none (hhead cs hrest)

namespace CutAtLastSlash

variable {text front stem ending : String}

theorem append (h : CutAtLastSlash text front stem) (hending : '/' ∉ ending.toList) :
    CutAtLastSlash (text ++ ending) front (stem ++ ending) where
  eq := by rw [h.eq, String.append_assoc]
  front := h.front
  stem := by
    rw [String.toList_append, List.mem_append, not_or]
    exact ⟨h.stem, hending⟩

/-- A name behind the last slash is read as a name in the directory before it. -/
theorem ofText_eq (h : CutAtLastSlash text front stem) (hname : isProperName stem = true) :
    ofText text = (ofText front).entry stem := by
  have hhead : stem.toList.head? ≠ some '/' := fun hslash => h.stem (List.mem_of_mem_head? hslash)
  have hpieces : (Text.pieces '/' (front ++ stem)).filter isProperName
      = (Text.pieces '/' front).filter isProperName ++ [stem] := by
    rcases h.front with rfl | ⟨before, rfl⟩
    · rw [String.empty_append, Text.pieces_of_not_mem h.stem, List.filter_singleton, hname]
      rfl
    · have hjoined : Text.pieces '/' (before ++ "/" ++ stem)
          = Text.pieces '/' before ++ Text.pieces '/' stem := Text.pieces_append '/' before stem
      have hends : Text.pieces '/' (before ++ "/") = Text.pieces '/' before ++ [""] := by
        have hempty := Text.pieces_append '/' before ""
        rwa [String.append_empty] at hempty
      rw [hjoined, hends, Text.pieces_of_not_mem h.stem, List.filter_append, List.filter_append,
        List.filter_cons_of_pos hname]
      simp [isProperName]
  rw [h.eq, ofText, String.toList_append, ofChars_append_of_head? hhead, hpieces]
  rfl

end CutAtLastSlash

end Path

/-! ## The outputs of a batch -/

/-- What the names of the outputs end with. -/
def sinkEndings : List String := [".json", ".txt", "_failed.txt"]

namespace SinkPaths

open SyntaxCorpus.Path (CutAtLastSlash exists_cutAtLastSlash)

variable {beginning front stem : String}

theorem toList_inj {p q : SinkPaths} : p.toList = q.toList ↔ p = q := by
  constructor
  · intro h
    cases p
    cases q
    simpa [toList] using h
  · exact congrArg toList

theorem toList_of (beginning : String) :
    (SinkPaths.of beginning).toList = sinkEndings.map fun ending => .ofText (beginning ++ ending) :=
  rfl

/-- An ending makes a name of every stem, and never the name of a parent. -/
theorem isName_append {ending : String} (h : ending ∈ sinkEndings) (stem : String) :
    Path.isProperName (stem ++ ending) = true ∧ stem ++ ending ≠ ".." := by
  have hlong : ∀ ending ∈ sinkEndings, 2 < ending.toList.length := by decide
  have hne : ∀ name : String, name.toList.length ≤ 2 → stem ++ ending ≠ name := by
    rintro name hname rfl
    have hlonger := hlong ending h
    rw [String.toList_append, List.length_append] at hname
    omega
  exact ⟨Path.isProperName_iff.mpr ⟨hne "" (by decide), hne "." (by decide)⟩, hne ".." (by decide)⟩

theorem nodup_append_sinkEndings (stem : String) : (sinkEndings.map (stem ++ ·)).Nodup :=
  List.Nodup.map (fun _ _ => (String.append_right_inj stem).mp) (by decide)

/-- The outputs are names in one directory. -/
theorem of_eq (h : CutAtLastSlash beginning front stem) :
    (SinkPaths.of beginning).toList
      = (sinkEndings.map (stem ++ ·)).map (Path.ofText front).entry := by
  rw [toList_of, List.map_map]
  refine List.map_congr_left fun ending hending => ?_
  have hslash : ∀ ending ∈ sinkEndings, '/' ∉ ending.toList := by decide
  exact (h.append (hslash ending hending)).ofText_eq (isName_append hending stem).1

/-- No two outputs are written alike. -/
theorem nodup_text (h : CutAtLastSlash beginning front stem) :
    ((SinkPaths.of beginning).toList.map Path.text).Nodup := by
  have hproper : ∀ p ∈ (SinkPaths.of beginning).toList, p.IsProper := by
    rw [toList_of]
    exact List.forall_mem_map.mpr fun ending _ => Path.isProper_ofText _
  have hentry : Function.Injective (Path.ofText front).entry := fun a b hab => by
    rw [← Path.name_entry (Path.ofText front) a, hab, Path.name_entry]
  refine List.Nodup.map_on (fun p hp q hq hpq => ?_) ?_
  · rw [← Path.ofText_text (hproper p hp), hpq, Path.ofText_text (hproper q hq)]
  · rw [of_eq h]
    exact (nodup_append_sinkEndings stem).map hentry

/-- No two outputs have one path, also if every `..` and the name before it are
cancelled. -/
theorem nodup_collapse (h : CutAtLastSlash beginning front stem) (start : Path) :
    ((SinkPaths.of beginning).toList.map fun p => Path.collapse (start.onto p).names).Nodup := by
  have hnames : (SinkPaths.of beginning).toList.map (fun p => Path.collapse (start.onto p).names)
      = (sinkEndings.map (stem ++ ·)).map fun name =>
          Path.collapse (start.onto (.ofText front)).names ++ [name] := by
    rw [of_eq h, List.map_map]
    refine List.map_congr_left fun name hname => ?_
    obtain ⟨ending, hending, rfl⟩ := List.mem_map.mp hname
    rw [Function.comp_apply, Path.onto_entry]
    exact Path.collapse_concat _ (isName_append hending stem).2
  rw [hnames]
  refine (nodup_append_sinkEndings stem).map fun a b hab => ?_
  simpa using hab

/-- **The outputs of a batch are in one directory, the one that the text leads to up
to its last slash; each has what stands behind the slash and its ending as a name;
and no two of them have one path.** -/
theorem of_beside (beginning : String) :
    ∃ front stem, CutAtLastSlash beginning front stem ∧
      SinkPaths.of beginning =
        ⟨(Path.ofText front).entry (stem ++ ".json"), (Path.ofText front).entry (stem ++ ".txt"),
          (Path.ofText front).entry (stem ++ "_failed.txt")⟩ ∧
      (SinkPaths.of beginning).toList.map Path.name
        = [stem ++ ".json", stem ++ ".txt", stem ++ "_failed.txt"] ∧
      ((SinkPaths.of beginning).toList.map Path.text).Nodup ∧
      ∀ start : Path,
        ((SinkPaths.of beginning).toList.map fun p => Path.collapse (start.onto p).names).Nodup := by
  obtain ⟨front, stem, h⟩ := exists_cutAtLastSlash beginning
  have hpaths := of_eq h
  refine ⟨front, stem, h, ?_, ?_, nodup_text h, nodup_collapse h⟩
  · exact toList_inj.mp hpaths
  · rw [hpaths]
    simp [sinkEndings]

end SinkPaths
end SyntaxCorpus
