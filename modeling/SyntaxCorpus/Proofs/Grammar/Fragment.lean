/-
SyntaxCorpus.Proofs.Grammar.Fragment — a single declaration in its wrapper.

A declaration is parsed as a part of a wrapped source, so the grammar counts its
bytes and lines from the start of the wrapper. What is shown of it is counted
from the start of the declaration: texts are cut out of the wrapped source, and
a wrapper ends its opening with a line break, so columns need no shift.

* `Embeds` — a span inside the declaration; `text_wrap`: its text.
* `normalise_wrap` — the syntax tree of a declaration in its wrapper is that of
  the declaration by itself.
* `pointAt` — the place of a byte; `pointAt_wrap`: the same place in the wrapped
  source.
* `ShowsFragment`, `parse_showsFragment` — what a call for a single declaration
  shows is what is in the declaration.
-/
import SyntaxCorpus.Proofs.Grammar.Answer
import SyntaxCorpus.Proofs.Grammar.Normalise

namespace SyntaxCorpus

/-! ## Texts -/

namespace Wrapper

/-- The number of bytes before a declaration in its wrapper. -/
def before (w : Wrapper) : Nat := w.opening.toUTF8.size

/-- Whether a span of a wrapped source lies inside the declaration. -/
def Embeds (w : Wrapper) (fragment : ByteArray) (span : Span) : Prop :=
  w.before ≤ span.start ∧ span.stop ≤ w.before + fragment.size

/-- A span of a wrapped source, counted from the start of the declaration. -/
def unwrap (w : Wrapper) (span : Span) : Span := ⟨span.start - w.before, span.stop - w.before⟩

variable {w : Wrapper} {fragment : ByteArray} {span : Span}

/-- Inside the declaration the wrapped source has the bytes of the
declaration. -/
theorem extract_wrap (h : w.Embeds fragment span) :
    (w.wrap fragment).extract span.start span.stop
      = fragment.extract (w.unwrap span).start (w.unwrap span).stop := by
  obtain ⟨hstart, hstop⟩ := h
  have hclosing : ∀ i, w.closing.toUTF8.extract i 0 = ByteArray.empty := by
    intro i
    rw [ByteArray.extract_eq_empty_iff]
    omega
  have hopening : w.opening.toUTF8.extract span.start span.stop = ByteArray.empty := by
    rw [ByteArray.extract_eq_empty_iff]
    rw [before] at hstart
    omega
  have hend : span.stop - (w.opening.toUTF8 ++ fragment).size = 0 := by
    rw [ByteArray.size_append]
    rw [before] at hstop
    omega
  rw [wrap, ByteArray.extract_append, ByteArray.extract_append, hend, hclosing, hopening,
    ByteArray.empty_append, ByteArray.append_empty]
  rfl

end Wrapper

namespace Cst

/-- A node with its span counted from the start of the declaration. -/
def unwrapNode (w : Wrapper) (n : CstNode) : CstNode := { n with span := n.span.map w.unwrap }

/-- Whether the text of a node, if it has one, lies inside the declaration. -/
def IsEmbedded (w : Wrapper) (fragment : ByteArray) (n : CstNode) : Prop :=
  ∀ span, n.span = some span → w.Embeds fragment span

theorem text_wrap {w : Wrapper} {fragment : ByteArray} {n : CstNode}
    (h : IsEmbedded w fragment n) :
    text (w.wrap fragment) n = text fragment (unwrapNode w n) := by
  unfold text unwrapNode
  cases hspan : n.span with
  | none => rfl
  | some span => exact congrArg Text.Utf8.decodeLossy (Wrapper.extract_wrap (h span hspan))

/-! ## Values -/

theorem valueNode?_map_unwrapNode (w : Wrapper) (t : Cst) :
    valueNode? (t.map (unwrapNode w)) = (valueNode? t).map (unwrapNode w) := by
  unfold valueNode?
  rw [Tree.children_map, List.all_map, List.find?_map]
  simp only [Function.comp_def, Tree.label_map]
  have hnamed : ∀ n, (unwrapNode w n).isNamed = n.isNamed := fun _ => rfl
  have htoken : ∀ n, isFieldToken (unwrapNode w n) = isFieldToken n := fun _ => rfl
  simp only [hnamed, htoken]
  split
  · rfl
  · cases t.children.find? (isFieldToken ·.label) with
    | none => rfl
    | some token => simp only [Option.map_some, Tree.label_map]

/-- The node that a value is taken from is the node itself or one of its
children. -/
theorem mem_of_valueNode? {t : Cst} {n : CstNode} (h : valueNode? t = some n) :
    n = t.label ∨ ∃ c ∈ t.children, n = c.label := by
  unfold valueNode? at h
  split at h
  · exact .inl (Option.some.inj h).symm
  · obtain ⟨c, hc, rfl⟩ := Option.map_eq_some_iff.mp h
    exact .inr ⟨c, List.mem_of_find?_eq_some hc, rfl⟩

theorem value_wrap {w : Wrapper} {fragment : ByteArray} {t : Cst}
    (h : ∀ n, valueNode? t = some n → IsEmbedded w fragment n) :
    value (w.wrap fragment) t = value fragment (t.map (unwrapNode w)) := by
  rw [value_eq, value_eq, valueNode?_map_unwrapNode, Option.map_map]
  cases hnode : valueNode? t with
  | none => rfl
  | some n => simp only [Option.map_some, Function.comp_apply, text_wrap (h n hnode)]

mutual
/-- The syntax tree of a declaration in its wrapper is that of the declaration
by itself, if all its texts lie inside the declaration. -/
theorem normalise_wrap {w : Wrapper} {fragment : ByteArray} : ∀ t : Cst,
    (∀ n ∈ t.labels, IsEmbedded w fragment n) →
    normalise (w.wrap fragment) t = normalise fragment (t.map (unwrapNode w))
  | .node n ts, h => by
      rw [Tree.labels_node] at h
      have hvalue : value (w.wrap fragment) (.node n ts)
          = value fragment ((Tree.node n ts).map (unwrapNode w)) := by
        refine value_wrap fun m hm => ?_
        rcases mem_of_valueNode? hm with hroot | ⟨c, hc, rfl⟩
        · rw [hroot]
          exact h n (List.mem_cons_self ..)
        · exact h _ (List.mem_cons_of_mem n (List.mem_flatMap.mpr ⟨c, hc, Tree.label_mem_labels c⟩))
      have hkept := normaliseKept_wrap ts fun m hm => h m (List.mem_cons_of_mem n hm)
      rw [normalise_node, labelOf, hvalue, hkept, Tree.map_node, normalise_node, labelOf]
      rfl

theorem normaliseKept_wrap {w : Wrapper} {fragment : ByteArray} : ∀ ts : List Cst,
    (∀ n ∈ ts.flatMap Tree.labels, IsEmbedded w fragment n) →
    normaliseKept (w.wrap fragment) ts
      = normaliseKept fragment (ts.map (Tree.map (unwrapNode w)))
  | [], _ => rfl
  | t :: ts, h => by
      rw [List.flatMap_cons] at h
      have hrest := normaliseKept_wrap ts fun m hm => h m (List.mem_append_right _ hm)
      have hkept : isKept (t.map (unwrapNode w)).label = isKept t.label := by
        rw [Tree.label_map]
        rfl
      rw [normaliseKept_cons, List.map_cons, normaliseKept_cons, hkept, hrest]
      split
      · rw [normalise_wrap t fun m hm => h m (List.mem_append_left _ hm)]
      · rfl
end

end Cst

/-! ## Places -/

/-- The place of a byte of a source: how many line breaks are before it, and how
many bytes since the last one. -/
def pointAt (source : ByteArray) (offset : Nat) : Position :=
  let before := source.data.toList.take offset
  ⟨before.count 10, (before.reverse.takeWhile (· != 10)).length⟩

/-- An opening has as many line breaks as a declaration is shifted by, and ends
with one if it has any bytes. -/
theorem opening_lines : ∀ l ∈ languages,
    l.wrapper.opening.toUTF8.data.toList.count 10 = l.wrapper.lineOffset ∧
      l.wrapper.opening.toUTF8.data.toList.reverse.takeWhile (· != 10) = [] := by
  decide

/-- A byte of a declaration has its own column, and its line after those of the
opening. -/
theorem pointAt_wrap {l : Language} (hl : l ∈ languages) {fragment : ByteArray} {offset : Nat}
    (hoffset : offset ≤ fragment.size) :
    pointAt (l.wrapper.wrap fragment) (l.wrapper.before + offset)
      = ⟨l.wrapper.lineOffset + (pointAt fragment offset).row,
          (pointAt fragment offset).column⟩ := by
  obtain ⟨hlines, hlast⟩ := opening_lines l hl
  have hbefore : (l.wrapper.wrap fragment).data.toList.take (l.wrapper.before + offset)
      = l.wrapper.opening.toUTF8.data.toList ++ fragment.data.toList.take offset := by
    have hsize : l.wrapper.before = l.wrapper.opening.toUTF8.data.toList.length := rfl
    have hfits : offset ≤ fragment.data.toList.length := hoffset
    rw [Wrapper.wrap, ByteArray.data_append, ByteArray.data_append, Array.toList_append,
      Array.toList_append, List.append_assoc, hsize, List.take_length_add_append,
      List.take_append_of_le_length hfits]
  simp only [pointAt, hbefore]
  rw [List.count_append, List.reverse_append, List.takeWhile_append, hlines, hlast,
    List.append_nil]
  split
  · rename_i hall
    rw [hall]
  · rfl

/-! ## What is shown of a declaration -/

/-- A fault in words, at a place that is counted from zero. -/
def faultAt (n : CstNode) (place : Position) : String :=
  if n.isMissing then s!"missing {n.type} at line {place.row + 1}, column {place.column + 1}"
  else s!"syntax error at line {place.row + 1}, column {place.column + 1}"

/-- What is shown of a declaration in its wrapper is what is in the
declaration. -/
structure ShowsFragment (w : Wrapper) (fragment : ByteArray) (p : Parsed) (answer : Answer) :
    Prop where
  /-- A text inside the declaration is that of the same bytes of the
  declaration. -/
  text : ∀ n ∈ p.tree.labels, ∀ span, n.span = some span → w.Embeds fragment span →
    Cst.text (w.wrap fragment) n = Text.Utf8.decodeLossy
      (fragment.extract (span.start - w.before) (span.stop - w.before))
  /-- So is a value that is the text of such a node. -/
  value : ∀ t ∈ p.tree.preorder, ∀ n span, Cst.valueNode? t = some n → n.span = some span →
    w.Embeds fragment span → Cst.value (w.wrap fragment) t = .text (Text.Utf8.decodeLossy
      (fragment.extract (span.start - w.before) (span.stop - w.before)))
  /-- If all texts are inside, the answer is the syntax tree of the declaration
  by itself. -/
  tree : ∀ d, p.hasError = false → Declares w.container p.tree d →
    (∀ n ∈ d.labels, Cst.IsEmbedded w fragment n) →
    answer = .ok ((Cst.normalise fragment (d.map (Cst.unwrapNode w))).map Label.toRaw)
  /-- A fault at a byte of the declaration, or at its end, is shown at the line
  and the column of that byte in the declaration. -/
  fault : ∀ n, p.hasError = true → FirstIn IsFault p.tree.preorder n →
    ∀ offset ≤ fragment.size,
      n.label.position = pointAt (w.wrap fragment) (w.before + offset) →
      answer = .error (faultAt n.label (pointAt fragment offset))

variable {γ : Type}

/-- **What a call for a single declaration shows is what is in the
declaration.** -/
theorem parse_showsFragment (s : Session γ) (grammars : Grammars γ) (thread : String)
    {l : Language} (hl : l ∈ languages) (fragment : ByteArray) {g : γ} {asked : Option String}
    {p : Parsed} (hg : Provides s grammars thread l.name g asked)
    (hrun : grammars.run g (l.wrapper.wrap fragment) = .ok p) :
    ShowsFragment l.wrapper fragment p
      (answerOf (s.parse grammars thread ⟨fragment, l.name, true⟩).1) := by
  have hcall : Prepares ⟨fragment, l.name, true⟩ (some l.wrapper) (l.wrapper.wrap fragment) :=
    .wrapped rfl hl rfl
  have hanswer : (s.parse grammars thread ⟨fragment, l.name, true⟩).1
      = p.tree? (some l.wrapper) (l.wrapper.wrap fragment) := by
    obtain ⟨s', heq⟩ := hg.parseIn (some l.wrapper) (l.wrapper.wrap fragment)
    rw [hcall.parse, heq, Session.parseWith, hrun]
  have htext : ∀ (n : CstNode) (span : Span), n.span = some span →
      l.wrapper.Embeds fragment span →
      Cst.text (l.wrapper.wrap fragment) n = Text.Utf8.decodeLossy (fragment.extract
        (span.start - l.wrapper.before) (span.stop - l.wrapper.before)) := by
    intro n span hspan hembeds
    simp only [Cst.text, hspan, Wrapper.extract_wrap hembeds, Wrapper.unwrap]
  rw [hanswer]
  refine ⟨fun n _ => htext n, fun t _ n span hnode hspan hembeds => ?_,
    fun d herror hd hembedded => ?_, fun n herror hn offset hoffset hposition => ?_⟩
  · rw [Cst.value_eq, hnode, Option.map_some, Option.getD_some, htext n span hspan hembeds]
  · rw [← readsAs_iff.mp (.declaration herror hd), Cst.normalise_wrap d hembedded]
  · have hlocate : Locates l.wrapper.lineOffset p.tree
        (faultAt n.label (pointAt fragment offset)) := by
      rw [pointAt_wrap hl hoffset] at hposition
      have hline : (pointAt fragment offset).row + 1
          = n.label.position.row - l.wrapper.lineOffset + 1 := by
        rw [hposition]
        simp
      have hcolumn : (pointAt fragment offset).column + 1 = n.label.position.column + 1 := by
        rw [hposition]
      unfold faultAt
      split
      · rename_i hmissing
        exact .missing hn hmissing hline hcolumn
      · rename_i hmissing
        exact .unexpected hn (eq_false_of_ne_true hmissing) hline hcolumn
    have hread : ReadsAs (l.wrapper.wrap fragment) p (some l.wrapper)
        (.error (faultAt n.label (pointAt fragment offset))) := .rejected herror hlocate
    exact (readsAs_iff.mp hread).symm

/-! ## A declaration that is not closed -/

/-- What a grammar makes of the declaration `int f() {⏎` in a class: it misses
the brace at the end. -/
def unclosed : Parsed where
  tree := .node { type := "program", isNamed := true, span := some ⟨0, 33⟩ }
    [.node { type := "class_body", isNamed := true, span := some ⟨19, 33⟩ }
      [.node { type := "identifier", isNamed := true, span := some ⟨25, 26⟩ } [],
        .node { type := "\x7d", isNamed := false, isMissing := true, span := some ⟨31, 31⟩,
                position := ⟨2, 0⟩ } []]]
  hasError := true

/-- A grammar that makes this of every source. -/
def unclosedGrammars : Grammars Unit := ⟨fun _ => .ok (), fun _ _ => .ok unclosed⟩

/-- The brace is missing at the start of the second line of the declaration. -/
theorem parse_showsFragment_unclosed : ∃ l ∈ languages, l.name = "java" ∧
    Provides Session.start unclosedGrammars "main" l.name () (some l.name) ∧
    unclosedGrammars.run () (l.wrapper.wrap "int f() \x7b\n".toUTF8) = .ok unclosed ∧
    ShowsFragment l.wrapper "int f() \x7b\n".toUTF8 unclosed
      (answerOf (Session.start.parse unclosedGrammars "main"
        ⟨"int f() \x7b\n".toUTF8, l.name, true⟩).1) ∧
    answerOf (Session.start.parse unclosedGrammars "main"
        ⟨"int f() \x7b\n".toUTF8, l.name, true⟩).1
      = .error "missing \x7d at line 2, column 1" := by
  have hl : ⟨"java", [".java"], [], .inClass "class_body"⟩ ∈ languages := by decide
  have hg : Provides Session.start unclosedGrammars "main" "java" () (some "java") :=
    .new rfl rfl
  have hshows := parse_showsFragment Session.start unclosedGrammars "main" hl
    "int f() \x7b\n".toUTF8 hg rfl
  have hfirst : unclosed.tree.preorder.find? (SyntaxError.isFault ·.label)
      = some (.node { type := "\x7d", isNamed := false, isMissing := true, span := some ⟨31, 31⟩,
                      position := ⟨2, 0⟩ } []) := by
    simp only [unclosed, Tree.preorder_node, List.flatMap_cons, List.flatMap_nil]
    rfl
  have hfault := hshows.fault _ rfl ((firstIn_iff isFault_iff).mpr hfirst) 10 (by decide)
    (by decide +kernel)
  have hplace : pointAt "int f() \x7b\n".toUTF8 10 = ⟨1, 0⟩ := by decide +kernel
  rw [hplace] at hfault
  exact ⟨_, hl, rfl, hg, rfl, hshows, hfault⟩

end SyntaxCorpus
