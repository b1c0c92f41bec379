import SyntaxReport.Proofs.Line.Expansion
import SyntaxReport.Proofs.Snippet.Congruence
import SyntaxReport.Proofs.Snippet.Fits

/-! Snippets of expanded documents. If the tabs of a document are expanded beforehand and the
positions are moved to the rendered columns, the snippet stays the same, and the tab size no longer
matters. -/
namespace SyntaxReport

/-- Where a position of a document stands once the tabs of its lines are expanded. Columns count in
the trimmed line, and outside the lines nothing moves. -/
def Position.inExpansion (size : Int) (lines : List Text) (p : Position) :
    Except Line.LineError Position :=
  match lines[p.line0.toNat]? with
  | none => .ok p
  | some line => (Line.renderedColumn size (Line.trimRight line) p.column).map (⟨p.line, ·⟩)

/-- The span between the moved ends. -/
def Span.inExpansion (size : Int) (lines : List Text) (span : Span) :
    Except Line.LineError Span := do
  return ⟨← span.start.inExpansion size lines, ← span.stop.inExpansion size lines⟩

namespace Position

/-- The position at its rendered column; a line that is not there counts as empty. -/
def rendered (size : Int) (lines : List Text) (p : Position) : Position :=
  ⟨p.line, Line.columnAt size (Line.trimRight (lines[p.line0.toNat]?.getD [])) p.column⟩

variable {size : Int} (lines : List Text) {p q : Position}

theorem inExpansion_eq (h : 0 < size) (hp : p.IsValid) :
    p.inExpansion size lines = .ok (p.rendered size lines) := by
  unfold inExpansion rendered
  cases lines[p.line0.toNat]? with
  | none =>
    have hc : Line.columnAt size (Line.trimRight []) p.column = p.column := by
      have hnn := hp.2
      unfold Line.columnAt Line.trimRight
      rw [Sequence.dropTrailing_nil, List.take_nil, Line.advance]
      omega
    rw [Option.getD_none, hc]
  | some line =>
    dsimp only
    rw [Line.renderedColumn_eq_ok h, Outcome.map_ok, Option.getD_some]

theorem isValid_rendered (h : 0 < size) (hp : p.IsValid) : (p.rendered size lines).IsValid :=
  ⟨hp.1, Line.columnAt_nonneg h _ _⟩

theorem rendered_mono (h : 0 < size) (hpq : p ≤ q) :
    p.rendered size lines ≤ q.rendered size lines := by
  rw [le_iff] at hpq ⊢
  -- on two lines the lines decide, on one the columns keep their order
  rcases hpq with hlt | ⟨heq, hcol⟩
  · exact Or.inl hlt
  · refine Or.inr ⟨heq, ?_⟩
    have hline : p.line0 = q.line0 := by rw [line0, line0, heq]
    unfold rendered
    rw [hline]
    exact Line.columnAt_mono h _ hcol

end Position

namespace Span

variable {size : Int} (lines : List Text) {span : Span}

/-- The span between the rendered columns of its ends. -/
def rendered (size : Int) (lines : List Text) (span : Span) : Span :=
  ⟨span.start.rendered size lines, span.stop.rendered size lines⟩

theorem inExpansion_eq (h : 0 < size) (hstart : span.start.IsValid) (hstop : span.stop.IsValid) :
    span.inExpansion size lines = .ok (span.rendered size lines) := by
  rw [inExpansion, Position.inExpansion_eq lines h hstart, Outcome.ok_bind,
    Position.inExpansion_eq lines h hstop, Outcome.ok_bind, Outcome.pure_eq_ok, rendered]

theorem normalized_rendered (h : 0 < size) (hstart : span.start.IsValid)
    (hstop : span.stop.IsValid) (hle : span.start ≤ span.stop) :
    (span.rendered size lines).normalized = some (span.rendered size lines) :=
  normalized_of_le (Position.isValid_rendered lines h hstart)
    (Position.isValid_rendered lines h hstop) (Position.rendered_mono lines h hle)

end Span

namespace Line

variable {size : Int} {lines expanded : List Text}

theorem eq_map_of_expandTabs [Memory]
    (h : List.Forall₂ (fun l e => expandTabs size l = .ok e) lines expanded) :
    expanded = lines.map (expandFrom size 0) ∧ ∀ l ∈ lines, tabError? size 0 l = none := by
  induction h with
  | nil => exact ⟨rfl, fun l hl => absurd hl List.not_mem_nil⟩
  | cons hl _ ih =>
    obtain ⟨hnone, rfl⟩ := of_expandTabs_eq_ok hl
    refine ⟨by rw [List.map_cons, ← ih.1], fun l hmem => ?_⟩
    rcases List.mem_cons.mp hmem with rfl | hrest
    · exact hnone
    · exact ih.2 l hrest

theorem pieces_joined_map (h : 0 < size) (hl : ∀ l ∈ lines, Unbroken l) :
    pieces (Text.joined ['\n'] (lines.map (expandFrom size 0))) =
      (pieces (Text.joined ['\n'] lines)).map (expandFrom size 0) := by
  cases lines with
  | nil => rfl
  | cons l rest =>
    have hmap : ∀ m ∈ (l :: rest).map (expandFrom size 0), Unbroken m := by
      intro m hm
      obtain ⟨l', hl', rfl⟩ := List.mem_map.mp hm
      exact (hl l' hl').expandFrom h 0
    rw [pieces_joined (List.cons_ne_nil _ _) hl, pieces_joined (by simp) hmap]

/-- The pieces of joined lines are the lines; where there are none, there is one empty piece. -/
theorem getD_of_getElem?_pieces (hl : ∀ l ∈ lines, Unbroken l) {n : Nat} {line : Text}
    (h : (pieces (Text.joined ['\n'] lines))[n]? = some line) : lines[n]?.getD [] = line := by
  cases lines with
  | nil =>
    have hmem : line ∈ [([] : Text)] := List.mem_of_getElem? h
    rw [List.mem_singleton.mp hmem]
    rfl
  | cons l rest =>
    rw [pieces_joined (List.cons_ne_nil _ _) hl] at h
    rw [h, Option.getD_some]

end Line

namespace RenderedLine

theorem ofLine_of_not_mem [Memory] {line : Text} (h : '\t' ∉ Line.trimRight line) (size : Int) :
    ofLine size line = .ok ⟨Line.trimRight line, Line.trimRight line, size⟩ := by
  rw [ofLine, Line.expandTabs_of_not_mem h, Outcome.ok_bind, Outcome.pure_eq_ok]

/-- A line and its expansion look the same, if the ends of the span move to rendered columns. -/
theorem alike_expandFrom {size : Int} (h : 0 < size) {lines : List Text} (span : Span) {n : Nat}
    {line : Text} (hline : lines[n]?.getD [] = line) (size' : Int) :
    (expanded size line).Alike span (span.rendered size lines) n
      ⟨Line.trimRight (Line.expandFrom size 0 line), Line.trimRight (Line.expandFrom size 0 line),
        size'⟩ := by
  have htrim := Line.trimRight_expandFrom size 0 line
  -- the expansion has no tabs, so the rendered column is taken as it is
  have hcolumn (p : Position) (hn : (n : Int) = p.line0) :
      Line.renderedColumn size (Line.trimRight line) p.column =
        Line.renderedColumn size' (Line.trimRight (Line.expandFrom size 0 line))
          (p.rendered size lines).column := by
    have hc : (p.rendered size lines).column =
        Line.columnAt size (Line.trimRight line) p.column := by
      rw [Position.rendered, ← hn, Int.toNat_natCast, hline]
    have hfree := Line.tab_not_mem_expandFrom size 0 (Line.trimRight line)
    rw [hc, htrim, Line.renderedColumn_of_not_mem size' hfree (Line.columnAt_nonneg h _ _),
      Line.renderedColumn_eq_ok h]
  exact ⟨htrim.symm, hcolumn span.start, hcolumn span.stop⟩

end RenderedLine

namespace Formatter

variable {settings : Settings} {lines : List Text} {span : Span}

theorem rows_expandFrom [Memory] (ht : 0 < settings.tabSize) (hl : ∀ l ∈ lines, Line.Unbroken l)
    (htabs : ∀ l ∈ lines, Line.tabError? settings.tabSize 0 l = none) (span : Span) (size : Int) :
    (standard settings).rows span (Text.joined ['\n'] lines) =
      (standard { settings with tabSize := size }).rows (span.rendered settings.tabSize lines)
        (Text.joined ['\n'] (lines.map (Line.expandFrom settings.tabSize 0))) := by
  have hf : (standard settings).SameLayout (standard { settings with tabSize := size }) :=
    ⟨rfl, rfl, rfl, rfl, rfl⟩
  have hspan : span.SameLines (span.rendered settings.tabSize lines) := ⟨rfl, rfl⟩
  have hdoc := documentLines_map rfl (Line.isEmpty_expandFrom ht 0)
    (Line.pieces_joined_map ht hl) span.stop.line0
  have hlen : (documentLines (Text.joined ['\n'] lines) span.stop.line0).length =
      (documentLines (Text.joined ['\n'] (lines.map (Line.expandFrom settings.tabSize 0)))
        span.stop.line0).length := by
    rw [hdoc, List.length_map]
  refine rows_congr (shownGutter_congr hf hspan hlen) ?_
  rw [shownLines_map hf hspan hdoc, List.forall₂_map_right_iff, List.forall₂_same]
  intro p hp
  -- a shown line is one of the lines, or the empty one of a document without lines
  have hpiece := getElem?_documentLines (mem_shownLines.mp hp).1
  have hline := Line.getD_of_getElem?_pieces hl hpiece
  have hnone : Line.tabError? settings.tabSize 0 (Line.trimRight p.1) = none := by
    apply Line.tabError?_trimRight
    rw [← hline]
    cases hget : lines[p.2]? with
    | none => rfl
    | some l => exact htabs l (List.mem_of_getElem? hget)
  have hofLine := RenderedLine.ofLine_of_tabError? ht p.1
  rw [hnone] at hofLine
  have hfree : '\t' ∉ Line.trimRight (Line.expandFrom settings.tabSize 0 p.1) := by
    rw [Line.trimRight_expandFrom]
    exact Line.tab_not_mem_expandFrom _ _ _
  exact row_congr hf hspan hofLine (RenderedLine.ofLine_of_not_mem hfree size)
    (RenderedLine.alike_expandFrom ht span hline size)

/-- Rendering commutes with the expansion of tabs: the expanded document has the same snippet under
every tab size. -/
theorem render_expandTabs [Memory] (hv : settings.Valid) (hl : ∀ l ∈ lines, Line.Unbroken l)
    (hstart : span.start.IsValid) (hstop : span.stop.IsValid) (hle : span.start ≤ span.stop) :
    (settings.tabSize ≤ Memory.maxRun →
      ∃ expanded, lines.mapM (Line.expandTabs settings.tabSize) = .ok expanded) ∧
    ∀ expanded, lines.mapM (Line.expandTabs settings.tabSize) = .ok expanded →
      ∃ span', span.inExpansion settings.tabSize lines = .ok span' ∧
        ∀ (size : Int) (cause : Option Failure),
          (standard settings).render span (Text.joined ['\n'] lines) cause =
            (standard { settings with tabSize := size }).render span'
              (Text.joined ['\n'] expanded) cause := by
  have ht : 0 < settings.tabSize := hv.tabSize_pos
  constructor
  · intro hsize
    obtain ⟨expanded, hexp, -⟩ := Outcome.exists_mapM_ok (P := fun _ _ => True)
      fun (l : Text) (_ : l ∈ lines) =>
        ⟨Line.expandFrom settings.tabSize 0 l, Line.expandTabs_of_le ht hsize l, trivial⟩
    exact ⟨expanded, hexp⟩
  · intro expanded hexp
    obtain ⟨rfl, htabs⟩ := Line.eq_map_of_expandTabs (Outcome.forall₂_of_mapM_eq_ok hexp)
    refine ⟨_, Span.inExpansion_eq lines ht hstart hstop, fun size cause => ?_⟩
    rw [render_of_normalized (Span.normalized_of_le hstart hstop hle),
      render_of_normalized (Span.normalized_rendered lines ht hstart hstop hle),
      rows_expandFrom ht hl htabs span size]

/-- A tab in front of the span, another one behind it, and a line of blanks. -/
theorem render_expandTabs_tabbed :
    ∃ expanded span', ["a\tb\t".toList, "\t".toList].mapM (Line.expandTabs 8) = .ok expanded ∧
      (⟨⟨1, 2⟩, ⟨2, 1⟩⟩ : Span).inExpansion 8 ["a\tb\t".toList, "\t".toList] = .ok span' ∧
      ∀ (size : Int) (cause : Option Failure),
        (standard {}).render ⟨⟨1, 2⟩, ⟨2, 1⟩⟩
            (Text.joined ['\n'] ["a\tb\t".toList, "\t".toList]) cause =
          (standard { tabSize := size }).render span' (Text.joined ['\n'] expanded) cause := by
  have hl : ∀ l ∈ ["a\tb\t".toList, "\t".toList], Line.Unbroken l := by
    intro l hl
    rcases List.mem_cons.mp hl with rfl | hl
    · exact ⟨by decide, by decide⟩
    · rw [List.mem_singleton.mp hl]
      exact ⟨by decide, by decide⟩
  have hstart : (⟨⟨1, 2⟩, ⟨2, 1⟩⟩ : Span).start.IsValid := by decide
  have hrender := render_expandTabs Settings.valid_default hl hstart (by decide) (by decide)
  obtain ⟨expanded, hexp⟩ := hrender.1 (by decide)
  obtain ⟨span', hspan', hsame⟩ := hrender.2 expanded hexp
  exact ⟨expanded, span', hexp, hspan', hsame⟩

end Formatter

end SyntaxReport
