import SyntaxReport.Proofs.Snippet.Congruence
import SyntaxReport.Proofs.Snippet.Fits

/-! Snippets are local. Once a document has two lines and goes on at least to the end of the window
that is shown around a span, nothing outside the window matters: neither the other lines, nor how
many there are, nor the breaks between them; and of the lines in the window nothing matters that
trimming takes away. -/
namespace SyntaxReport

/-- A gutter knows of the number of lines only whether there are at least two. -/
theorem Gutter.forDocument_of_lt {total total' : Int} (h : 1 < total) (h' : 1 < total')
    (highest : Int) : forDocument total highest = forDocument total' highest := by
  rw [forDocument, forDocument, if_neg (by omega), if_neg (by omega)]

theorem RenderedLine.ofLine_congr [Memory] {t t' : Text} (h : Line.trimRight t = Line.trimRight t')
    (tabSize : Int) : ofLine tabSize t = ofLine tabSize t' := by
  rw [ofLine, ofLine, h]

namespace Formatter

variable {f : Formatter} {span : Span} {source source' : Text}

theorem row_of_trimRight [Memory] {t t' : Text} (h : Line.trimRight t = Line.trimRight t')
    (g : Gutter)
    (n : Nat) : f.row g span t n = f.row g span t' n := by
  unfold row
  rw [RenderedLine.ofLine_congr h]

/-- No empty lines are brought back behind a document that the stop lies in. -/
theorem documentLines_of_lt {stop0 : Int} (h : stop0 < (Line.split source).length) :
    documentLines source stop0 = Line.split source := by
  unfold documentLines
  dsimp only
  rw [if_neg (by omega)]

theorem lastShown_of_lt (hafter : 0 ≤ f.settings.linesAfter)
    (h : span.stop.line0 + f.settings.linesAfter < (Line.split source).length) :
    f.lastShown span source = span.stop.line0 + f.settings.linesAfter := by
  rw [lastShown, documentLines_of_lt (by omega)]
  exact min_eq_left (by omega)

/-- The lines of the window, in a document that goes on at least to its end. -/
theorem getElem?_shownLines (hafter : 0 ≤ f.settings.linesAfter)
    (h : span.stop.line0 + f.settings.linesAfter < (Line.split source).length) (k : Nat) :
    (f.shownLines span source)[k]? =
      if f.firstShown span + k ≤ span.stop.line0 + f.settings.linesAfter then
        (Line.split source)[(f.firstShown span).toNat + k]?.map
          (·, (f.firstShown span).toNat + k)
      else none := by
  unfold shownLines
  dsimp only
  rw [lastShown_of_lt hafter h, documentLines_of_lt (by omega), List.getElem?_take,
    List.getElem?_drop, List.getElem?_zipIdx, Nat.zero_add]
  congr 1
  exact propext (by omega)

/-- Lines that agree after trimming give the same window up to trimming. -/
theorem shownLines_trimmed (hafter : 0 ≤ f.settings.linesAfter)
    (h : span.stop.line0 + f.settings.linesAfter < (Line.split source).length)
    (h' : span.stop.line0 + f.settings.linesAfter < (Line.split source').length)
    (hlines : ∀ i : Nat, f.firstShown span ≤ i → i ≤ span.stop.line0 + f.settings.linesAfter →
      (Line.split source)[i]?.map Line.trimRight = (Line.split source')[i]?.map Line.trimRight) :
    (f.shownLines span source).map (Prod.map Line.trimRight id) =
      (f.shownLines span source').map (Prod.map Line.trimRight id) := by
  have hfirst : 0 ≤ f.firstShown span := le_max_right _ _
  apply List.ext_getElem?
  intro k
  rw [List.getElem?_map, List.getElem?_map, getElem?_shownLines hafter h,
    getElem?_shownLines hafter h']
  by_cases hk : f.firstShown span + k ≤ span.stop.line0 + f.settings.linesAfter
  · have hline := hlines ((f.firstShown span).toNat + k) (by omega) (by omega)
    -- trimming a line and numbering it commute
    have hnumber (line? : Option Text) (n : Nat) :
        (line?.map (·, n)).map (Prod.map Line.trimRight id) =
          (line?.map Line.trimRight).map (·, n) := by
      rw [Option.map_map, Option.map_map]
      rfl
    rw [if_pos hk, if_pos hk, hnumber, hnumber, hline]
  · rw [if_neg hk, if_neg hk]

theorem shownGutter_of_lt (hg : f.gutter = Gutter.forDocument)
    (hafter : 0 ≤ f.settings.linesAfter)
    (h2 : 1 < (Line.split source).length) (h2' : 1 < (Line.split source').length)
    (h : span.stop.line0 + f.settings.linesAfter < (Line.split source).length)
    (h' : span.stop.line0 + f.settings.linesAfter < (Line.split source').length) :
    f.shownGutter span source = f.shownGutter span source' := by
  unfold shownGutter
  rw [hg, lastShown_of_lt hafter h, lastShown_of_lt hafter h',
    documentLines_of_lt (by omega), documentLines_of_lt (by omega)]
  exact Gutter.forDocument_of_lt (by omega) (by omega) _

/-- Two documents that agree in the window around a span have the same snippet, or fail with the
same error, whatever else they hold. -/
theorem render_local [Memory] {settings : Settings} (hv : settings.Valid) {resolved : Span}
    (hn : span.normalized = some resolved)
    (h : max 2 (resolved.stop.line0 + settings.linesAfter + 1) ≤ (Line.split source).length)
    (h' : max 2 (resolved.stop.line0 + settings.linesAfter + 1) ≤ (Line.split source').length)
    (hlines : ∀ i : Nat, max (resolved.start.line0 - settings.linesBefore) 0 ≤ i →
      i ≤ resolved.stop.line0 + settings.linesAfter →
      (Line.split source)[i]?.map Line.trimRight = (Line.split source')[i]?.map Line.trimRight)
    (cause : Option Failure) :
    (standard settings).render span source cause =
      (standard settings).render span source' cause := by
  have hafter := hv.linesAfter_nonneg
  have hlast : resolved.stop.line0 + settings.linesAfter < (Line.split source).length := by omega
  have hlast' : resolved.stop.line0 + settings.linesAfter < (Line.split source').length := by omega
  have hgutter : (standard settings).shownGutter resolved source =
      (standard settings).shownGutter resolved source' :=
    shownGutter_of_lt rfl hafter (by omega) (by omega) hlast hlast'
  have hshown := shownLines_trimmed (f := standard settings) hafter hlast hlast' hlines
  rw [render_of_normalized hn, render_of_normalized hn, rows_congr hgutter]
  rw [← List.forall₂_eq_eq_eq, List.forall₂_map_left_iff, List.forall₂_map_right_iff] at hshown
  refine hshown.imp ?_
  intro p q hpq
  obtain ⟨htext, hindex⟩ := Prod.ext_iff.mp hpq
  change p.2 = q.2 at hindex
  rw [hindex]
  exact row_of_trimRight htext _ q.2

/-- A line and the line below it are shown. What is above them, below them and behind them in their
lines differs, and so do the breaks and the numbers of lines. -/
theorem render_local_two_lines :
    (⟨⟨2, 0⟩, ⟨2, 0⟩⟩ : Span).normalized = some ⟨⟨2, 0⟩, ⟨2, 0⟩⟩ ∧
    Line.split "head\nx \ny\n".toList = ["head".toList, "x ".toList, "y".toList] ∧
    Line.split "\r\nx\r\ny\t\r\nmore\nlines".toList =
      [[], "x".toList, "y\t".toList, "more".toList, "lines".toList] ∧
    ∀ cause,
      (standard { linesAfter := 1 }).render ⟨⟨2, 0⟩, ⟨2, 0⟩⟩ "head\nx \ny\n".toList cause =
        (standard { linesAfter := 1 }).render ⟨⟨2, 0⟩, ⟨2, 0⟩⟩
          "\r\nx\r\ny\t\r\nmore\nlines".toList cause := by
  have hv : Settings.Valid { linesAfter := 1 } := by
    refine ⟨?_, ?_, ?_, ?_, ?_⟩ <;> decide
  have hn : (⟨⟨2, 0⟩, ⟨2, 0⟩⟩ : Span).normalized = some ⟨⟨2, 0⟩, ⟨2, 0⟩⟩ := by decide
  refine ⟨hn, by decide, by decide, render_local hv hn (by decide) (by decide) ?_⟩
  intro i hfirst hlast
  -- the window is made of the lines with the indices one and two
  obtain rfl | rfl : i = 1 ∨ i = 2 := by
    change max (2 - 1 - 0 : Int) 0 ≤ i at hfirst
    change (i : Int) ≤ 2 - 1 + 1 at hlast
    omega
  · decide
  · decide

end Formatter

end SyntaxReport
