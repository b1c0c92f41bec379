import Mathlib.Data.List.Forall2
import Mathlib.Tactic.SplitIfs
import SyntaxReport.Proofs.Line.Pieces
import SyntaxReport.Proofs.Outcome

/-! What a snippet depends on. Of a document it needs the lines that are shown and how many lines
there are; of a shown line the text as it is rendered and the columns at which the span begins and
ends on it. Two documents that agree in this have the same snippet, also if their lines, their
columns and their tab sizes differ. -/
namespace SyntaxReport

namespace Line

/-- Lines that are replaced without becoming or ceasing to be empty are dropped at the same end. -/
theorem split_map {t t' : Text} {e : Text → Text} (he : ∀ l, (e l).isEmpty = l.isEmpty)
    (h : pieces t' = (pieces t).map e) : split t' = (split t).map e := by
  have hempty : (List.isEmpty ∘ e) = (List.isEmpty : Text → Bool) := funext he
  obtain ⟨l, rest, hp⟩ := List.exists_cons_of_ne_nil (pieces_ne_nil t)
  unfold split
  rw [h, hp, List.map_cons]
  dsimp only
  rw [Sequence.dropTrailing_map, hempty, List.map_cons]

end Line

/-- Two spans begin on the same line and end on the same line. -/
structure Span.SameLines (span span' : Span) : Prop where
  start_eq : span.start.line = span'.start.line
  stop_eq : span.stop.line = span'.stop.line

/-- Line `n` looks the same in two documents, each with its own span. -/
structure RenderedLine.Alike (span span' : Span) (n : Int) (line line' : RenderedLine) : Prop where
  text_eq : line.text = line'.text
  start_eq : n = span.start.line0 →
    line.column span.start.column = line'.column span'.start.column
  stop_eq : n = span.stop.line0 →
    line.column span.stop.column = line'.column span'.stop.column

/-- Two formatters differ at most in their tab sizes and in the text for a missing location. -/
structure Formatter.SameLayout (f f' : Formatter) : Prop where
  margin_eq : f.settings.margin = f'.settings.margin
  marker_eq : f.marker = f'.marker
  before_eq : f.settings.linesBefore = f'.settings.linesBefore
  after_eq : f.settings.linesAfter = f'.settings.linesAfter
  gutter_eq : f.gutter = f'.gutter

theorem Span.SameLines.start_line0 {span span' : Span} (h : span.SameLines span') :
    span.start.line0 = span'.start.line0 := by
  rw [Position.line0, Position.line0, h.start_eq]

theorem Span.SameLines.stop_line0 {span span' : Span} (h : span.SameLines span') :
    span.stop.line0 = span'.stop.line0 := by
  rw [Position.line0, Position.line0, h.stop_eq]

namespace Formatter

variable {f f' : Formatter} {g : Gutter} {span span' : Span}

theorem hasMarks_congr (hspan : span.SameLines span') {n : Int} {line line' : RenderedLine}
    (h : line.Alike span span' n line') : hasMarks span n line = hasMarks span' n line' := by
  unfold hasMarks RenderedLine.length
  rw [hspan.start_line0, hspan.stop_line0, h.text_eq]

theorem markedColumns_congr (hspan : span.SameLines span') {n : Int} {line line' : RenderedLine}
    (h : line.Alike span span' n line') :
    markedColumns span n line = markedColumns span' n line' := by
  have hlen : line.length = line'.length := congrArg List.length h.text_eq
  unfold markedColumns
  rw [← hspan.start_line0, ← hspan.stop_line0, ← hlen]
  -- a column is looked up only on the line of its end of the span
  by_cases hstart : n = span.start.line0
  · by_cases hstop : n = span.stop.line0
    · simp only [if_pos hstart, if_pos hstop, h.start_eq hstart, h.stop_eq hstop]
    · simp only [if_pos hstart, if_neg hstop, h.start_eq hstart]
  · by_cases hstop : n = span.stop.line0
    · simp only [if_neg hstart, if_pos hstop, h.stop_eq hstop]
    · simp only [if_neg hstart, if_neg hstop]

theorem marks_congr [Memory] (hf : f.SameLayout f') (hspan : span.SameLines span') {n : Int}
    {line line' : RenderedLine} (h : line.Alike span span' n line') :
    f.marks g span n line = f'.marks g span' n line' := by
  have hblanks (first count : Nat) : line.blanks first count = line'.blanks first count := by
    rw [RenderedLine.blanks, RenderedLine.blanks, h.text_eq]
  unfold marks
  simp only [markedColumns_congr hspan h, hblanks, hf.margin_eq, hf.marker_eq, hspan.stop_line0]

theorem row_congr [Memory] (hf : f.SameLayout f') (hspan : span.SameLines span') {text text' : Text}
    {n : Nat} {line line' : RenderedLine}
    (hline : RenderedLine.ofLine f.settings.tabSize text = .ok line)
    (hline' : RenderedLine.ofLine f'.settings.tabSize text' = .ok line')
    (h : line.Alike span span' n line') : f.row g span text n = f'.row g span' text' n := by
  unfold row
  simp only [hline, hline', Outcome.mapError_ok, Outcome.ok_bind, hasMarks_congr hspan h,
    marks_congr hf hspan h, hf.margin_eq, h.text_eq]

theorem rows_congr [Memory] {source source' : Text}
    (hgutter : f.shownGutter span source = f'.shownGutter span' source')
    (h : List.Forall₂ (fun p q => f.row (f.shownGutter span source) span p.1 p.2 =
      f'.row (f.shownGutter span source) span' q.1 q.2)
      (f.shownLines span source) (f'.shownLines span' source')) :
    f.rows span source = f'.rows span' source' := by
  unfold rows
  rw [← hgutter]
  exact Outcome.mapM_congr h

theorem documentLines_map {source source' : Text} {e : Text → Text} (hnil : e [] = [])
    (he : ∀ l, (e l).isEmpty = l.isEmpty) (h : Line.pieces source' = (Line.pieces source).map e)
    (stop0 : Int) : documentLines source' stop0 = (documentLines source stop0).map e := by
  have hsplit := Line.split_map he h
  have hcount : Line.countBreaks source' = Line.countBreaks source := by
    have hlen := congrArg List.length h
    rw [List.length_map, Line.length_pieces, Line.length_pieces] at hlen
    omega
  unfold documentLines
  dsimp only
  rw [hsplit, hcount, List.length_map]
  -- the empty lines that a stop brings back are replaced by empty lines
  split_ifs
  · rw [List.map_append, List.map_replicate, hnil]
  · rfl

theorem lastShown_congr (hf : f.SameLayout f') (hspan : span.SameLines span')
    {source source' : Text} (h : (documentLines source span.stop.line0).length =
      (documentLines source' span'.stop.line0).length) :
    f.lastShown span source = f'.lastShown span' source' := by
  unfold lastShown
  rw [hf.after_eq, h, hspan.stop_line0]

theorem shownGutter_congr (hf : f.SameLayout f') (hspan : span.SameLines span')
    {source source' : Text} (h : (documentLines source span.stop.line0).length =
      (documentLines source' span'.stop.line0).length) :
    f.shownGutter span source = f'.shownGutter span' source' := by
  unfold shownGutter
  rw [hf.gutter_eq, h, lastShown_congr hf hspan h]

theorem shownLines_map (hf : f.SameLayout f') (hspan : span.SameLines span')
    {source source' : Text} {e : Text → Text}
    (h : documentLines source' span'.stop.line0 =
      (documentLines source span.stop.line0).map e) :
    f'.shownLines span' source' = (f.shownLines span source).map (Prod.map e id) := by
  have hlen : (documentLines source span.stop.line0).length =
      (documentLines source' span'.stop.line0).length := by
    rw [h, List.length_map]
  have hfirst : f.firstShown span = f'.firstShown span' := by
    unfold firstShown
    rw [hf.before_eq, hspan.start_line0]
  unfold shownLines
  dsimp only
  rw [h, lastShown_congr hf hspan hlen, hfirst, List.zipIdx_map, List.map_take, List.map_drop]

end Formatter

end SyntaxReport
