import SyntaxReport.Proofs.Snippet.TokenMarks

/-! The window of a snippet. Its rows show consecutive pieces of the source, each under its own
number. Every line of the span is among them if the source goes on to the line where the span stops;
otherwise the window ends with the lines of the document, and no empty line behind them is shown. -/
namespace SyntaxReport

namespace Sequence

/-- The part of a range between two bounds that lie in it. -/
theorem filter_range'_between {s n lo hi : Nat} (hlo : s ≤ lo) (hle : lo ≤ hi) (hhi : hi ≤ s + n) :
    (List.range' s n).filter (fun x => decide (lo ≤ x ∧ x < hi)) = List.range' lo (hi - lo) := by
  obtain ⟨a, rfl⟩ := Nat.exists_eq_add_of_le hlo
  obtain ⟨m, rfl⟩ := Nat.exists_eq_add_of_le hle
  obtain ⟨c, hc⟩ := Nat.exists_eq_add_of_le hhi
  obtain rfl : n = a + (m + c) := by omega
  -- the range is cut at both bounds: nothing of the outer parts stays, and all of the inner one
  have hsplit : List.range' s (a + (m + c)) =
      List.range' s a ++ (List.range' (s + a) m ++ List.range' (s + a + m) c) := by
    rw [List.range'_append_1, List.range'_append_1]
  have hbelow : (List.range' s a).filter (fun x => decide (s + a ≤ x ∧ x < s + a + m)) = [] := by
    rw [List.filter_eq_nil_iff]
    intro x hx
    rw [List.mem_range'_1] at hx
    rw [decide_eq_true_iff]
    omega
  have habove : (List.range' (s + a + m) c).filter
      (fun x => decide (s + a ≤ x ∧ x < s + a + m)) = [] := by
    rw [List.filter_eq_nil_iff]
    intro x hx
    rw [List.mem_range'_1] at hx
    rw [decide_eq_true_iff]
    omega
  have hinner : (List.range' (s + a) m).filter (fun x => decide (s + a ≤ x ∧ x < s + a + m)) =
      List.range' (s + a) m := by
    rw [List.filter_eq_self]
    intro x hx
    rw [List.mem_range'_1] at hx
    exact decide_eq_true hx
  rw [hsplit, List.filter_append, List.filter_append, hbelow, habove, hinner, List.nil_append,
    List.append_nil, Nat.add_sub_cancel_left]

end Sequence

/-- The row shows the piece of the source at its index: the number of the line in the gutter and the
line as it is rendered. -/
def Row.ShowsPiece [Memory] (row : Row) (settings : Settings) (g : Gutter) (source : Text) : Prop :=
  ∃ (piece label : Text) (line : RenderedLine), (Line.pieces source)[row.index]? = some piece ∧
    RenderedLine.ofLine settings.tabSize piece = .ok line ∧
    g.label ((row.index : Int) + 1) = .ok label ∧
    row.source = settings.margin ++ label ++ line.text

namespace Formatter

/-- A stop behind the source brings no empty lines back. -/
theorem documentLines_of_countBreaks_lt {source : Text} {stop0 : Int}
    (h : Line.countBreaks source < stop0) :
    documentLines source stop0 = Line.split source := by
  unfold documentLines
  dsimp only
  rw [if_neg (by omega)]

section

variable [Memory]

/-- What a row is made of. -/
theorem of_row_eq_ok {f : Formatter} {g : Gutter} {span : Span} {text : Text} {n : Nat} {row : Row}
    (h : f.row g span text n = .ok row) :
    ∃ line label, RenderedLine.ofLine f.settings.tabSize text = .ok line ∧
      g.label ((n : Int) + 1) = .ok label ∧ row.index = n ∧
      row.source = f.settings.margin ++ label ++ line.text ∧
      (hasMarks span n line = false → row.marks = none) ∧
      (hasMarks span n line = true → ∃ marks, f.marks g span n line = .ok marks ∧
        row.marks = some marks) := by
  unfold Formatter.row at h
  obtain ⟨line, hline, h⟩ := Outcome.exists_of_bind_eq_ok h
  obtain ⟨label, hlabel, h⟩ := Outcome.exists_of_bind_eq_ok h
  rw [Outcome.mapError_eq_ok_iff] at hline hlabel
  refine ⟨line, label, hline, hlabel, ?_⟩
  dsimp only at h
  cases hm : hasMarks span n line with
  | false =>
    rw [hm, if_neg Bool.false_ne_true] at h
    cases h
    exact ⟨rfl, rfl, fun _ => rfl, nofun⟩
  | true =>
    rw [hm, if_pos rfl] at h
    obtain ⟨marks, hmarks, h⟩ := Outcome.exists_of_bind_eq_ok h
    cases h
    exact ⟨rfl, rfl, nofun, fun _ => ⟨marks, hmarks, rfl⟩⟩

theorem marks_eq_none_of_row {f : Formatter} {g : Gutter} {span : Span} {text : Text} {n : Nat}
    {row : Row} (h : f.row g span text n = .ok row)
    (hn : (n : Int) < span.start.line0 ∨ span.stop.line0 < n) : row.marks = none := by
  obtain ⟨line, label, -, -, -, -, hnone, -⟩ := of_row_eq_ok h
  apply hnone
  unfold hasMarks
  exact decide_eq_false (by omega)

variable {settings : Settings} {span : Span} {source : Text}

theorem showsPiece_of_row {f : Formatter} {g : Gutter} {p : Text × Nat} {row : Row}
    (hp : p ∈ f.shownLines span source) (h : f.row g span p.1 p.2 = .ok row) :
    row.ShowsPiece f.settings g source := by
  obtain ⟨line, label, hline, hlabel, hindex, hsource, -, -⟩ := of_row_eq_ok h
  have hpiece := getElem?_documentLines (mem_shownLines.mp hp).1
  rw [← hindex] at hpiece hlabel
  exact ⟨p.1, label, line, hpiece, hline, hlabel, hsource⟩

/-- Rows of lines outside the span show their pieces and have no markers. -/
theorem context_of_mapM {f : Formatter} {g : Gutter} {ps : List (Text × Nat)} {rows : List Row}
    (h : ps.mapM (fun p => f.row g span p.1 p.2) = .ok rows)
    (hps : ∀ p ∈ ps, p ∈ f.shownLines span source)
    (hout : ∀ p ∈ ps, (p.2 : Int) < span.start.line0 ∨ span.stop.line0 < p.2) {row : Row}
    (hrow : row ∈ rows) :
    (∃ p ∈ ps, row.index = p.2) ∧ row.marks = none ∧ row.ShowsPiece f.settings g source := by
  obtain ⟨p, hp, hprow⟩ :=
    Outcome.exists_mem_of_forall₂ (Outcome.forall₂_of_mapM_eq_ok h) hrow
  obtain ⟨line, label, -, -, hindex, -⟩ := of_row_eq_ok hprow
  exact ⟨⟨p, hp, hindex⟩, marks_eq_none_of_row hprow (hout p hp),
    showsPiece_of_row (hps p hp) hprow⟩

theorem rows_eq (f : Formatter) (span : Span) (source : Text) :
    f.rows span source = (f.shownLines span source).mapM fun p =>
      f.row (f.shownGutter span source) span p.1 p.2 := rfl

theorem render_of_rows {f : Formatter} {resolved : Span} {rows : List Row}
    (hn : span.normalized = some resolved) (h : f.rows resolved source = .ok rows)
    (cause : Option Failure) :
    f.render span source cause = .ok (rows.flatMap Row.text) := by
  rw [render_of_normalized hn, h, Outcome.map_ok]

theorem map_index_of_mapM {f : Formatter} {g : Gutter} {ps : List (Text × Nat)} {rows : List Row}
    (h : ps.mapM (fun p => f.row g span p.1 p.2) = .ok rows) :
    rows.map Row.index = ps.map Prod.snd := by
  have hrows := Outcome.forall₂_of_mapM_eq_ok h
  rw [← List.forall₂_eq_eq_eq, List.forall₂_map_left_iff, List.forall₂_map_right_iff]
  refine hrows.flip.imp fun row p hrow => ?_
  obtain ⟨line, label, -, -, hindex, -⟩ := of_row_eq_ok hrow
  exact hindex

/-- The rows show consecutive pieces of the source. All lines of the span are shown if it stops in
the source, and otherwise nothing behind the lines of the document is. -/
structure ShowsWindow (settings : Settings) (span : Span) (source : Text) (rows : List Row) :
    Prop where
  consecutive : ∃ first, rows.map Row.index = List.range' first rows.length
  showsPiece : ∀ row ∈ rows,
    row.ShowsPiece settings ((standard settings).shownGutter span source) source
  covers : span.stop.line0 ≤ Line.countBreaks source →
    (rows.map Row.index).filter
        (fun n : Nat => decide (span.start.line0 ≤ n ∧ (n : Int) ≤ span.stop.line0)) =
      List.range' span.start.line0.toNat (span.stop.line0 + 1 - span.start.line0).toNat
  beyond : Line.countBreaks source < span.stop.line0 →
    ∀ row ∈ rows, row.index < (Line.split source).length

theorem map_index_of_rows {f : Formatter} {rows : List Row} (h : f.rows span source = .ok rows) :
    rows.map Row.index = List.range' (f.firstShown span).toNat
      (f.lastShown span source + 1 - f.firstShown span).toNat := by
  rw [rows_eq] at h
  rw [← map_snd_shownLines]
  exact map_index_of_mapM h

theorem filter_map_index (hv : settings.Valid) (hstart : 0 ≤ span.start.line0)
    (hle : span.start.line0 ≤ span.stop.line0) (hstop : span.stop.line0 ≤ Line.countBreaks source)
    {rows : List Row} (h : (standard settings).rows span source = .ok rows) :
    (rows.map Row.index).filter
        (fun n : Nat => decide (span.start.line0 ≤ n ∧ (n : Int) ≤ span.stop.line0)) =
      List.range' span.start.line0.toNat (span.stop.line0 + 1 - span.start.line0).toNat := by
  have hlo : span.start.line0 ≤ span.start.line0.toNat := by omega
  have hhi : (span.stop.line0.toNat : Int) ≤ span.stop.line0 := by omega
  obtain ⟨hfirst, hlast⟩ := shows_between hv span hlo hhi hstop
  have hbounds : (fun n : Nat => decide (span.start.line0 ≤ n ∧ (n : Int) ≤ span.stop.line0)) =
      fun n => decide (span.start.line0.toNat ≤ n ∧ n < (span.stop.line0 + 1).toNat) := by
    funext n
    exact decide_eq_decide.mpr (by omega)
  have hcount : (span.stop.line0 + 1 - span.start.line0).toNat =
      (span.stop.line0 + 1).toNat - span.start.line0.toNat := by omega
  rw [map_index_of_rows h, hbounds, hcount]
  exact Sequence.filter_range'_between hfirst (by omega) (by omega)

theorem showsWindow_of_rows (hv : settings.Valid) (hstart : span.start.IsValid)
    (hle : span.start ≤ span.stop) {rows : List Row}
    (h : (standard settings).rows span source = .ok rows) :
    ShowsWindow settings span source rows := by
  have hindex := map_index_of_rows h
  have hstart0 : 0 ≤ span.start.line0 := by
    have hline := hstart.1
    unfold Position.line0
    omega
  constructor
  · have hlen := congrArg List.length hindex
    rw [List.length_map, List.length_range'] at hlen
    exact ⟨_, by rw [hindex, hlen]⟩
  · intro row hrow
    rw [rows_eq] at h
    obtain ⟨p, hp, hprow⟩ :=
      Outcome.exists_mem_of_forall₂ (Outcome.forall₂_of_mapM_eq_ok h) hrow
    exact showsPiece_of_row hp hprow
  · intro hstop
    exact filter_map_index hv hstart0 (Position.line0_mono hle) hstop h
  · intro hbeyond row hrow
    -- the last line that is shown is a line of the document
    have hfirst : 0 ≤ (standard settings).firstShown span := le_max_right _ _
    have hlast := lastShown_lt_length (standard settings) span source
    rw [documentLines_of_countBreaks_lt hbeyond] at hlast
    have hmem : row.index ∈ rows.map Row.index := List.mem_map_of_mem hrow
    rw [hindex, List.mem_range'_1] at hmem
    omega

/-- A source has one piece more than line feeds, and the window of a snippet shows the pieces under
their own indices: none is shifted, lost or invented. Only a run of spaces that cannot be written
keeps a snippet from being drawn. -/
theorem render_shows_pieces (hv : settings.Valid) {resolved : Span}
    (hr : span.normalized = some resolved) (hs : source.length < Text.wordBound) :
    (Line.pieces source).length = Line.countBreaks source + 1 ∧
    ((standard settings).Fits resolved source → ∃ rows,
      (standard settings).rows resolved source = .ok rows ∧
      (∀ cause, (standard settings).render span source cause = .ok (rows.flatMap Row.text)) ∧
      ShowsWindow settings resolved source rows) ∧
    (¬ (standard settings).Fits resolved source →
      ∃ e, ∀ cause, (standard settings).render span source cause = .error (.line (.spaces e))) := by
  refine ⟨Line.length_pieces source, fun hf => ?_, render_of_not_fits hv hr hs⟩
  obtain ⟨hstart, -, hle⟩ := Span.isValid_of_normalized hr
  obtain ⟨rows, hrows, -⟩ := rows_of_fits hv.tabSize_pos hs hf
  exact ⟨rows, hrows, render_of_rows hr hrows, showsWindow_of_rows hv hstart hle hrows⟩

end

/-- The span stops on the second of three empty lines at the end, which splitting drops. -/
theorem render_shows_pieces_empty_lines :
    ({} : Settings).Valid ∧
    (⟨⟨1, 1⟩, ⟨3, 0⟩⟩ : Span).normalized = some ⟨⟨1, 1⟩, ⟨3, 0⟩⟩ ∧
    Line.split "\ta\r\n\n\r\n".toList = ["\ta".toList] ∧
    (Line.pieces "\ta\r\n\n\r\n".toList).length = 4 ∧
    ∃ rows : List Row,
      (∀ cause, (standard {}).render ⟨⟨1, 1⟩, ⟨3, 0⟩⟩ "\ta\r\n\n\r\n".toList cause =
        .ok (rows.flatMap Row.text)) ∧
      ShowsWindow {} ⟨⟨1, 1⟩, ⟨3, 0⟩⟩ "\ta\r\n\n\r\n".toList rows := by
  have hn : (⟨⟨1, 1⟩, ⟨3, 0⟩⟩ : Span).normalized = some ⟨⟨1, 1⟩, ⟨3, 0⟩⟩ := by decide
  have hs : "\ta\r\n\n\r\n".toList.length < Text.wordBound := by decide
  obtain ⟨hlen, hfit, -⟩ := render_shows_pieces Settings.valid_default hn hs
  obtain ⟨rows, -, htext, hwindow⟩ := hfit
    (fits_of_le Settings.valid_default (by decide) (by decide) (by decide) _)
  exact ⟨Settings.valid_default, hn, by decide, hlen, rows, htext, hwindow⟩

/-- A tab that is wider than a machine word keeps all lines of the span from being shown. -/
theorem render_shows_no_line :
    ({ tabSize := Text.wordBound } : Settings).Valid ∧
      (⟨⟨1, 0⟩, ⟨2, 1⟩⟩ : Span).normalized = some ⟨⟨1, 0⟩, ⟨2, 1⟩⟩ ∧
      (⟨⟨1, 0⟩, ⟨2, 1⟩⟩ : Span).stop.line0 ≤ Line.countBreaks "a\n\tb".toList ∧
      (standard { tabSize := Text.wordBound }).render ⟨⟨1, 0⟩, ⟨2, 1⟩⟩ "a\n\tb".toList none =
        .error (.line (.spaces .notAWord)) := by
  refine ⟨⟨?_, ?_, ?_, ?_, ?_⟩, ?_, ?_, ?_⟩
  all_goals decide +kernel

end Formatter

end SyntaxReport
