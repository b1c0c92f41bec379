import SyntaxReport.Proofs.Snippet.Marks
import SyntaxReport.Proofs.Source.Offsets

/-! Markers stand below the characters of tokens. The offsets between two tokens are the positions
of the span that is drawn for them, as far as these characters are shown: of a line only what is in
front of its break and its trailing blanks. -/
namespace SyntaxReport

open Line (rowOf columnOf)

theorem Line.getElem?_trimRight {text : Text} {j : Nat} (hj : j < (trimRight text).length) :
    (trimRight text)[j]? = text[j]? := by
  obtain ⟨tail, htail, -⟩ := Sequence.dropTrailing_append_tail (fun c => decide (c ≤ ' ')) text
  conv_rhs => rw [← htail]
  exact (List.getElem?_append_left hj).symm

/-- A character that is shown on its line is part of no break. -/
theorem Line.PairedReturns.shown {source : Text} (hr : PairedReturns source) {i : Nat} {c : Char}
    {text : Text} (hi : source[i]? = some c) (hline : (pieces source)[rowOf source i]? = some text)
    (hcol : columnOf source i < (trimRight text).length) :
    (trimRight text)[columnOf source i]? = some c ∧ c ≠ '\n' ∧ c ≠ '\r' := by
  have hmem := List.mem_of_getElem? hline
  have hshown : (trimRight text)[columnOf source i]? = text[columnOf source i]? :=
    getElem?_trimRight hcol
  -- trimming only shortens, so the column lies inside the whole piece as well
  have hlt : columnOf source i < text.length := by
    rw [List.getElem?_eq_getElem hcol] at hshown
    exact (List.getElem?_eq_some_iff.mp hshown.symm).1
  have hc : text[columnOf source i]? = some c := getElem?_piece hi hline hlt
  have hin : c ∈ text := List.mem_of_getElem? hc
  refine ⟨hshown.trans hc, ?_, ?_⟩
  · rintro rfl
    exact newline_not_mem_pieces source text hmem hin
  · rintro rfl
    exact hr.not_mem_pieces text hmem hin

/-- A row marks the offsets from `a` to `e`: the visible characters of its line stand at their
rendered columns behind the indent, and a marker stands below such a character exactly if its offset
is one of them. -/
def Row.MarksOffsets (row : Row) (settings : Settings) (mark : Char) (indent : Nat) (source : Text)
    (a e : Nat) : Prop :=
  ∀ (i : Nat) (c : Char) (line : Text), source[i]? = some c → rowOf source i = row.index →
    (Line.pieces source)[row.index]? = some line →
    columnOf source i < (Line.trimRight line).length → c ≠ '\t' → isBlank c = false →
    ∃ k : Nat,
      Line.renderedColumn settings.tabSize (Line.trimRight line) (columnOf source i) =
        .ok (k : Int) ∧
      row.source[indent + k]? = some c ∧
      ((∃ marks, row.marks = some marks ∧ marks[indent + k]? = some mark) ↔ a ≤ i ∧ i ≤ e)

theorem Row.MarksSpan.marksOffsets {row : Row} {settings : Settings} {mark : Char} {indent : Nat}
    {source text : Text} {a b e : Nat} (ht : 0 < settings.tabSize)
    (hr : Line.PairedReturns source) (hae : a ≤ e) (he : e < source.length)
    (htext : (Line.pieces source)[row.index]? = some text)
    (h : row.MarksSpan settings mark indent
      (.ofOffsets source (min a (Position.scanned source b e)) (Position.scanned source b e))
      text) :
    row.MarksOffsets settings mark indent source a e := by
  intro i c line hi hrow hline hcol htab hblank
  rw [htext] at hline
  obtain rfl := Option.some.inj hline
  rw [← hrow] at htext
  obtain ⟨hc, hfeed, hreturn⟩ := hr.shown hi htext hcol
  obtain ⟨hil, -⟩ := List.getElem?_eq_some_iff.mp hi
  have hscan := Position.scanned_le source b e
  -- the position of `i` lies in the span exactly if `i` lies between the offsets
  have hspan : (Position.ofOffset source (min a (Position.scanned source b e)) ≤
        Position.ofOffset source i ∧
      Position.ofOffset source i ≤ Position.ofOffset source (Position.scanned source b e)) ↔
      a ≤ i ∧ i ≤ e := by
    rw [Position.ofOffset_le_iff (by omega) (by omega),
      Position.ofOffset_le_iff (by omega) (by omega)]
    exact Position.between_scanned_iff hr hae hi hfeed hreturn
  obtain ⟨k, hk, hsource, hmarks⟩ := h.character _ c hc htab hblank
  rw [← hrow] at hmarks
  refine ⟨k, hk, hsource, ?_⟩
  constructor
  · rintro ⟨marks, hm, hmark⟩
    exact hspan.mp ((hmarks marks hm).mp hmark)
  · intro hi'
    have hin := hspan.mpr hi'
    -- the line is not empty, so a line of the span has a marker line
    have hne : (RenderedLine.expanded settings.tabSize text).text ≠ [] := by
      intro hempty
      have hshown := Line.getElem?_expandFrom ht hc htab
      change (RenderedLine.expanded settings.tabSize text).text[_]? = some c at hshown
      rw [hempty] at hshown
      cases hshown
    have hsome : row.marks.isSome = true := by
      have hlo := Position.line0_mono hin.1
      have hhi := Position.line0_mono hin.2
      rw [Position.line0_ofOffset source i] at hlo hhi
      rw [h.marked_iff, ← hrow]
      exact ⟨hlo, hhi, fun hinner => hne hinner.2.2⟩
    obtain ⟨marks, hm⟩ := Option.isSome_iff_exists.mp hsome
    exact ⟨marks, hm, (hmarks marks hm).mpr hin⟩

namespace Formatter

variable {settings : Settings} {mark : Char} {source : Text}

theorem shows_between (hv : settings.Valid) (span : Span) {lo hi : Nat}
    (hlo : span.start.line0 ≤ lo) (hhi : (hi : Int) ≤ span.stop.line0)
    (hstop : span.stop.line0 ≤ Line.countBreaks source) :
    ((standard settings).firstShown span).toNat ≤ lo ∧
      (hi : Int) ≤ (standard settings).lastShown span source := by
  have hlines := lt_length_documentLines hstop
  have hbefore := hv.linesBefore_nonneg
  have hafter := hv.linesAfter_nonneg
  constructor
  · unfold firstShown standard
    dsimp only
    omega
  · unfold lastShown standard
    dsimp only
    omega

/-- The snippet between two tokens marks exactly the offsets from the first character of the one to
the last character of the other, unless a run of spaces in it cannot be written. -/
theorem format_marks_tokens [Memory] {start stop : Token} {a b e : Nat} (hv : settings.Valid)
    (hm : settings.marker = [mark]) (hsp : mark ≠ ' ') (hnl : mark ≠ '\n')
    (hs : source.length < Text.wordBound) (hr : Line.PairedReturns source)
    (hstart : start.StandsAt source a) (hstop : stop.StandsAt source b)
    (heof : stop.isEof = false) (htext : stop.text? = none) (hlast : stop.last = e) (hae : a ≤ e)
    (hbe : b ≤ e) (he : e < source.length) :
    ∃ resolved, (Span.ofTokens start stop source).normalized = some resolved ∧
      ((standard settings).Fits resolved source →
        ∃ (extent first count : Nat) (text : Text) (rows : List Row),
          ((standard settings).shownGutter resolved source).length = .ok extent ∧
          (∀ cause, (standard settings).format start stop source cause = .ok text) ∧
          text.splitOn '\n' = rows.flatMap Row.lines ++ [[]] ∧
          rows.map Row.index = List.range' first count ∧
          (first ≤ rowOf source a ∧ rowOf source e < first + count) ∧
          ∀ row ∈ rows,
            row.MarksOffsets settings mark (settings.margin.length + extent) source a e) ∧
      (¬ (standard settings).Fits resolved source → ∃ error, ∀ cause,
        (standard settings).format start stop source cause = .error (.line (.spaces error))) := by
  have hspan := Span.normalized_ofTokens hr hstart hstop heof htext hlast hae hbe he
  refine ⟨_, hspan, fun hf => ?_, render_of_not_fits hv hspan hs⟩
  obtain ⟨text, rows, htext, hdraws⟩ := exists_draws_render hv hm hsp hnl hspan hs hf
  -- the span may begin earlier than `a`, but not on a later line
  have hlo : (Position.ofOffset source (min a (Position.scanned source b e))).line0 ≤
      rowOf source a := by
    have hmono := Line.rowOf_mono source (Nat.min_le_left a (Position.scanned source b e))
    rw [Position.line0_ofOffset]
    omega
  have hhi : (Position.ofOffset source (Position.scanned source b e)).line0 = rowOf source e := by
    rw [Position.line0_ofOffset, Position.rowOf_scanned]
  have hbreaks : (Position.ofOffset source (Position.scanned source b e)).line0 ≤
      Line.countBreaks source := by
    rw [hhi]
    exact Int.ofNat_le.mpr (Line.rowOf_le_countBreaks source e)
  obtain ⟨hfirst, hend⟩ := shows_between hv
    (.ofOffsets source (min a (Position.scanned source b e)) (Position.scanned source b e)) hlo
    hhi.ge hbreaks
  refine ⟨_, _, _, text, rows,
    Gutter.length_forDocument _ (digitWidth_lastShown (standard settings) _ hs), htext,
    hdraws.splitOn_eq, hdraws.indexes, ⟨hfirst, by omega⟩, fun row hrow => ?_⟩
  obtain ⟨line, hline, hmarks⟩ := hdraws.marksSpan row hrow
  exact hmarks.marksOffsets hv.tabSize_pos hr hae he hline

/-- A token that begins in front of a break and ends on the next line. -/
theorem format_marks_tokens_across_break :
    ∃ (extent first count : Nat) (text : Text) (rows : List Row),
      (∀ cause, (standard {}).format { line := 1, column := 1, first := 1, last := 1 }
        { line := 1, column := 1, first := 1, last := 4 } "ab\r\nc".toList cause = .ok text) ∧
      text.splitOn '\n' = rows.flatMap Row.lines ++ [[]] ∧
      rows.map Row.index = List.range' first count ∧ (first ≤ 0 ∧ 1 < first + count) ∧
      ∀ row ∈ rows, row.MarksOffsets {} '^' (1 + extent) "ab\r\nc".toList 1 4 := by
  have hr : Line.PairedReturns "ab\r\nc".toList := by
    intro i hi
    rcases i with _ | _ | _ | _ | _ | i
    all_goals first | rfl | cases hi
  have hstart : ({ line := 1, column := 1, first := 1, last := 1 } : Token).StandsAt
      "ab\r\nc".toList 1 := ⟨rfl, rfl, rfl⟩
  have hstop : ({ line := 1, column := 1, first := 1, last := 4 } : Token).StandsAt
      "ab\r\nc".toList 1 := ⟨rfl, rfl, rfl⟩
  obtain ⟨resolved, hn, hfit, -⟩ := format_marks_tokens (e := 4) Settings.valid_default rfl
    (by decide) (by decide) (by decide) hr hstart hstop rfl rfl rfl (by decide) (by decide)
    (by decide)
  obtain rfl : ⟨⟨1, 1⟩, ⟨2, 0⟩⟩ = resolved := Option.some.inj (hn.symm.trans (by decide)).symm
  obtain ⟨extent, first, count, text, rows, -, hrest⟩ := hfit
    (fits_of_le Settings.valid_default (by decide) (by decide) (by decide) _)
  exact ⟨extent, first, count, text, rows, hrest⟩

/-- A token behind a tab that is wider than a machine word cannot be shown. -/
theorem format_tab_not_a_word :
    ({ tabSize := Text.wordBound } : Settings).Valid ∧ Line.PairedReturns "\tx".toList ∧
      ({ line := 1, column := 1, first := 1, last := 1 } : Token).StandsAt "\tx".toList 1 ∧
      (standard { tabSize := Text.wordBound }).format
        { line := 1, column := 1, first := 1, last := 1 }
        { line := 1, column := 1, first := 1, last := 1 } "\tx".toList none =
        .error (.line (.spaces .notAWord)) := by
  refine ⟨⟨?_, ?_, ?_, ?_, ?_⟩, ?_, ⟨rfl, rfl, rfl⟩, ?_⟩
  case refine_6 =>
    intro i hi
    rcases i with _ | _ | i
    all_goals cases hi
  all_goals decide +kernel

end Formatter

end SyntaxReport
