import SyntaxReport.Proofs.Snippet.Window

/-! The end of input. It lies behind the last character of the last piece, also if that piece is
empty and splitting drops it. The snippet of the end closes with the last piece and a single marker:
the column of the end is behind everything that is left of the line after trimming, and there no
blank keeps the marker from being drawn. -/
namespace SyntaxReport

namespace Line

theorem rowOf_length (t : Text) : rowOf t t.length = countBreaks t := by
  rw [rowOf, List.take_length, countBreaks]

/-- The column of the end of a text is the length of its last piece. -/
theorem length_last_piece {t l : Text} (h : (pieces t)[countBreaks t]? = some l) :
    l.length = columnOf t t.length := by
  fun_induction pieces t generalizing l with
  | case1 =>
    cases h
    rfl
  | case2 rest ih =>
    have hcount : countBreaks ('\r' :: '\n' :: rest) = countBreaks rest + 1 := by
      simp [countBreaks]
    rw [hcount, List.getElem?_cons_succ] at h
    rw [List.length_cons, columnOf_cons_succ, List.length_cons, columnOf_cons_succ,
      rowOf_cons_succ, ih h]
    simp
  | case3 rest _ ih =>
    have hcount : countBreaks ('\n' :: rest) = countBreaks rest + 1 := by
      simp [countBreaks]
    rw [hcount, List.getElem?_cons_succ] at h
    rw [List.length_cons, columnOf_cons_succ, if_neg (by simp), Nat.add_zero, ih h]
  | case4 c rest _ hc ih =>
    have hcount : countBreaks (c :: rest) = countBreaks rest := List.count_cons_of_ne hc
    obtain ⟨m, ms, hm⟩ := List.exists_cons_of_ne_nil (pieces_ne_nil rest)
    rw [hcount, hm, consFirst] at h
    rw [hm] at ih
    rw [List.length_cons, columnOf_cons_succ, rowOf_length]
    -- `c` belongs to the last piece only if there is no break behind it
    cases hb : countBreaks rest with
    | zero =>
      rw [hb, List.getElem?_cons_zero] at h
      rw [hb, List.getElem?_cons_zero] at ih
      rw [if_pos ⟨hc, rfl⟩, ← ih rfl, ← Option.some.inj h, List.length_cons]
    | succ n =>
      rw [hb, List.getElem?_cons_succ] at h
      rw [hb, List.getElem?_cons_succ] at ih
      rw [if_neg (by omega), Nat.add_zero, ih h]

/-- A column behind the line is moved only as far as the expansion reaches. -/
theorem columnAt_of_length_le {size : Int} (h : 0 < size) {raw : Text} {column : Nat}
    (hc : raw.length ≤ column) :
    columnAt size raw column = (max (expandFrom size 0 raw).length column : Nat) := by
  rw [columnAt_eq h, Int.toNat_natCast, List.take_of_length_le hc]
  omega

theorem length_trimRight_le (line : Text) : (trimRight line).length ≤ line.length := by
  obtain ⟨tail, htail, -⟩ := Sequence.dropTrailing_append_tail (fun c => decide (c ≤ ' ')) line
  have hlen := congrArg List.length htail
  rw [List.length_append] at hlen
  exact Nat.le.intro hlen

end Line

theorem RenderedLine.eq_expanded_of_ofLine [Memory] {size : Int} (h : 0 < size) {text : Text}
    {line : RenderedLine} (hl : ofLine size text = .ok line) : expanded size text = line := by
  rw [ofLine_of_tabError? h] at hl
  split at hl
  · cases hl
  · exact Except.ok.inj hl

namespace Formatter

variable {f : Formatter} {settings : Settings} {span : Span} {source piece : Text}

/-- A stop on the last line brings back every empty line that splitting drops. -/
theorem documentLines_countBreaks (source : Text) :
    documentLines source (Line.countBreaks source) = Line.pieces source := by
  have hlen : (Line.countBreaks source : Int) < _ := lt_length_documentLines le_rfl
  apply (documentLines_prefix_pieces source _).eq_of_length_le
  rw [Line.length_pieces]
  omega

/-- The window around the end of input closes with the last piece, whatever context is asked for. -/
theorem exists_shownLines_end (hafter : 0 ≤ f.settings.linesAfter)
    (hbefore : 0 ≤ f.settings.linesBefore) (hstart : span.start.line0 = Line.countBreaks source)
    (hstop : span.stop.line0 = Line.countBreaks source)
    (hpiece : (Line.pieces source)[Line.countBreaks source]? = some piece) :
    ∃ above, f.shownLines span source = above ++ [(piece, Line.countBreaks source)] ∧
      ∀ p ∈ above, p.2 < Line.countBreaks source := by
  have hlen := Line.length_pieces source
  have hlast : f.lastShown span source = Line.countBreaks source := by
    rw [lastShown, hstop, documentLines_countBreaks, hlen]
    omega
  have hfirst : f.firstShown span ≤ Line.countBreaks source := by
    rw [firstShown, hstart]
    omega
  have hinit : Line.pieces source =
      (Line.pieces source).take (Line.countBreaks source) ++ [piece] := by
    have htake := List.take_add_one (l := Line.pieces source) (i := Line.countBreaks source)
    rwa [hpiece, List.take_of_length_le hlen.le] at htake
  set init := (Line.pieces source).take (Line.countBreaks source) with hdef
  have hcount : init.length = Line.countBreaks source := by
    rw [hdef, List.length_take]
    omega
  refine ⟨init.zipIdx.drop (f.firstShown span).toNat, ?_, fun p hp => ?_⟩
  · unfold shownLines
    dsimp only
    rw [hlast, hstop, documentLines_countBreaks, hinit, List.zipIdx_append, List.zipIdx_singleton,
      List.drop_append_of_le_length (by rw [List.length_zipIdx]; omega), Nat.zero_add, hcount]
    apply List.take_of_length_le
    rw [List.length_append, List.length_drop, List.length_zipIdx, List.length_singleton]
    omega
  · rw [← hcount]
    exact List.snd_lt_of_mem_zipIdx (List.mem_of_mem_drop hp)

/-- Below a line that a span covers from behind its end to the same column stands one marker. -/
theorem marksText_behind_end {size : Int} (ht : 0 < size) {g : Gutter} {n : Int} {column : Nat}
    (hpoint : span.stop = span.start) (hn : n = span.start.line0)
    (hc : span.start.column = column) (hlen : (Line.trimRight piece).length ≤ column) :
    f.marksText g span n (RenderedLine.expanded size piece) =
      f.settings.margin ++ Text.spaces g.extent ++
        List.replicate (max (RenderedLine.expanded size piece).length column) ' ' ++ f.marker := by
  set line := RenderedLine.expanded size piece
  have hfirst : span.firstColumn n line = (max line.length column : Nat) := by
    rw [Span.firstColumn, if_pos hn, hc]
    exact Line.columnAt_of_length_le ht hlen
  have hend : span.endColumn n line = (max line.length column : Nat) + 1 := by
    rw [Span.endColumn, hpoint, if_pos hn, hc]
    exact congrArg (· + 1) (Line.columnAt_of_length_le ht hlen)
  have hblank : line.blanks (max line.length column) 1 = [false] := by
    have hdrop : line.text.drop (max line.length column) = [] :=
      List.drop_eq_nil_of_le (Nat.le_max_left _ _)
    rw [RenderedLine.blanks, hdrop]
    rfl
  have hone : ((max line.length column : Nat) + 1 - (max line.length column : Nat) : Int).toNat =
      1 := by omega
  have hlatch : latch f.marker [false] = f.marker := by
    simp [latch, Text.spaces]
  have hspaces : Text.spaces (max line.length column : Nat) =
      List.replicate (max line.length column) ' ' := by
    rw [Text.spaces, Int.toNat_natCast]
  unfold marksText
  dsimp only
  rw [hfirst, hend, hone, Int.toNat_natCast, hblank, hpoint, if_neg (by omega), hlatch, hspaces]

section

variable [Memory]

/-- The text closes with the line of the last piece and a marker line, which has one marker behind
both the line as it is shown and the column where the source ends. What comes before are lines above
that one, without markers. -/
def PointsAtEnd (settings : Settings) (g : Gutter) (source piece text : Text) : Prop :=
  ∃ (above : List Row) (label indent : Text) (line : RenderedLine),
    g.label (1 + Line.countBreaks source) = .ok label ∧ g.blank = .ok indent ∧
    RenderedLine.ofLine settings.tabSize piece = .ok line ∧
    (∀ row ∈ above, row.index < Line.countBreaks source ∧ row.marks = none ∧
      row.ShowsPiece settings g source) ∧
    text = above.flatMap Row.text ++ (settings.margin ++ label ++ line.text ++ ['\n']) ++
      (settings.margin ++ indent ++
        List.replicate (max line.length (Line.columnOf source source.length)) ' ' ++
        settings.marker ++ ['\n'])

/-- The row of the last piece in the snippet of the end. -/
theorem exists_row_end (hv : settings.Valid) (hs : source.length < Text.wordBound)
    (hpoint : span.stop = span.start) (hline : span.start.line0 = Line.countBreaks source)
    (hcolumn : span.start.column = Line.columnOf source source.length)
    (hpiece : (Line.pieces source)[Line.countBreaks source]? = some piece)
    (hmem : (piece, Line.countBreaks source) ∈ (standard settings).shownLines span source)
    (hf : (standard settings).LineFits span (piece, Line.countBreaks source)) :
    ∃ row label line, (standard settings).row ((standard settings).shownGutter span source) span
        piece (Line.countBreaks source) = .ok row ∧
      ((standard settings).shownGutter span source).label (Line.countBreaks source + 1) =
        .ok label ∧
      RenderedLine.ofLine settings.tabSize piece = .ok line ∧
      row.text = settings.margin ++ label ++ line.text ++ ['\n'] ++
        (settings.margin ++ Text.spaces ((standard settings).shownGutter span source).extent ++
          List.replicate (max line.length (Line.columnOf source source.length)) ' ' ++
          settings.marker ++ ['\n']) := by
  have hlen : (Line.trimRight piece).length ≤ Line.columnOf source source.length := by
    rw [← Line.length_last_piece hpiece]
    exact Line.length_trimRight_le piece
  have hle : span.start ≤ span.stop := by
    rw [hpoint]
    exact Position.le_refl span.start
  have hhas := hasMarks_start hle (RenderedLine.expanded settings.tabSize piece)
  rw [hline] at hhas
  obtain ⟨row, hrow, hshows⟩ := row_of_lineFits (f := standard settings) hv.tabSize_pos
    (blank_shownGutter hs) (exists_label_shownGutter hs hmem) hf
  have hmarks := (hshows.marks_eq.trans (if_pos hhas)).trans (congrArg some
    (marksText_behind_end hv.tabSize_pos hpoint hline.symm hcolumn hlen))
  obtain ⟨line, label, hofLine, hlabel, -, hsource, -, -⟩ := of_row_eq_ok hrow
  obtain rfl := RenderedLine.eq_expanded_of_ofLine hv.tabSize_pos hofLine
  refine ⟨row, label, _, hrow, hlabel, hofLine, ?_⟩
  rw [Row.text, hsource, hmarks]
  rfl

theorem exists_rows_end (hv : settings.Valid) (hs : source.length < Text.wordBound)
    (hpoint : span.stop = span.start) (hline : span.start.line0 = Line.countBreaks source)
    (hcolumn : span.start.column = Line.columnOf source source.length)
    (hpiece : (Line.pieces source)[Line.countBreaks source]? = some piece)
    (hf : (standard settings).Fits span source) :
    ∃ rows, (standard settings).rows span source = .ok rows ∧
      PointsAtEnd settings ((standard settings).shownGutter span source) source piece
        (rows.flatMap Row.text) := by
  have hstop : span.stop.line0 = Line.countBreaks source := by rw [hpoint, hline]
  obtain ⟨shown, hshown, habove⟩ := exists_shownLines_end (f := standard settings)
    hv.linesAfter_nonneg hv.linesBefore_nonneg hline hstop hpiece
  have hmem : (piece, Line.countBreaks source) ∈ (standard settings).shownLines span source := by
    rw [hshown]
    exact List.mem_append_right _ List.mem_cons_self
  have hmemAbove (p) (hp : p ∈ shown) : p ∈ (standard settings).shownLines span source := by
    rw [hshown]
    exact List.mem_append_left _ hp
  have hout (p) (hp : p ∈ shown) : (p.2 : Int) < span.start.line0 ∨ span.stop.line0 < p.2 := by
    have hlt := habove p hp
    omega
  obtain ⟨row, label, line, hrow, hlabel, hofLine, htext⟩ :=
    exists_row_end hv hs hpoint hline hcolumn hpiece hmem (hf _ hmem)
  obtain ⟨rows, hrows, -⟩ := rows_of_fits hv.tabSize_pos hs hf
  refine ⟨rows, hrows, ?_⟩
  -- the row of the last piece closes the snippet, and the rows in front of it are context
  rw [rows_eq, hshown] at hrows
  obtain ⟨above, last, hrowsAbove, hrowLast, rfl⟩ := Outcome.exists_of_mapM_append_eq_ok hrows
  obtain rfl : last = [row] := by
    rw [List.mapM_cons, hrow] at hrowLast
    exact (Except.ok.inj hrowLast).symm
  refine ⟨above, label, _, line, ?_, blank_shownGutter hs, hofLine, fun row' hrow' => ?_, ?_⟩
  · rwa [Int.add_comm]
  · obtain ⟨⟨p, hp, hindex⟩, hcontext⟩ := context_of_mapM hrowsAbove hmemAbove hout hrow'
    rw [hindex]
    exact ⟨habove p hp, hcontext⟩
  · rw [List.flatMap_append, List.flatMap_singleton, htext]
    exact (List.append_assoc _ _ _).symm

/-- The end of input can be pointed at in every source: its snippet closes with the last line of the
source and one marker behind that line. Only a run of spaces that cannot be written keeps it from
being drawn. -/
theorem format_points_at_end {eof : Token} (hv : settings.Valid)
    (hs : source.length < Text.wordBound) (heof : eof.isEof = true)
    (hline : eof.line = 1 + Line.countBreaks source)
    (hcolumn : eof.column = Line.columnOf source source.length) :
    ∃ piece, (Line.pieces source)[Line.countBreaks source]? = some piece ∧
      ((standard settings).Fits ⟨.ofStart eof, .ofStart eof⟩ source → ∃ text,
        PointsAtEnd settings
          ((standard settings).shownGutter ⟨.ofStart eof, .ofStart eof⟩ source) source piece text ∧
        ∀ cause, (standard settings).format eof eof source cause = .ok text) ∧
      (¬ (standard settings).Fits ⟨.ofStart eof, .ofStart eof⟩ source → ∃ e, ∀ cause,
        (standard settings).format eof eof source cause = .error (.line (.spaces e))) := by
  have hvalid : (Position.ofStart eof).IsValid := by
    change 1 ≤ eof.line ∧ 0 ≤ eof.column
    omega
  have hspan : (Span.ofTokens eof eof source).normalized =
      some ⟨.ofStart eof, .ofStart eof⟩ := by
    have hstop : Position.ofStop eof source = Position.ofStart eof := by
      rw [Position.ofStop, heof, if_pos rfl]
    rw [Span.ofTokens, hstop]
    exact Span.normalized_of_le hvalid hvalid (Position.le_refl _)
  have hlast : Line.countBreaks source < (Line.pieces source).length := by
    rw [Line.length_pieces]
    exact Nat.lt_succ_self _
  refine ⟨_, List.getElem?_eq_getElem hlast, fun hf => ?_, render_of_not_fits hv hspan hs⟩
  have hline0 : (Position.ofStart eof).line0 = Line.countBreaks source := by
    change eof.line - 1 = _
    omega
  obtain ⟨rows, hrows, hpoints⟩ := exists_rows_end hv hs rfl hline0 hcolumn
    (List.getElem?_eq_getElem hlast) hf
  exact ⟨_, hpoints, render_of_rows hspan hrows⟩

end

/-- Behind a final line break the end lies on a line of blanks, which trimming takes away. -/
theorem format_points_at_end_of_blanks :
    (standard { linesBefore := 1, linesAfter := 3 }).Fits ⟨⟨2, 3⟩, ⟨2, 3⟩⟩ "a\r\n \t ".toList ∧
    ∃ text,
      PointsAtEnd { linesBefore := 1, linesAfter := 3 }
        ((standard { linesBefore := 1, linesAfter := 3 }).shownGutter ⟨⟨2, 3⟩, ⟨2, 3⟩⟩
          "a\r\n \t ".toList) "a\r\n \t ".toList " \t ".toList text ∧
      ∀ cause, (standard { linesBefore := 1, linesAfter := 3 }).format
        { line := 2, column := 3, isEof := true } { line := 2, column := 3, isEof := true }
        "a\r\n \t ".toList cause = .ok text := by
  have hv : Settings.Valid { linesBefore := 1, linesAfter := 3 } := by
    refine ⟨?_, ?_, ?_, ?_, ?_⟩ <;> decide
  have hf : (standard { linesBefore := 1, linesAfter := 3 }).Fits ⟨⟨2, 3⟩, ⟨2, 3⟩⟩
      "a\r\n \t ".toList := fits_of_le hv (by decide) (by decide) (by decide) _
  have hs : "a\r\n \t ".toList.length < Text.wordBound := by decide
  have heof : ({ line := 2, column := 3, isEof := true } : Token).isEof = true := rfl
  obtain ⟨piece, hpiece, hfit, -⟩ := format_points_at_end hv hs heof rfl rfl
  obtain rfl : " \t ".toList = piece := Option.some.inj hpiece
  exact ⟨hf, hfit hf⟩

/-- The end behind a tab that is wider than a machine word cannot be pointed at. -/
theorem format_end_not_a_word :
    ({ tabSize := Text.wordBound } : Settings).Valid ∧
      (2 : Int) = Line.columnOf "\tx".toList "\tx".toList.length ∧
      (1 : Int) = 1 + Line.countBreaks "\tx".toList ∧
      (standard { tabSize := Text.wordBound }).format
          { line := 1, column := 2, isEof := true } { line := 1, column := 2, isEof := true }
          "\tx".toList none = .error (.line (.spaces .notAWord)) := by
  refine ⟨⟨?_, ?_, ?_, ?_, ?_⟩, ?_, ?_, ?_⟩
  all_goals decide +kernel

end Formatter

end SyntaxReport
