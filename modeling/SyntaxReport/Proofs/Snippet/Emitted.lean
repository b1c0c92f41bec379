import SyntaxReport.Proofs.Snippet.Marks

/-! The lines of which a snippet consists. A source line begins with the margin and holds no line
feed. A marker line is the margin, spaces and markers. Above the stop line its trailing spaces are
dropped, and if it has no markers, the spaces at the end of the margin go with them. A marker that
is a line feed breaks its line up. -/
namespace SyntaxReport

namespace Sequence

variable {α : Type} {p : α → Bool} {xs : List α}

theorem count_dropTrailing [DecidableEq α] {x : α} (hx : p x = false) :
    (dropTrailing p xs).count x = xs.count x := by
  obtain ⟨tail, htail, hp⟩ := dropTrailing_append_tail p xs
  have hn : x ∉ tail := by
    intro hm
    have hpx := hp x hm
    rw [hx] at hpx
    cases hpx
  nth_rewrite 2 [← htail]
  rw [List.count_append, List.count_eq_zero.mpr hn, Nat.add_zero]

/-- Nothing is dropped exactly if the last item stays. -/
theorem isPrefix_dropTrailing_iff :
    xs <+: dropTrailing p xs ↔ ∀ x, xs.getLast? = some x → p x = false := by
  rcases List.eq_nil_or_concat xs with rfl | ⟨ys, y, rfl⟩
  · simp
  · rw [List.concat_eq_append, List.getLast?_concat]
    cases hy : p y with
    | false =>
      rw [dropTrailing_concat_of_not ys hy]
      constructor
      · rintro - x hx
        rw [← Option.some.inj hx]
        exact hy
      · intro _
        exact List.prefix_rfl
    | true =>
      -- what remains is at most `ys`, so it is shorter than the list
      constructor
      · intro hpre
        obtain ⟨tail, htail, -⟩ := dropTrailing_append_tail p ys
        have hdrop : dropTrailing p (ys ++ [y]) = dropTrailing p ys :=
          dropTrailing_append_of_forall (by simpa using hy)
        have hlen := hpre.length_le
        have hys := congrArg List.length htail
        rw [hdrop, List.length_append, List.length_singleton] at hlen
        rw [List.length_append] at hys
        omega
      · intro h
        have hyf := h y rfl
        rw [hy] at hyf
        cases hyf

end Sequence

namespace Span

/-- The columns of line `n` that the span covers hold only blanks of the line. -/
def CoversBlanks (span : Span) (n : Int) (line : RenderedLine) : Prop :=
  ∀ x : Nat, span.firstColumn n line ≤ x → (x : Int) < span.endColumn n line →
    line.text[x]?.any isBlank = true

/-- How many markers are drawn below line `n`: one for each column of the span from the first one on
that is not blank. -/
def markerCount (span : Span) (n : Int) (line : RenderedLine) : Nat :=
  (span.endColumn n line - span.firstColumn n line).toNat -
    ((line.blanks (span.firstColumn n line).toNat
      (span.endColumn n line - span.firstColumn n line).toNat).takeWhile id).length

theorem markerCount_eq_zero_iff (span : Span) (n : Int) {line : RenderedLine}
    (ht : 0 < line.tabSize) : span.markerCount n line = 0 ↔ span.CoversBlanks n line := by
  have hfirst := Formatter.firstColumn_nonneg span n ht
  have hall := Formatter.length_takeWhile_blanks_eq_iff hfirst (span.endColumn n line) line
  have hle := ( List.takeWhile_prefix id (l := line.blanks (span.firstColumn n line).toNat
    (span.endColumn n line - span.firstColumn n line).toNat)).length_le
  rw [RenderedLine.length_blanks] at hle
  unfold CoversBlanks markerCount
  rw [← hall]
  omega

end Span

namespace Formatter

variable {f : Formatter} {mark : Char}

/-- What a marker line consists of, before trailing spaces are dropped. -/
theorem exists_marksText_eq (hm : f.marker = [mark]) (g : Gutter) (span : Span) (n : Int)
    (line : RenderedLine) : ∃ (count : Nat) (drawn : Text),
      drawn = f.settings.margin ++ List.replicate count ' ' ++
        List.replicate (span.markerCount n line) mark ∧
      f.marksText g span n line =
        if n < span.stop.line0 then Sequence.dropTrailing (· == ' ') drawn else drawn := by
  set first := (span.firstColumn n line).toNat with hfirst
  set count := (span.endColumn n line - span.firstColumn n line).toNat with hcount
  set lead := ((line.blanks first count).takeWhile id).length with hlead
  refine ⟨g.extent + first + lead, _, rfl, ?_⟩
  have hlatch : latch f.marker (line.blanks first count) =
      List.replicate lead ' ' ++ List.replicate (span.markerCount n line) mark := by
    rw [hm, latch_singleton, RenderedLine.length_blanks, Text.spaces, Int.toNat_natCast]
    rfl
  unfold marksText
  dsimp only
  rw [← hfirst, ← hcount, hlatch]
  -- gutter, lead and leading blanks are one run of spaces
  simp only [Text.spaces, Int.toNat_natCast, ← hfirst, List.append_assoc,
    ← List.replicate_append_replicate]

theorem marksText_of_no_markers (hm : f.marker = [mark]) (g : Gutter) {span : Span} {n : Int}
    {line : RenderedLine} (hn : n < span.stop.line0) (hz : span.markerCount n line = 0) :
    f.marksText g span n line = Sequence.dropTrailing (· == ' ') f.settings.margin := by
  obtain ⟨count, drawn, rfl, hmarks⟩ := exists_marksText_eq hm g span n line
  rw [hmarks, if_pos hn, hz, List.replicate_zero, List.append_nil]
  apply Sequence.dropTrailing_append_of_forall
  intro c hc
  rw [List.eq_of_mem_replicate hc]
  rfl

theorem isPrefix_marksText (hm : f.marker = [mark]) (hsp : mark ≠ ' ') (g : Gutter) {span : Span}
    {n : Int} {line : RenderedLine} (h : ¬ (n < span.stop.line0 ∧ span.markerCount n line = 0)) :
    f.settings.margin <+: f.marksText g span n line := by
  obtain ⟨count, drawn, rfl, hmarks⟩ := exists_marksText_eq hm g span n line
  -- the last marker keeps everything in front of it from being dropped
  have hkeep : f.marksText g span n line = f.settings.margin ++ List.replicate count ' ' ++
      List.replicate (span.markerCount n line) mark := by
    rw [hmarks]
    split_ifs with hn
    · obtain ⟨k, hk⟩ := Nat.exists_eq_succ_of_ne_zero fun hz => h ⟨hn, hz⟩
      rw [hk, List.replicate_succ', ← List.append_assoc]
      exact Sequence.dropTrailing_concat_of_not _ (by simpa using hsp)
    · rfl
  rw [hkeep, List.append_assoc]
  exact List.prefix_append _ _

theorem isPrefix_marksText_iff (hm : f.marker = [mark]) (hsp : mark ≠ ' ') (g : Gutter)
    (span : Span) (n : Int) (line : RenderedLine) :
    f.settings.margin <+: f.marksText g span n line ↔
      ¬ (n < span.stop.line0 ∧ span.markerCount n line = 0 ∧
        f.settings.margin.getLast? = some ' ') := by
  by_cases h : n < span.stop.line0 ∧ span.markerCount n line = 0
  · rw [marksText_of_no_markers hm g h.1 h.2, Sequence.isPrefix_dropTrailing_iff]
    constructor
    · rintro hlast ⟨-, -, hspace⟩
      have hs := hlast ' ' hspace
      cases hs
    · intro hno c hc
      rw [beq_eq_false_iff_ne]
      rintro rfl
      exact hno ⟨h.1, h.2, hc⟩
  · have hpre := isPrefix_marksText hm hsp g h
    exact ⟨fun _ hlost => h ⟨hlost.1, hlost.2.1⟩, fun _ => hpre⟩

theorem count_marksText (hm : f.marker = [mark]) (hmargin : '\n' ∉ f.settings.margin) (g : Gutter)
    (span : Span) (n : Int) (line : RenderedLine) :
    (f.marksText g span n line).count '\n' =
      if mark = '\n' then span.markerCount n line else 0 := by
  obtain ⟨count, drawn, hdrawn, hmarks⟩ := exists_marksText_eq hm g span n line
  have hcount : (f.marksText g span n line).count '\n' = drawn.count '\n' := by
    rw [hmarks]
    split_ifs
    · exact Sequence.count_dropTrailing (by decide)
    · rfl
  have hspaces : (List.replicate count ' ').count '\n' = 0 := by
    rw [List.count_replicate, if_neg (by decide)]
  rw [hcount, hdrawn, List.count_append, List.count_append, List.count_eq_zero.mpr hmargin,
    hspaces, List.count_replicate, Nat.zero_add]
  simp only [beq_iff_eq]

/-- How many markers stand below a shown line; none if it has no marker line. -/
def markersBelow (settings : Settings) (span : Span) (p : Text × Nat) : Nat :=
  if hasMarks span p.2 (RenderedLine.expanded settings.tabSize p.1) then
    span.markerCount p.2 (RenderedLine.expanded settings.tabSize p.1)
  else 0

/-- How many markers stand below shown lines together. -/
def markersDrawn (settings : Settings) (span : Span) : List (Text × Nat) → Nat
  | [] => 0
  | p :: rest => markersBelow settings span p + markersDrawn settings span rest

end Formatter

/-- The lines of a row begin with the margin, except for a marker line above the stop line that has
no markers while the margin ends in a space: of it only the margin without these spaces is left. -/
structure Row.KeepsMargin (row : Row) (settings : Settings) (span : Span) (line : Text) :
    Prop where
  source : settings.margin <+: row.source
  marks_iff : ∀ marks, row.marks = some marks → (settings.margin <+: marks ↔
    ¬ ((row.index : Int) < span.stop.line0 ∧
      span.CoversBlanks row.index (RenderedLine.expanded settings.tabSize line) ∧
      settings.margin.getLast? = some ' '))
  lost : ∀ marks, row.marks = some marks → ¬ settings.margin <+: marks →
    marks = Sequence.dropTrailing (· == ' ') settings.margin

namespace Row.Shows

open Formatter (standard hasMarks markersBelow markersDrawn)

variable {settings : Settings} {g : Gutter} {span : Span} {p : Text × Nat} {row : Row} {mark : Char}

theorem keepsMargin (h : row.Shows (standard settings) g span p) (ht : 0 < settings.tabSize)
    (hm : settings.marker = [mark]) (hsp : mark ≠ ' ') : row.KeepsMargin settings span p.1 := by
  have hzero := Span.markerCount_eq_zero_iff span p.2
    (show 0 < (RenderedLine.expanded settings.tabSize p.1).tabSize from ht)
  have hbegins := Formatter.isPrefix_marksText_iff
    (show (standard settings).marker = [mark] from hm) hsp g span p.2
    (RenderedLine.expanded settings.tabSize p.1)
  constructor
  · obtain ⟨label, -, -, hsource⟩ := h.source_eq
    rw [hsource, List.append_assoc]
    exact List.prefix_append _ _
  · intro marks hmarks
    obtain ⟨-, rfl⟩ := h.marks_eq_some hmarks
    rw [h.index_eq, ← hzero]
    exact hbegins
  · intro marks hmarks hlost
    obtain ⟨-, rfl⟩ := h.marks_eq_some hmarks
    obtain ⟨hn, hz, -⟩ := Decidable.not_not.mp fun hkept => hlost (hbegins.mpr hkept)
    exact Formatter.marksText_of_no_markers hm g hn hz

/-- A row ends each of its lines with a line feed and has no others, unless the marker is one. -/
theorem count_text (h : row.Shows (standard settings) g span p) (hm : settings.marker = [mark])
    (hmargin : '\n' ∉ settings.margin) (hp : '\n' ∉ p.1) :
    row.text.count '\n' = 1 + (if row.marks.isSome then 1 else 0) +
      if mark = '\n' then markersBelow settings span p else 0 := by
  have hsource := List.count_eq_zero.mpr (h.newline_not_mem_source hmargin hp)
  have hfeed : ['\n'].count '\n' = 1 := rfl
  unfold text
  rw [List.count_append, List.count_append, hsource, hfeed]
  cases hmarks : row.marks with
  | none =>
    have hno : hasMarks span p.2 (RenderedLine.expanded settings.tabSize p.1) = false := by
      rw [← h.isSome_marks, hmarks]
      rfl
    rw [markersBelow, hno]
    simp
  | some marks =>
    obtain ⟨hhas, rfl⟩ := h.marks_eq_some hmarks
    have hcount := Formatter.count_marksText (show (standard settings).marker = [mark] from hm)
      hmargin g span p.2 (RenderedLine.expanded settings.tabSize p.1)
    dsimp only
    rw [markersBelow, if_pos hhas, List.count_append, hcount, hfeed]
    simp only [Option.isSome_some, if_true]
    omega

theorem count_flatMap_text {ps : List (Text × Nat)} {rows : List Row}
    (h : List.Forall₂ (Row.Shows (standard settings) g span) ps rows)
    (hm : settings.marker = [mark]) (hmargin : '\n' ∉ settings.margin)
    (hp : ∀ p ∈ ps, '\n' ∉ p.1) :
    (rows.flatMap Row.text).count '\n' = rows.length + rows.countP (·.marks.isSome) +
      if mark = '\n' then markersDrawn settings span ps else 0 := by
  induction h with
  | nil => simp [markersDrawn]
  | cons hrow _ ih =>
    have hhead := hrow.count_text hm hmargin (hp _ List.mem_cons_self)
    have htail := ih fun p hmem => hp p (List.mem_cons_of_mem _ hmem)
    rw [List.flatMap_cons, List.count_append, hhead, htail, List.length_cons, List.countP_cons,
      markersDrawn]
    split_ifs <;> omega

end Row.Shows

namespace Formatter

variable {settings : Settings} {span resolved : Span} {source : Text} {mark : Char}

theorem newline_not_mem_shownLines {p : Text × Nat}
    (h : p ∈ (standard settings).shownLines span source) : '\n' ∉ p.1 :=
  Line.newline_not_mem_pieces source p.1
    (List.mem_of_getElem? (getElem?_documentLines (mem_shownLines.mp h).1))

/-- Every line of a snippet begins with the margin, except for marker lines without markers. -/
theorem render_lines_keep_margin [Memory] (hv : settings.Valid) (hm : settings.marker = [mark])
    (hsp : mark ≠ ' ') (hnl : mark ≠ '\n') (hr : span.normalized = some resolved)
    (hs : source.length < Text.wordBound) :
    ((standard settings).Fits resolved source → ∃ text rows,
      (∀ cause, (standard settings).render span source cause = .ok text) ∧
      Draws settings mark
        (settings.margin.length + ((standard settings).shownGutter resolved source).extent)
        resolved source text rows ∧
      ∀ row ∈ rows, ∃ line, (Line.pieces source)[row.index]? = some line ∧
        row.KeepsMargin settings resolved line) ∧
    (¬ (standard settings).Fits resolved source →
      ∃ e, ∀ cause, (standard settings).render span source cause = .error (.line (.spaces e))) := by
  refine ⟨fun hf => ?_, render_of_not_fits hv hr hs⟩
  obtain ⟨-, hstop, -⟩ := Span.isValid_of_normalized hr
  obtain ⟨rows, hshows, htext⟩ := render_of_fits hv hr hs hf
  refine ⟨rows.flatMap Row.text, rows, htext, draws_of_shows hv hm hsp hnl hstop hshows, ?_⟩
  intro row hrow
  obtain ⟨p, hp, hshow⟩ := Outcome.exists_mem_of_forall₂ hshows hrow
  refine ⟨p.1, ?_, hshow.keepsMargin hv.tabSize_pos hm hsp⟩
  rw [hshow.index_eq]
  exact getElem?_documentLines (mem_shownLines.mp hp).1

theorem render_lines_keep_margin_default :
    ({} : Settings).Valid ∧ (standard {}).Fits ⟨⟨1, 0⟩, ⟨2, 0⟩⟩ "\u00a0a\nb".toList ∧
      ∃ indent text rows,
        (∀ cause, (standard {}).render ⟨⟨1, 0⟩, ⟨2, 0⟩⟩ "\u00a0a\nb".toList cause = .ok text) ∧
        Draws {} '^' indent ⟨⟨1, 0⟩, ⟨2, 0⟩⟩ "\u00a0a\nb".toList text rows ∧
        ∀ row ∈ rows, ∃ line, (Line.pieces "\u00a0a\nb".toList)[row.index]? = some line ∧
          row.KeepsMargin {} ⟨⟨1, 0⟩, ⟨2, 0⟩⟩ line := by
  have hf : (standard {}).Fits ⟨⟨1, 0⟩, ⟨2, 0⟩⟩ "\u00a0a\nb".toList :=
    fits_of_le Settings.valid_default (by decide) (by decide) (by decide) _
  have hn : (⟨⟨1, 0⟩, ⟨2, 0⟩⟩ : Span).normalized = some ⟨⟨1, 0⟩, ⟨2, 0⟩⟩ := by decide
  obtain ⟨text, rows, hrest⟩ := (render_lines_keep_margin Settings.valid_default rfl (by decide)
    (by decide) hn (by decide)).1 hf
  exact ⟨Settings.valid_default, hf, _, text, rows, hrest⟩

/-- Below a line that holds only a no-break space the marker line loses its margin. -/
theorem render_drops_margin :
    ({} : Settings).Valid ∧
      (standard {}).render ⟨⟨1, 0⟩, ⟨2, 0⟩⟩ "\u00a0\nx".toList none =
        .ok " 1: \u00a0\n\n 2: x\n    ^\n".toList ∧
      (" 1: \u00a0\n\n 2: x\n    ^\n".toList.splitOn '\n')[1]? = some [] ∧
      ¬ ({} : Settings).margin <+: [] :=
  ⟨Settings.valid_default, by decide +kernel, by decide +kernel, by decide⟩

/-- The line feeds of a snippet end its source lines and its marker lines. Only markers that are
line feeds themselves add to them. -/
theorem render_count_breaks [Memory] (hv : settings.Valid) (hm : settings.marker = [mark])
    (hr : span.normalized = some resolved) (hs : source.length < Text.wordBound) :
    ((standard settings).Fits resolved source → ∃ text rows,
      (∀ cause, (standard settings).render span source cause = .ok text) ∧
      List.Forall₂ (Row.Shows (standard settings)
        ((standard settings).shownGutter resolved source) resolved)
        ((standard settings).shownLines resolved source) rows ∧
      text.count '\n' = rows.length + rows.countP (·.marks.isSome) +
        (if mark = '\n' then
          markersDrawn settings resolved ((standard settings).shownLines resolved source)
        else 0) ∧
      (mark ≠ '\n' → ∀ row ∈ rows, ∀ l ∈ row.lines, '\n' ∉ l)) ∧
    (¬ (standard settings).Fits resolved source →
      ∃ e, ∀ cause, (standard settings).render span source cause = .error (.line (.spaces e))) := by
  refine ⟨fun hf => ?_, render_of_not_fits hv hr hs⟩
  obtain ⟨rows, hshows, htext⟩ := render_of_fits hv hr hs hf
  have hmargin := hv.margin_unbroken.1
  have hcount := Row.Shows.count_flatMap_text hshows hm hmargin fun p hp =>
    newline_not_mem_shownLines hp
  refine ⟨rows.flatMap Row.text, rows, htext, hshows, hcount, fun hnl row hrow => ?_⟩
  obtain ⟨p, hp, hshow⟩ := Outcome.exists_mem_of_forall₂ hshows hrow
  exact hshow.newline_not_mem_lines hm hnl hmargin (newline_not_mem_shownLines hp)

theorem render_count_breaks_default :
    ({} : Settings).Valid ∧ (standard {}).Fits ⟨⟨1, 0⟩, ⟨3, 0⟩⟩ "a\n\nb".toList ∧
      ∃ text, (∀ cause, (standard {}).render ⟨⟨1, 0⟩, ⟨3, 0⟩⟩ "a\n\nb".toList cause = .ok text) ∧
        ∃ rows : List Row, rows.length = 3 ∧
          text.count '\n' = rows.length + rows.countP (·.marks.isSome) ∧
          ∀ row ∈ rows, ∀ l ∈ row.lines, '\n' ∉ l := by
  have hf : (standard {}).Fits ⟨⟨1, 0⟩, ⟨3, 0⟩⟩ "a\n\nb".toList :=
    fits_of_le Settings.valid_default (by decide) (by decide) (by decide) _
  have hm : ({} : Settings).marker = ['^'] := rfl
  have hn : (⟨⟨1, 0⟩, ⟨3, 0⟩⟩ : Span).normalized = some ⟨⟨1, 0⟩, ⟨3, 0⟩⟩ := by decide
  obtain ⟨text, rows, htext, hshows, hcount, hlines⟩ :=
    (render_count_breaks Settings.valid_default hm hn (by decide)).1 hf
  refine ⟨Settings.valid_default, hf, text, htext, rows, hshows.length_eq.symm, hcount, ?_⟩
  exact hlines (by decide)

/-- A marker that is a line feed ends its marker line a second time. -/
theorem render_marker_breaks_line :
    ({ marker := ['\n'] } : Settings).Valid ∧ ∃ rows : List Row,
      (standard { marker := ['\n'] }).rows ⟨⟨1, 0⟩, ⟨1, 0⟩⟩ "x".toList = .ok rows ∧
      (standard { marker := ['\n'] }).render ⟨⟨1, 0⟩, ⟨1, 0⟩⟩ "x".toList none =
        .ok " x\n \n\n".toList ∧
      " x\n \n\n".toList.count '\n' ≠ rows.length + rows.countP (·.marks.isSome) := by
  refine ⟨⟨by decide, by decide, by decide, by decide, by decide⟩,
    [{ index := 0, source := " x".toList, marks := some " \n".toList }], ?_, ?_, ?_⟩
  all_goals decide +kernel

end Formatter

end SyntaxReport
