import Mathlib.Data.List.TakeWhile
import SyntaxReport.Proofs.Snippet.Fits

/-! Markers stand below the characters of the span. A marker line is a margin, a blank gutter and
spaces, followed by one run of markers; where the character above is visible, the run reaches its
column exactly if the span reaches the character. -/
namespace SyntaxReport

namespace Sequence

variable {α : Type} {p : α → Bool} {xs : List α}

theorem mem_of_mem_dropTrailing {x : α} (h : x ∈ dropTrailing p xs) : x ∈ xs := by
  obtain ⟨tail, htail, -⟩ := dropTrailing_append_tail p xs
  rw [← htail]
  exact List.mem_append_left tail h

theorem getElem?_dropTrailing_iff {i : Nat} {x : α} (hx : p x = false) :
    (dropTrailing p xs)[i]? = some x ↔ xs[i]? = some x := by
  obtain ⟨tail, htail, hp⟩ := dropTrailing_append_tail p xs
  by_cases hi : i < (dropTrailing p xs).length
  · nth_rewrite 2 [← htail]
    rw [List.getElem?_append_left hi]
  · -- what stands behind is dropped, and is not `x`
    have hn : (dropTrailing p xs)[i]? = none := List.getElem?_eq_none (Nat.le_of_not_lt hi)
    nth_rewrite 2 [← htail]
    rw [hn, List.getElem?_append_right (Nat.le_of_not_lt hi)]
    constructor
    · intro h
      cases h
    · intro h
      have hm := hp x (List.mem_of_getElem? h)
      rw [hx] at hm
      cases hm

theorem length_takeWhile_le_of_getElem? {i : Nat} {x : α} (h : xs[i]? = some x) (hx : p x = false) :
    (xs.takeWhile p).length ≤ i := by
  by_contra hlt
  have hi : i < (xs.takeWhile p).length := Nat.lt_of_not_le hlt
  have hpre : (xs.takeWhile p)[i]? = some x := by
    rw [← h]
    conv_rhs => rw [← List.takeWhile_append_dropWhile (p := p) (l := xs)]
    rw [List.getElem?_append_left hi]
  have hm := List.mem_takeWhile_imp (List.mem_of_getElem? hpre)
  rw [hx] at hm
  cases hm

end Sequence

namespace Formatter

theorem latch_singleton (mark : Char) (blanks : List Bool) :
    latch [mark] blanks = Text.spaces (blanks.takeWhile id).length ++
      List.replicate (blanks.length - (blanks.takeWhile id).length) mark := by
  simp [latch]

/-- The markers of a marker line are one run, which begins at the first column of the span that is
not blank and ends with the span. -/
theorem getElem?_marksText_iff {f : Formatter} {mark : Char} (hm : f.marker = [mark])
    (hsp : mark ≠ ' ') (g : Gutter) (span : Span) (n : Int) (line : RenderedLine) (x : Nat) :
    (f.marksText g span n line)[f.settings.margin.length + g.extent + x]? = some mark ↔
      (span.firstColumn n line).toNat +
        ((line.blanks (span.firstColumn n line).toNat
          (span.endColumn n line - span.firstColumn n line).toNat).takeWhile id).length ≤ x ∧
      x < (span.firstColumn n line).toNat +
        (span.endColumn n line - span.firstColumn n line).toNat := by
  set first := (span.firstColumn n line).toNat with hfirst
  set count := (span.endColumn n line - span.firstColumn n line).toNat with hcount
  set lead := ((line.blanks first count).takeWhile id).length with hlead
  have hlen := RenderedLine.length_blanks line first count
  have hle : lead ≤ count := by
    have h := ( List.takeWhile_prefix id (l := line.blanks first count)).length_le
    rwa [hlen] at h
  -- in front of the run stand the margin and spaces only
  have hdrawn : (f.settings.margin ++ Text.spaces g.extent ++
      Text.spaces (span.firstColumn n line) ++ latch f.marker
        (line.blanks first count))[f.settings.margin.length + g.extent + x]? = some mark ↔
        first + lead ≤ x ∧ x < first + count := by
    rw [hm, latch_singleton, hlen, ← hlead, List.append_assoc, List.append_assoc,
      ← List.append_assoc f.settings.margin, List.getElem?_append_right (by simp)]
    simp only [List.length_append, Text.length_spaces, Int.toNat_natCast, Nat.add_sub_cancel_left]
    simp only [Text.spaces, ← hfirst, ← List.append_assoc, List.replicate_append_replicate,
      Int.toNat_natCast]
    by_cases hx : x < first + lead
    · rw [List.getElem?_append_left (by simpa using hx), List.getElem?_replicate, if_pos hx]
      constructor
      · intro h
        exact absurd (Option.some.inj h).symm hsp
      · omega
    · rw [List.getElem?_append_right (by simpa using hx), List.getElem?_replicate,
        List.length_replicate]
      constructor
      · intro h
        split_ifs at h
        omega
      · intro h
        rw [if_pos (by omega)]
  unfold marksText
  dsimp only
  rw [← hfirst, ← hcount]
  split_ifs with hn
  · rw [Sequence.getElem?_dropTrailing_iff (by simpa using hsp)]
    exact hdrawn
  · exact hdrawn

theorem getElem?_marksText_of_visible {f : Formatter} {mark : Char} (hm : f.marker = [mark])
    (hsp : mark ≠ ' ') (g : Gutter) {span : Span} {n : Int} {line : RenderedLine}
    (hfirst : 0 ≤ span.firstColumn n line) {k : Nat} {c : Char} (hk : line.text[k]? = some c)
    (hc : isBlank c = false) :
    (f.marksText g span n line)[f.settings.margin.length + g.extent + k]? = some mark ↔
      span.firstColumn n line ≤ k ∧ (k : Int) < span.endColumn n line := by
  rw [getElem?_marksText_iff hm hsp]
  constructor
  · rintro ⟨hlo, hhi⟩
    omega
  · rintro ⟨hlo, hhi⟩
    -- the column of `c` is not blank, so the run has begun there at the latest
    have hi : k - (span.firstColumn n line).toNat <
        (span.endColumn n line - span.firstColumn n line).toNat := by omega
    have hb : (line.blanks (span.firstColumn n line).toNat
        _)[k - (span.firstColumn n line).toNat]? = _ := RenderedLine.getElem?_blanks line hi
    rw [Nat.add_sub_cancel' (by omega), hk, Option.any_some, hc] at hb
    have hlead := Sequence.length_takeWhile_le_of_getElem? (p := id) hb rfl
    omega

/-- The columns of a span on a line are those of the characters between its ends. -/
theorem columns_iff {span : Span} (hstop : span.stop.IsValid) {n : Nat} {size : Int}
    (ht : 0 < size) {text : Text} (hlo : span.start.line0 ≤ n) (hhi : (n : Int) ≤ span.stop.line0)
    {j k : Nat} (hj : j < (Line.trimRight text).length)
    (hk : Line.columnAt size (Line.trimRight text) j = k)
    (hlen : k < (RenderedLine.expanded size text).length) :
    (span.firstColumn n (RenderedLine.expanded size text) ≤ k ∧
      (k : Int) < span.endColumn n (RenderedLine.expanded size text)) ↔
      span.start ≤ ⟨(n : Int) + 1, j⟩ ∧ (⟨(n : Int) + 1, j⟩ : Position) ≤ span.stop := by
  have hfirst : span.firstColumn n (RenderedLine.expanded size text) ≤ k ↔
      ((n : Int) = span.start.line0 → span.start.column ≤ j) := by
    unfold Span.firstColumn
    split_ifs with hn
    · have h := Line.columnAt_le_columnAt_natCast_iff ht hj span.start.column
      rw [hk] at h
      exact h.trans ⟨fun hle _ => hle, fun hle => hle hn⟩
    · exact ⟨fun _ he => absurd he hn, fun _ => by omega⟩
  have hend : (k : Int) < span.endColumn n (RenderedLine.expanded size text) ↔
      ((n : Int) = span.stop.line0 → (j : Int) ≤ span.stop.column) := by
    unfold Span.endColumn
    split_ifs with hn hs
    · have h := Line.columnAt_le_columnAt_iff ht hj hstop.2
      rw [hk] at h
      exact Int.lt_add_one_iff.trans (h.trans ⟨fun hle _ => hle, fun hle => hle hn⟩)
    · exact ⟨fun _ he => absurd he hn, fun _ => by omega⟩
    · exact ⟨fun _ he => absurd he hn, fun _ => by omega⟩
  -- on the lines in between both conditions hold, as they do for the order of positions
  rw [hfirst, hend, Position.le_iff, Position.le_iff]
  unfold Position.line0 at *
  dsimp only
  omega

theorem firstColumn_nonneg (span : Span) (n : Int) {line : RenderedLine} (h : 0 < line.tabSize) :
    0 ≤ span.firstColumn n line := by
  unfold Span.firstColumn
  split_ifs
  · exact Line.columnAt_nonneg h line.raw span.start.column
  · exact le_rfl

theorem newline_not_mem_marksText {f : Formatter} {mark : Char} (hm : f.marker = [mark])
    (hnl : mark ≠ '\n') (hmargin : '\n' ∉ f.settings.margin) (g : Gutter) (span : Span) (n : Int)
    (line : RenderedLine) : '\n' ∉ f.marksText g span n line := by
  have hspaces (count : Int) : '\n' ∉ Text.spaces count := fun h =>
    absurd (List.eq_of_mem_replicate h) (by decide)
  have hlatch (blanks : List Bool) : '\n' ∉ latch f.marker blanks := by
    rw [hm, latch_singleton, List.mem_append, not_or]
    exact ⟨hspaces _, fun h => hnl (List.eq_of_mem_replicate h).symm⟩
  unfold marksText
  dsimp only
  split_ifs
  · intro h
    have hd := Sequence.mem_of_mem_dropTrailing h
    simp only [List.mem_append, hmargin, hspaces, hlatch, or_self] at hd
  · simp only [List.mem_append, hmargin, hspaces, hlatch, or_self, not_false_eq_true]

/-- No marker is drawn on a line exactly if the span covers only blanks of it. -/
theorem length_takeWhile_blanks_eq_iff {first : Int} (hfirst : 0 ≤ first) (bound : Int)
    (line : RenderedLine) :
    ((line.blanks first.toNat (bound - first).toNat).takeWhile id).length = (bound - first).toNat ↔
      ∀ x : Nat, first ≤ x → (x : Int) < bound → line.text[x]?.any isBlank = true := by
  have hlen := RenderedLine.length_blanks line first.toNat (bound - first).toNat
  nth_rewrite 2 [← hlen]
  rw [Sequence.length_takeWhile_eq_iff]
  constructor
  · intro h x hlo hhi
    -- column `x` is item `x - first` of the columns that were looked at
    have hb : (line.blanks first.toNat (bound - first).toNat)[x - first.toNat]? = _ :=
      RenderedLine.getElem?_blanks line (by omega)
    rw [Nat.add_sub_cancel' (by omega)] at hb
    exact h _ (List.mem_of_getElem? hb)
  · intro h b hb
    obtain ⟨i, hi⟩ := List.mem_iff_getElem?.mp hb
    obtain ⟨hlt, -⟩ := List.getElem?_eq_some_iff.mp hi
    rw [hlen] at hlt
    rw [RenderedLine.getElem?_blanks line hlt, Option.some.injEq] at hi
    rw [← hi]
    exact h (first.toNat + i) (by omega) (by omega)

end Formatter

namespace Row

/-- The lines of a row as they appear in a snippet. -/
def lines (row : Row) : List Text :=
  row.source :: row.marks.toList

theorem text_eq (row : Row) : row.text = row.lines.flatMap (· ++ ['\n']) := by
  unfold text lines
  cases row.marks <;> simp

theorem splitOn_flatMap_text {rows : List Row} (h : ∀ row ∈ rows, ∀ l ∈ row.lines, '\n' ∉ l) :
    (rows.flatMap text).splitOn '\n' = rows.flatMap lines ++ [[]] := by
  have hlines (ls : List Text) (hls : ∀ l ∈ ls, '\n' ∉ l) :
      (ls.flatMap (· ++ ['\n'])).splitOn '\n' = ls ++ [[]] := by
    induction ls with
    | nil => rfl
    | cons l ls ih =>
      rw [List.flatMap_cons, List.append_assoc, List.singleton_append,
        List.splitOn_append_cons_self_of_not_mem (hls l List.mem_cons_self),
        ih fun l' hl' => hls l' (List.mem_cons_of_mem l hl'), List.cons_append]
  have htext : rows.flatMap text = (rows.flatMap lines).flatMap (· ++ ['\n']) := by
    rw [List.flatMap_assoc]
    exact congrArg rows.flatMap (funext text_eq)
  rw [htext]
  apply hlines
  intro l hl
  obtain ⟨row, hrow, hmem⟩ := List.mem_flatMap.mp hl
  exact h row hrow l hmem

end Row

/-- A row marks exactly a span: it has a marker line if the span covers its line, the visible
characters of the line stand at their rendered columns behind the indent, a marker stands below such
a character exactly if the span covers it, and the markers are one run. -/
structure Row.MarksSpan (row : Row) (settings : Settings) (mark : Char) (indent : Nat)
    (span : Span) (line : Text) : Prop where
  marked_iff : row.marks.isSome = true ↔
    span.start.line0 ≤ row.index ∧ (row.index : Int) ≤ span.stop.line0 ∧
      ¬ (span.start.line0 < row.index ∧ (row.index : Int) < span.stop.line0 ∧
        (RenderedLine.expanded settings.tabSize line).text = [])
  character : ∀ (j : Nat) (c : Char), (Line.trimRight line)[j]? = some c → c ≠ '\t' →
    isBlank c = false → ∃ k : Nat,
      Line.renderedColumn settings.tabSize (Line.trimRight line) j = .ok (k : Int) ∧
      row.source[indent + k]? = some c ∧
      ∀ marks, row.marks = some marks → (marks[indent + k]? = some mark ↔
        span.start ≤ ⟨(row.index : Int) + 1, j⟩ ∧
          (⟨(row.index : Int) + 1, j⟩ : Position) ≤ span.stop)
  run : ∀ marks, row.marks = some marks → ∃ start count : Nat,
    (∀ x, marks[indent + x]? = some mark ↔ start ≤ x ∧ x < start + count) ∧
      (count = 0 ↔ ∀ x : Nat,
        span.firstColumn row.index (RenderedLine.expanded settings.tabSize line) ≤ x →
        (x : Int) < span.endColumn row.index (RenderedLine.expanded settings.tabSize line) →
        (RenderedLine.expanded settings.tabSize line).text[x]?.any isBlank = true)

namespace Row.Shows

open Formatter (standard hasMarks)

variable {settings : Settings} {g : Gutter} {span : Span} {p : Text × Nat} {row : Row} {mark : Char}

theorem marks_eq_some (h : row.Shows (standard settings) g span p) {marks : Text}
    (hm : row.marks = some marks) :
    hasMarks span p.2 (RenderedLine.expanded settings.tabSize p.1) = true ∧
      marks = (standard settings).marksText g span p.2
        (RenderedLine.expanded settings.tabSize p.1) := by
  have he := h.marks_eq
  rw [hm] at he
  split_ifs at he with hc
  exact ⟨hc, Option.some.inj he⟩

theorem isSome_marks (h : row.Shows (standard settings) g span p) :
    row.marks.isSome = hasMarks span p.2 (RenderedLine.expanded settings.tabSize p.1) := by
  rw [h.marks_eq]
  split_ifs with hc
  · exact hc.symm
  · exact (Bool.eq_false_iff.mpr hc).symm

theorem isSome_marks_iff (h : row.Shows (standard settings) g span p) :
    row.marks.isSome = true ↔
      span.start.line0 ≤ p.2 ∧ (p.2 : Int) ≤ span.stop.line0 ∧
        ¬ (span.start.line0 < p.2 ∧ (p.2 : Int) < span.stop.line0 ∧
          (RenderedLine.expanded settings.tabSize p.1).text = []) := by
  rw [h.isSome_marks, hasMarks, decide_eq_true_iff, RenderedLine.length, List.length_eq_zero_iff]

theorem getElem?_source (h : row.Shows (standard settings) g span p) (ht : 0 < settings.tabSize)
    {j k : Nat} {c : Char} (hj : (Line.trimRight p.1)[j]? = some c) (hc : c ≠ '\t')
    (hk : Line.columnAt settings.tabSize (Line.trimRight p.1) j = k) :
    row.source[settings.margin.length + g.extent + k]? = some c := by
  obtain ⟨label, hlen, -, hsource⟩ := h.source_eq
  have hchar := Line.getElem?_expandFrom ht hj hc
  rw [hk, Int.toNat_natCast] at hchar
  change row.source = settings.margin ++ label ++ _ at hsource
  rw [hsource, ← hlen, ← List.length_append, List.getElem?_append_right (Nat.le_add_right _ _),
    Nat.add_sub_cancel_left]
  exact hchar

theorem getElem?_marks_iff (h : row.Shows (standard settings) g span p) (ht : 0 < settings.tabSize)
    (hm : settings.marker = [mark]) (hsp : mark ≠ ' ') (hstop : span.stop.IsValid) {j k : Nat}
    {c : Char} (hj : (Line.trimRight p.1)[j]? = some c) (hc : c ≠ '\t') (hb : isBlank c = false)
    (hk : Line.columnAt settings.tabSize (Line.trimRight p.1) j = k) {marks : Text}
    (hmarks : row.marks = some marks) :
    marks[settings.margin.length + g.extent + k]? = some mark ↔
      span.start ≤ ⟨(p.2 : Int) + 1, j⟩ ∧ (⟨(p.2 : Int) + 1, j⟩ : Position) ≤ span.stop := by
  obtain ⟨hhas, rfl⟩ := h.marks_eq_some hmarks
  obtain ⟨hlo, hhi, -⟩ := of_decide_eq_true hhas
  obtain ⟨hlt, -⟩ := List.getElem?_eq_some_iff.mp hj
  have hchar := Line.getElem?_expandFrom ht hj hc
  rw [hk, Int.toNat_natCast] at hchar
  obtain ⟨hlen, -⟩ := List.getElem?_eq_some_iff.mp hchar
  have hfirst := Formatter.firstColumn_nonneg span p.2
    (show 0 < (RenderedLine.expanded settings.tabSize p.1).tabSize from ht)
  rw [← Formatter.columns_iff hstop ht hlo hhi hlt hk hlen]
  exact Formatter.getElem?_marksText_of_visible hm hsp g hfirst hchar hb

theorem marksSpan (h : row.Shows (standard settings) g span p) (ht : 0 < settings.tabSize)
    (hm : settings.marker = [mark]) (hsp : mark ≠ ' ') (hstop : span.stop.IsValid) :
    row.MarksSpan settings mark (settings.margin.length + g.extent) span p.1 := by
  constructor
  · rw [h.index_eq]
    exact h.isSome_marks_iff
  · intro j c hj hc hb
    -- rendered columns of characters are natural numbers
    have hnn := Line.columnAt_nonneg ht (Line.trimRight p.1) j
    have hk : Line.columnAt settings.tabSize (Line.trimRight p.1) j =
        ((Line.columnAt settings.tabSize (Line.trimRight p.1) j).toNat : Int) := by omega
    refine ⟨(Line.columnAt settings.tabSize (Line.trimRight p.1) j).toNat, ?_, ?_, ?_⟩
    · rw [← hk]
      exact Line.renderedColumn_eq_ok ht (Line.trimRight p.1) j
    · exact h.getElem?_source ht hj hc hk
    · intro marks hmarks
      rw [h.index_eq]
      exact h.getElem?_marks_iff ht hm hsp hstop hj hc hb hk hmarks
  · intro marks hmarks
    obtain ⟨-, rfl⟩ := h.marks_eq_some hmarks
    rw [h.index_eq]
    set line := RenderedLine.expanded settings.tabSize p.1
    have hfirst := Formatter.firstColumn_nonneg span p.2 (show 0 < line.tabSize from ht)
    have hall := Formatter.length_takeWhile_blanks_eq_iff hfirst (span.endColumn p.2 line) line
    have hrun := Formatter.getElem?_marksText_iff
      (show (standard settings).marker = [mark] from hm) hsp g span p.2 line
    set first := (span.firstColumn p.2 line).toNat
    set count := (span.endColumn p.2 line - span.firstColumn p.2 line).toNat
    have hle := ( List.takeWhile_prefix id (l := line.blanks first count)).length_le
    rw [RenderedLine.length_blanks] at hle
    -- the run is what remains of the covered columns behind the blanks in front
    set lead := ((line.blanks first count).takeWhile id).length
    refine ⟨first + lead, count - lead, fun x => (hrun x).trans ?_, ?_⟩
    · omega
    · rw [← hall]
      omega

theorem newline_not_mem_source (h : row.Shows (standard settings) g span p)
    (hmargin : '\n' ∉ settings.margin) (hp : '\n' ∉ p.1) : '\n' ∉ row.source := by
  obtain ⟨label, -, hlabel, hsource⟩ := h.source_eq
  have htext : '\n' ∉ (RenderedLine.expanded settings.tabSize p.1).text :=
    Line.not_mem_expandFrom (by decide) fun hr => hp (Sequence.mem_of_mem_dropTrailing hr)
  rw [hsource, List.mem_append, List.mem_append, not_or, not_or]
  exact ⟨⟨hmargin, hlabel⟩, htext⟩

theorem newline_not_mem_lines (h : row.Shows (standard settings) g span p)
    (hm : settings.marker = [mark]) (hnl : mark ≠ '\n') (hmargin : '\n' ∉ settings.margin)
    (hp : '\n' ∉ p.1) : ∀ l ∈ row.lines, '\n' ∉ l := by
  intro l hl
  rcases List.mem_cons.mp hl with rfl | hmarks
  · exact h.newline_not_mem_source hmargin hp
  · obtain ⟨-, rfl⟩ := h.marks_eq_some (Option.mem_toList.mp hmarks)
    exact Formatter.newline_not_mem_marksText hm hnl hmargin g span p.2 _

theorem map_index {ps : List (Text × Nat)} {rows : List Row}
    (h : List.Forall₂ (Row.Shows (standard settings) g span) ps rows) :
    rows.map Row.index = ps.map Prod.snd := by
  induction h with
  | nil => rfl
  | cons hr _ ih => rw [List.map_cons, List.map_cons, hr.index_eq, ih]

end Row.Shows

namespace Formatter

variable {settings : Settings} {span : Span} {source : Text} {mark : Char}

theorem map_snd_shownLines (f : Formatter) (span : Span) (source : Text) :
    (f.shownLines span source).map Prod.snd =
      List.range' (f.firstShown span).toNat
        (f.lastShown span source + 1 - f.firstShown span).toNat := by
  have hlast := lastShown_lt_length f span source
  have hfirst : 0 ≤ f.firstShown span := le_max_right _ _
  unfold shownLines
  dsimp only
  -- the last line shown is a line of the document, so `take` is never short
  rw [List.map_take, List.map_drop, List.zipIdx_map_snd, List.drop_range',
    List.take_range'_of_length_ge (by omega), Nat.zero_add, Nat.mul_one]

/-- The rows of a snippet: their lines are the lines of its text, they show the lines around the
span one after the other, and each of them marks the span. -/
structure Draws (settings : Settings) (mark : Char) (indent : Nat) (span : Span)
    (source text : Text) (rows : List Row) : Prop where
  splitOn_eq : text.splitOn '\n' = rows.flatMap Row.lines ++ [[]]
  indexes : rows.map Row.index =
    List.range' ((standard settings).firstShown span).toNat
      ((standard settings).lastShown span source + 1 -
        (standard settings).firstShown span).toNat
  marksSpan : ∀ row ∈ rows, ∃ line, (Line.pieces source)[row.index]? = some line ∧
    row.MarksSpan settings mark indent span line

theorem draws_of_shows (hv : settings.Valid) (hm : settings.marker = [mark]) (hsp : mark ≠ ' ')
    (hnl : mark ≠ '\n') (hstop : span.stop.IsValid) {g : Gutter} {rows : List Row}
    (h : List.Forall₂ (Row.Shows (standard settings) g span)
      ((standard settings).shownLines span source) rows) :
    Draws settings mark (settings.margin.length + g.extent) span source (rows.flatMap Row.text)
      rows := by
  have hshows (row : Row) (hrow : row ∈ rows) :
      ∃ p, (Line.pieces source)[p.2]? = some p.1 ∧ row.Shows (standard settings) g span p := by
    obtain ⟨p, hp, hr⟩ := Outcome.exists_mem_of_forall₂ h hrow
    exact ⟨p, getElem?_documentLines (mem_shownLines.mp hp).1, hr⟩
  constructor
  · apply Row.splitOn_flatMap_text
    intro row hrow
    obtain ⟨p, hp, hr⟩ := hshows row hrow
    exact hr.newline_not_mem_lines hm hnl hv.margin_unbroken.1
      (Line.newline_not_mem_pieces source p.1 (List.mem_of_getElem? hp))
  · rw [← map_snd_shownLines]
    exact Row.Shows.map_index h
  · intro row hrow
    obtain ⟨p, hp, hr⟩ := hshows row hrow
    rw [← hr.index_eq] at hp
    exact ⟨p.1, hp, hr.marksSpan hv.tabSize_pos hm hsp hstop⟩

theorem exists_draws_render [Memory] {resolved : Span} (hv : settings.Valid)
    (hm : settings.marker = [mark])
    (hsp : mark ≠ ' ') (hnl : mark ≠ '\n') (hr : span.normalized = some resolved)
    (hs : source.length < Text.wordBound) (hf : (standard settings).Fits resolved source) :
    ∃ text rows, (∀ cause, (standard settings).render span source cause = .ok text) ∧
      Draws settings mark
        (settings.margin.length + ((standard settings).shownGutter resolved source).extent)
        resolved source text rows := by
  obtain ⟨-, hstop, -⟩ := Span.isValid_of_normalized hr
  obtain ⟨rows, hshows, htext⟩ := render_of_fits hv hr hs hf
  exact ⟨rows.flatMap Row.text, rows, htext, draws_of_shows hv hm hsp hnl hstop hshows⟩

/-- A snippet marks exactly its span, unless a run of spaces in it cannot be written. -/
theorem render_marks_span [Memory] {resolved : Span} (hv : settings.Valid)
    (hm : settings.marker = [mark])
    (hsp : mark ≠ ' ') (hnl : mark ≠ '\n') (hr : span.normalized = some resolved)
    (hs : source.length < Text.wordBound) :
    ((standard settings).Fits resolved source → ∃ extent text rows,
      ((standard settings).shownGutter resolved source).length = .ok extent ∧
      (∀ cause, (standard settings).render span source cause = .ok text) ∧
      Draws settings mark (settings.margin.length + extent) resolved source text rows) ∧
    (¬ (standard settings).Fits resolved source →
      ∃ e, ∀ cause, (standard settings).render span source cause = .error (.line (.spaces e))) := by
  refine ⟨fun hf => ?_, render_of_not_fits hv hr hs⟩
  obtain ⟨text, rows, htext, hdraws⟩ := exists_draws_render hv hm hsp hnl hr hs hf
  have hlen := Gutter.length_forDocument (documentLines source resolved.stop.line0).length
    (digitWidth_lastShown (standard settings) resolved hs)
  exact ⟨_, text, rows, hlen, htext, hdraws⟩

theorem render_marks_span_default :
    ({} : Settings).Valid ∧ (standard {}).Fits ⟨⟨1, 1⟩, ⟨1, 2⟩⟩ "a\tb c".toList ∧
      ∃ extent text rows,
        ((standard {}).shownGutter ⟨⟨1, 1⟩, ⟨1, 2⟩⟩ "a\tb c".toList).length = .ok extent ∧
        (∀ cause, (standard {}).render ⟨⟨1, 1⟩, ⟨1, 2⟩⟩ "a\tb c".toList cause = .ok text) ∧
        Draws {} '^' ([' '].length + extent) ⟨⟨1, 1⟩, ⟨1, 2⟩⟩ "a\tb c".toList text rows := by
  have hf : (standard {}).Fits ⟨⟨1, 1⟩, ⟨1, 2⟩⟩ "a\tb c".toList :=
    fits_of_le Settings.valid_default (by decide) (by decide) (by decide) _
  refine ⟨Settings.valid_default, hf, ?_⟩
  exact (render_marks_span Settings.valid_default rfl (by decide) (by decide) (by decide)
    (by decide)).1 hf

/-- A tab that is wider than a machine word cannot be expanded. -/
theorem render_tab_not_a_word :
    ({ tabSize := Text.wordBound } : Settings).Valid ∧
      ({ tabSize := Text.wordBound } : Settings).marker = ['^'] ∧
      (⟨⟨1, 1⟩, ⟨1, 1⟩⟩ : Span).normalized = some ⟨⟨1, 1⟩, ⟨1, 1⟩⟩ ∧
      (standard { tabSize := Text.wordBound }).render ⟨⟨1, 1⟩, ⟨1, 1⟩⟩ "\tx".toList none =
        .error (.line (.spaces .notAWord)) := by
  refine ⟨⟨?_, ?_, ?_, ?_, ?_⟩, ?_, ?_, ?_⟩
  all_goals decide +kernel

end Formatter

end SyntaxReport
