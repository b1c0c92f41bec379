import Mathlib.Tactic.SplitIfs
import SyntaxReport.Proofs.Line.Columns
import SyntaxReport.Proofs.Line.Pieces
import SyntaxReport.Proofs.Snippet.Gutter

/-! When a snippet can be drawn. Of the steps that may fail, the gutter fits every source whose
length is a machine word, every column is in range and tab sizes of valid settings are positive;
only runs of spaces remain, for tabs and in front of the first marker, and they fail exactly if they
are longer than a text can be. -/
namespace SyntaxReport

namespace Line

/-- Tabs can be expanded exactly if each of them spans no more columns than there is room for. -/
theorem tabError?_eq_none_iff [Memory] {size : Int} (h : 0 < size) (p : Int) (raw : Text) :
    tabError? size p raw = none ↔ ∀ j, raw[j]? = some '\t' →
      tabWidth size (advance size p (raw.take j)) ≤ Memory.maxRun := by
  induction raw generalizing p with
  | nil => simp [tabError?]
  | cons c rest ih =>
    -- the condition at index zero is about `c`, the conditions behind it are about `rest`
    have hsplit (Q : Nat → Prop) : (∀ j, (c :: rest)[j]? = some '\t' → Q j) ↔
        (c = '\t' → Q 0) ∧ ∀ j, rest[j]? = some '\t' → Q (j + 1) := by
      constructor
      · intro hq
        refine ⟨fun hc => hq 0 (by rw [List.getElem?_cons_zero, hc]), fun j hj => ?_⟩
        exact hq (j + 1) (by rw [List.getElem?_cons_succ, hj])
      · rintro ⟨h0, hr⟩ j hj
        cases j with
        | zero => exact h0 (Option.some.inj hj)
        | succ j => exact hr j hj
    rw [hsplit]
    by_cases hc : c = '\t'
    · have hpos := tabWidth_pos h p
      simp only [tabError?, hc, if_true, List.take_zero, List.take_succ_cons, advance, nextStop_eq,
        true_implies]
      rw [← ih]
      by_cases hw : tabWidth size p ≤ Memory.maxRun
      · have hn : Text.countError? (tabWidth size p) = none :=
          Text.countError?_of_le (by omega) hw
        simp only [hn, hw, true_and]
      · obtain ⟨e, he⟩ := Text.exists_countError?_of_lt (lt_of_not_ge hw)
        simp only [he, hw, false_and, reduceCtorEq]
    · simp only [tabError?, hc, if_false, List.take_succ_cons, advance, false_implies, true_and]
      exact ih (p + 1)

end Line

namespace RenderedLine

/-- A line as it is shown, if its tabs can be expanded. -/
def expanded (size : Int) (line : Text) : RenderedLine where
  raw := Line.trimRight line
  text := Line.expandFrom size 0 (Line.trimRight line)
  tabSize := size

theorem ofLine_of_tabError? [Memory] {size : Int} (h : 0 < size) (line : Text) :
    ofLine size line = match Line.tabError? size 0 (Line.trimRight line) with
      | some e => .error (.spaces e)
      | none => .ok (expanded size line) := by
  have hz : ¬ (size = 0 ∧ '\t' ∈ Line.trimRight line) := fun hz => absurd hz.1 (by omega)
  simp only [ofLine, Line.expandTabs]
  rw [if_neg hz]
  cases Line.tabError? size 0 (Line.trimRight line) <;> rfl

end RenderedLine

namespace Span

/-- The first rendered column of line `n` that the span covers. -/
def firstColumn (span : Span) (n : Int) (line : RenderedLine) : Int :=
  if n = span.start.line0 then Line.columnAt line.tabSize line.raw span.start.column else 0

/-- The rendered column behind the last one of line `n` that the span covers. -/
def endColumn (span : Span) (n : Int) (line : RenderedLine) : Int :=
  if n = span.stop.line0 then Line.columnAt line.tabSize line.raw span.stop.column + 1
  else if n = span.start.line0 then max (span.firstColumn n line + 1) line.length
  else line.length

end Span

namespace Formatter

theorem markedColumns_eq_ok (span : Span) (n : Int) {line : RenderedLine} (h : 0 < line.tabSize) :
    markedColumns span n line = .ok (span.firstColumn n line, span.endColumn n line) := by
  unfold markedColumns Span.endColumn Span.firstColumn RenderedLine.column
  simp only [Line.renderedColumn_eq_ok h, Outcome.ok_bind, Outcome.pure_eq_ok]
  split_ifs <;> rfl

/-- The marker line below line `n`, if the spaces in front of the markers can be written. -/
def marksText (f : Formatter) (g : Gutter) (span : Span) (n : Int) (line : RenderedLine) : Text :=
  let first := span.firstColumn n line
  let drawn := f.settings.margin ++ Text.spaces g.extent ++ Text.spaces first ++
    latch f.marker (line.blanks first.toNat (span.endColumn n line - first).toNat)
  if n < span.stop.line0 then Sequence.dropTrailing (· == ' ') drawn else drawn

theorem marks_eq [Memory] (f : Formatter) {g : Gutter} (hg : g.blank = .ok (Text.spaces g.extent))
    (span : Span) (n : Int) {line : RenderedLine} (h : 0 < line.tabSize) :
    f.marks g span n line = match Text.countError? (span.firstColumn n line) with
      | some e => .error (.line (.spaces e))
      | none => .ok (f.marksText g span n line) := by
  unfold marks
  rw [markedColumns_eq_ok span n h, Outcome.mapError_ok, Outcome.ok_bind]
  dsimp only
  rw [hg, Outcome.mapError_ok, Outcome.ok_bind, Text.spaces?]
  cases Text.countError? (span.firstColumn n line) <;> rfl

end Formatter

/-- How a row shows line `p.2` of a document, whose text is `p.1`. -/
structure Row.Shows (f : Formatter) (g : Gutter) (span : Span) (p : Text × Nat) (row : Row) :
    Prop where
  index_eq : row.index = p.2
  source_eq : ∃ label, label.length = g.extent ∧ '\n' ∉ label ∧ row.source =
    f.settings.margin ++ label ++ (RenderedLine.expanded f.settings.tabSize p.1).text
  marks_eq : row.marks =
    if Formatter.hasMarks span p.2 (RenderedLine.expanded f.settings.tabSize p.1) then
      some (f.marksText g span p.2 (RenderedLine.expanded f.settings.tabSize p.1))
    else none

namespace Formatter

variable {f : Formatter} {g : Gutter} {span : Span}

theorem hasMarks_start (hle : span.start ≤ span.stop) (line : RenderedLine) :
    hasMarks span span.start.line0 line = true := by
  have hl := (Position.le_iff _ _).mp hle
  unfold hasMarks Position.line0
  exact decide_eq_true (by omega)

theorem mem_shownLines {p : Text × Nat} {source : Text} :
    p ∈ f.shownLines span source ↔
      (documentLines source span.stop.line0)[p.2]? = some p.1 ∧
        f.firstShown span ≤ p.2 ∧ (p.2 : Int) ≤ f.lastShown span source := by
  have hfirst : 0 ≤ f.firstShown span := le_max_right _ _
  unfold shownLines
  dsimp only
  rw [List.mem_iff_getElem?]
  simp only [List.getElem?_take, List.getElem?_drop, List.getElem?_zipIdx]
  constructor
  · rintro ⟨i, hi⟩
    split_ifs at hi with hlt
    obtain ⟨line, hline, rfl⟩ := Option.map_eq_some_iff.mp hi
    refine ⟨by simpa using hline, ?_, ?_⟩
    · dsimp only
      omega
    · dsimp only
      omega
  · rintro ⟨hline, hlo, hhi⟩
    refine ⟨p.2 - (f.firstShown span).toNat, ?_⟩
    have he : (f.firstShown span).toNat + (p.2 - (f.firstShown span).toNat) = p.2 := by omega
    rw [if_pos (by omega), he, hline]
    simp

theorem lastShown_lt_length (f : Formatter) (span : Span) (source : Text) :
    f.lastShown span source < (documentLines source span.stop.line0).length := by
  have hle : f.lastShown span source ≤ (documentLines source span.stop.line0).length - 1 :=
    min_le_right _ _
  omega

section

variable [Memory]

/-- The runs of spaces that line `p.2` needs, whose text is `p.1`, can be written: each tab, and on
the start line the spaces in front of the first marker. -/
structure LineFits (f : Formatter) (span : Span) (p : Text × Nat) : Prop where
  tabs : ∀ j, (Line.trimRight p.1)[j]? = some '\t' →
    Line.tabWidth f.settings.tabSize
      (Line.advance f.settings.tabSize 0 ((Line.trimRight p.1).take j)) ≤ Memory.maxRun
  lead : (p.2 : Int) = span.start.line0 →
    Line.columnAt f.settings.tabSize (Line.trimRight p.1) span.start.column ≤ Memory.maxRun

/-- The runs of spaces that a snippet needs can be written. -/
def Fits (f : Formatter) (span : Span) (source : Text) : Prop :=
  ∀ p ∈ f.shownLines span source, f.LineFits span p

theorem countError?_firstColumn (ht : 0 < f.settings.tabSize) {p : Text × Nat}
    (hp : f.LineFits span p) :
    Text.countError? (span.firstColumn p.2 (RenderedLine.expanded f.settings.tabSize p.1)) =
      none := by
  unfold Span.firstColumn
  split_ifs with hn
  · exact Text.countError?_of_le (Line.columnAt_nonneg ht _ _) (hp.lead hn)
  · exact Text.countError?_of_le le_rfl Memory.maxRun_nonneg

theorem row_of_lineFits (ht : 0 < f.settings.tabSize)
    (hg : g.blank = .ok (Text.spaces g.extent)) {p : Text × Nat}
    (hl : ∃ label, g.label ((p.2 : Int) + 1) = .ok label ∧ label.length = g.extent ∧ '\n' ∉ label)
    (hp : f.LineFits span p) : ∃ row, f.row g span p.1 p.2 = .ok row ∧ row.Shows f g span p := by
  obtain ⟨label, hlabel, hlen, hnl⟩ := hl
  have htabs := (Line.tabError?_eq_none_iff ht 0 (Line.trimRight p.1)).mpr hp.tabs
  have hmarks := marks_eq f hg span p.2
    (show 0 < (RenderedLine.expanded f.settings.tabSize p.1).tabSize from ht)
  rw [countError?_firstColumn ht hp] at hmarks
  unfold row
  rw [RenderedLine.ofLine_of_tabError? ht, htabs]
  simp only [Outcome.mapError_ok, Outcome.ok_bind, hlabel, hmarks, Outcome.pure_eq_ok]
  split_ifs with hm
  · exact ⟨_, rfl, rfl, ⟨label, hlen, hnl, rfl⟩, by rw [if_pos hm]⟩
  · exact ⟨_, rfl, rfl, ⟨label, hlen, hnl, rfl⟩, by rw [if_neg hm]⟩

/-- A line that cannot be shown fails for a run of spaces and for nothing else. -/
theorem row_of_not_lineFits (ht : 0 < f.settings.tabSize) (hle : span.start ≤ span.stop)
    (hg : g.blank = .ok (Text.spaces g.extent)) {p : Text × Nat}
    (hl : ∃ label, g.label ((p.2 : Int) + 1) = .ok label ∧ label.length = g.extent ∧ '\n' ∉ label)
    (hp : ¬ f.LineFits span p) : ∃ e, f.row g span p.1 p.2 = .error (.line (.spaces e)) := by
  obtain ⟨label, hlabel, -, -⟩ := hl
  unfold row
  rw [RenderedLine.ofLine_of_tabError? ht]
  cases htabs : Line.tabError? f.settings.tabSize 0 (Line.trimRight p.1) with
  | some e =>
    refine ⟨e, ?_⟩
    simp only [Outcome.mapError_error, Outcome.error_bind]
  | none =>
    -- the tabs can be written, so it is the spaces in front of the markers that cannot
    have hlead : (p.2 : Int) = span.start.line0 ∧ Memory.maxRun <
        Line.columnAt f.settings.tabSize (Line.trimRight p.1) span.start.column := by
      by_contra hno
      refine hp ⟨(Line.tabError?_eq_none_iff ht 0 _).mp htabs, fun hn => ?_⟩
      by_contra hgt
      exact hno ⟨hn, lt_of_not_ge hgt⟩
    obtain ⟨hn, hgt⟩ := hlead
    obtain ⟨e, he⟩ := Text.exists_countError?_of_lt hgt
    have hmarks := marks_eq f hg span p.2
      (show 0 < (RenderedLine.expanded f.settings.tabSize p.1).tabSize from ht)
    have hfirst : span.firstColumn p.2 (RenderedLine.expanded f.settings.tabSize p.1) =
        Line.columnAt f.settings.tabSize (Line.trimRight p.1) span.start.column := by
      rw [Span.firstColumn, if_pos hn]
      rfl
    rw [hfirst, he] at hmarks
    refine ⟨e, ?_⟩
    -- the start line always has a marker line, so these spaces are needed
    have hm := hasMarks_start hle (RenderedLine.expanded f.settings.tabSize p.1)
    rw [← hn] at hm
    simp only [Outcome.mapError_ok, Outcome.ok_bind, hlabel, hm, if_true, hmarks,
      Outcome.error_bind]

theorem digitWidth_lastShown (f : Formatter) (span : Span) {source : Text}
    (hs : source.length < Text.wordBound) :
    (Text.digitWidth (f.lastShown span source + 1) : Int) + 2 ≤ Memory.maxRun := by
  have hlast := lastShown_lt_length f span source
  have hlines := length_documentLines_le source span.stop.line0
  have hbreaks : Line.countBreaks source ≤ source.length := List.count_le_length
  -- no line number has more digits than a machine word
  have hw : Text.digitWidth (f.lastShown span source + 1) ≤ 20 := by
    apply Text.digitCount_le_of_lt_pow (by decide)
    change _ < 100000000000000000000
    unfold Text.wordBound at hs
    omega
  have hroomy := Memory.roomy
  omega

variable {settings : Settings} {source : Text}

theorem exists_label_shownGutter (hs : source.length < Text.wordBound) {p : Text × Nat}
    (hp : p ∈ (standard settings).shownLines span source) :
    ∃ label, ((standard settings).shownGutter span source).label ((p.2 : Int) + 1) = .ok label ∧
      label.length = ((standard settings).shownGutter span source).extent ∧ '\n' ∉ label := by
  obtain ⟨-, -, hlast⟩ := mem_shownLines.mp hp
  have hn : ((p.2 + 1 : Nat) : Int) ≤ (standard settings).lastShown span source + 1 := by omega
  exact Gutter.exists_label_forDocument _ hn (digitWidth_lastShown _ span hs)

theorem blank_shownGutter (hs : source.length < Text.wordBound) :
    ((standard settings).shownGutter span source).blank =
      .ok (Text.spaces ((standard settings).shownGutter span source).extent) :=
  Gutter.blank_forDocument _ (digitWidth_lastShown _ span hs)

theorem rows_of_fits (ht : 0 < settings.tabSize) (hs : source.length < Text.wordBound)
    (hf : (standard settings).Fits span source) :
    ∃ rows, (standard settings).rows span source = .ok rows ∧
      List.Forall₂
        (Row.Shows (standard settings) ((standard settings).shownGutter span source) span)
        ((standard settings).shownLines span source) rows :=
  Outcome.exists_mapM_ok fun p hp =>
    row_of_lineFits ht (blank_shownGutter hs) (exists_label_shownGutter hs hp) (hf p hp)

theorem rows_of_not_fits (ht : 0 < settings.tabSize) (hle : span.start ≤ span.stop)
    (hs : source.length < Text.wordBound) (hf : ¬ (standard settings).Fits span source) :
    ∃ e, (standard settings).rows span source = .error (.line (.spaces e)) := by
  -- a row that fits succeeds, so every failure is that of a line which does not fit
  have hq (p : Text × Nat) (hp : p ∈ (standard settings).shownLines span source) (e : RenderError)
      (he : (standard settings).row ((standard settings).shownGutter span source) span p.1 p.2 =
        .error e) : ∃ cause, e = .line (.spaces cause) := by
    by_cases hfit : (standard settings).LineFits span p
    · obtain ⟨row, hrow, -⟩ :=
        row_of_lineFits ht (blank_shownGutter hs) (exists_label_shownGutter hs hp) hfit
      rw [hrow] at he
      cases he
    · obtain ⟨cause, hc⟩ :=
        row_of_not_lineFits ht hle (blank_shownGutter hs) (exists_label_shownGutter hs hp) hfit
      rw [hc] at he
      cases he
      exact ⟨cause, rfl⟩
  have hbad : ∃ p ∈ (standard settings).shownLines span source, ∃ e,
      (standard settings).row ((standard settings).shownGutter span source) span p.1 p.2 =
        .error e := by
    by_contra hno
    refine hf fun p hp => ?_
    by_contra hfit
    obtain ⟨cause, hc⟩ :=
      row_of_not_lineFits ht hle (blank_shownGutter hs) (exists_label_shownGutter hs hp) hfit
    exact hno ⟨p, hp, _, hc⟩
  obtain ⟨e, he, cause, rfl⟩ := Outcome.exists_mapM_error hq hbad
  exact ⟨cause, he⟩

theorem fits_of_le (hv : settings.Valid) (hc : 0 ≤ span.start.column)
    (ht : settings.tabSize ≤ Memory.maxRun)
    (hm : span.start.column * settings.tabSize ≤ Memory.maxRun) (source : Text) :
    (standard settings).Fits span source := by
  have hpos : 0 < settings.tabSize := hv.tabSize_pos
  intro p _
  refine ⟨fun j _ => ?_, fun _ => ?_⟩
  · exact (Line.tabWidth_le hpos _).trans ht
  · exact (Line.columnAt_le_mul hpos _ hc).trans hm

/-- What is answered for a span, whatever the cause: without a valid end the text of the cause, and
otherwise rows of the document, unless a run of spaces cannot be written. -/
structure Answers (settings : Settings) (span : Span) (source : Text)
    (answer : Option Failure → Except RenderError Text) : Prop where
  missing : ¬ span.start.IsValid → ¬ span.stop.IsValid →
    ∀ cause, answer cause = .ok (cause.elim [] Failure.text)
  located : span.start.IsValid ∨ span.stop.IsValid → ∃ resolved,
    span.normalized = some resolved ∧
      ((standard settings).Fits resolved source → ∃ rows,
        List.Forall₂ (Row.Shows (standard settings)
          ((standard settings).shownGutter resolved source) resolved)
          ((standard settings).shownLines resolved source) rows ∧
        ∀ cause, answer cause = .ok (rows.flatMap Row.text)) ∧
      (¬ (standard settings).Fits resolved source →
        ∃ e, ∀ cause, answer cause = .error (.line (.spaces e)))

theorem render_of_normalized {resolved : Span}
    (h : span.normalized = some resolved) (cause : Option Failure) :
    f.render span source cause =
      (f.rows resolved source).map fun rows => rows.flatMap Row.text := by
  rw [render, h]

theorem render_of_fits {resolved : Span} (hv : settings.Valid)
    (hr : span.normalized = some resolved) (hs : source.length < Text.wordBound)
    (hf : (standard settings).Fits resolved source) :
    ∃ rows, List.Forall₂ (Row.Shows (standard settings)
        ((standard settings).shownGutter resolved source) resolved)
        ((standard settings).shownLines resolved source) rows ∧
      ∀ cause, (standard settings).render span source cause = .ok (rows.flatMap Row.text) := by
  obtain ⟨rows, hrows, hshows⟩ := rows_of_fits hv.tabSize_pos hs hf
  refine ⟨rows, hshows, fun cause => ?_⟩
  rw [render_of_normalized hr, hrows, Outcome.map_ok]

theorem render_of_not_fits {resolved : Span} (hv : settings.Valid)
    (hr : span.normalized = some resolved) (hs : source.length < Text.wordBound)
    (hf : ¬ (standard settings).Fits resolved source) :
    ∃ e, ∀ cause, (standard settings).render span source cause = .error (.line (.spaces e)) := by
  obtain ⟨-, -, hle⟩ := Span.isValid_of_normalized hr
  obtain ⟨e, he⟩ := rows_of_not_fits hv.tabSize_pos hle hs hf
  refine ⟨e, fun cause => ?_⟩
  rw [render_of_normalized hr, he, Outcome.map_error]

theorem answers_render (hv : settings.Valid) (span : Span) (hs : source.length < Text.wordBound) :
    Answers settings span source fun cause => (standard settings).render span source cause := by
  constructor
  · intro hstart hstop cause
    have hn := (Span.normalized_eq_none_iff span).mpr ⟨hstart, hstop⟩
    rw [render, hn]
    rfl
  · intro hvalid
    obtain ⟨resolved, hr⟩ : ∃ resolved, span.normalized = some resolved := by
      cases hn : span.normalized with
      | some resolved => exact ⟨resolved, rfl⟩
      | none =>
        have hboth := (Span.normalized_eq_none_iff span).mp hn
        exact absurd hvalid (not_or.mpr hboth)
    exact ⟨resolved, hr, render_of_fits hv hr hs, render_of_not_fits hv hr hs⟩

/-- Drawing a snippet fails for runs of spaces that are too long and for nothing else, for every
span and for every pair of tokens. With tab stops and a start column of moderate size there are
none. -/
theorem render_and_format_answer (hv : settings.Valid) (hs : source.length < Text.wordBound) :
    (∀ span : Span,
      Answers settings span source fun cause => (standard settings).render span source cause) ∧
    (∀ start stop : Token, Answers settings (.ofTokens start stop source) source fun cause =>
      (standard settings).format start stop source cause) ∧
    ∀ span : Span, 0 ≤ span.start.column → settings.tabSize ≤ Memory.maxRun →
      span.start.column * settings.tabSize ≤ Memory.maxRun →
      (standard settings).Fits span source := by
  refine ⟨fun span => answers_render hv span hs, fun start stop => ?_, fun span hc ht hm => ?_⟩
  · exact answers_render hv (.ofTokens start stop source) hs
  · exact fits_of_le hv hc ht hm source

end

/-- Without a valid end there is the text of the cause, and with a valid start the line is drawn,
whatever the cause. -/
theorem render_and_format_answer_default :
    ({} : Settings).Valid ∧ "a\tb\n".toList.length < Text.wordBound ∧
      (∀ cause, (standard {}).render ⟨⟨-3, 7⟩, ⟨Text.wordBound, -1⟩⟩ "a\tb\n".toList cause =
        .ok (cause.elim [] Failure.text)) ∧
      (standard {}).Fits ⟨⟨1, 2⟩, ⟨1, 2⟩⟩ "a\tb\n".toList ∧
      ∀ cause, (standard {}).render ⟨⟨1, 2⟩, ⟨0, 0⟩⟩ "a\tb\n".toList cause =
        .ok " a       b\n         ^\n".toList := by
  have hs : "a\tb\n".toList.length < Text.wordBound := by decide
  obtain ⟨hrender, -, hfits⟩ := render_and_format_answer Settings.valid_default hs
  have hfit := hfits ⟨⟨1, 2⟩, ⟨1, 2⟩⟩ (by decide) (by decide) (by decide)
  refine ⟨Settings.valid_default, hs, (hrender _).missing (by decide) (by decide), hfit, ?_⟩
  obtain ⟨resolved, hresolved, hdrawn, -⟩ :=
    (hrender ⟨⟨1, 2⟩, ⟨0, 0⟩⟩).located (.inl (by decide))
  obtain rfl := Option.some.inj hresolved
  obtain ⟨rows, -, hrows⟩ := hdrawn hfit
  have htext : (standard {}).render ⟨⟨1, 2⟩, ⟨0, 0⟩⟩ "a\tb\n".toList none =
      .ok " a       b\n         ^\n".toList := by decide +kernel
  intro cause
  rw [hrows cause, ← hrows none, htext]

/-- A column that is no machine word cannot be reached by spaces. -/
theorem render_column_not_a_word :
    ({} : Settings).Valid ∧
      (standard {}).render ⟨⟨1, Text.wordBound⟩, ⟨1, Text.wordBound⟩⟩ "x".toList none =
        .error (.line (.spaces .notAWord)) :=
  ⟨Settings.valid_default, by decide +kernel⟩

end Formatter

end SyntaxReport
