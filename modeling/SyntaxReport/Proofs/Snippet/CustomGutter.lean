import SyntaxReport.Proofs.Snippet.Context

/-! Gutters of any width. A gutter that is too narrow for the last number that is shown is refused
at the first number that does not fit; every other gutter puts the text of all lines at one offset.
What else may fail is a run of spaces or of padding that there is no room for. -/
namespace SyntaxReport

theorem GutterError.message_tooWide (n : Nat) {width : Int} (h : Text.isWritable width = true) :
    (tooWide ((n : Int) + 1) width).message = "line number ".toList ++ Text.ofNat (n + 1) ++
      " does not fit a gutter of width ".toList ++ Text.ofInt width := by
  have hmessage : (tooWide ((n : Int) + 1) width).message =
      tooWideMessage (Text.ofInt (n + 1)) width := rfl
  have hdigits : Text.ofInt ((n : Int) + 1) = Text.ofNat (n + 1) := rfl
  -- `message` is not opened by its equations, which would evaluate the texts of all errors
  rw [hmessage, tooWideMessage, if_pos h, hdigits]

namespace Gutter

/-- The number of line `n`, counted from zero, has more digits than the gutter is wide. A gutter of
width zero shows no numbers. -/
def IsTooNarrow (g : Gutter) (n : Nat) : Prop :=
  g.width ≠ 0 ∧ g.width < (Text.ofNat (n + 1)).length

instance (g : Gutter) (n : Nat) : Decidable (g.IsTooNarrow n) :=
  inferInstanceAs (Decidable (_ ∧ _))

variable {g : Gutter} {n : Nat}

theorem IsTooNarrow.mono {m : Nat} (h : g.IsTooNarrow n) (hle : n ≤ m) : g.IsTooNarrow m := by
  have hlength : (Text.ofNat (n + 1)).length ≤ (Text.ofNat (m + 1)).length := by
    rw [← Text.digitCount_eq_length (m + 1)]
    exact Text.length_ofNat_le (by omega)
  obtain ⟨hzero, hlt⟩ := h
  exact ⟨hzero, by omega⟩

theorem label_of_isTooNarrow [Memory] (h : g.IsTooNarrow n) :
    g.label ((n : Int) + 1) = .error (.tooWide ((n : Int) + 1) g.width) := by
  have hdigits : Text.ofInt ((n : Int) + 1) = Text.ofNat (n + 1) := rfl
  unfold label padded
  rw [if_neg h.1, hdigits, if_pos h.2]

/-- A negative width is too narrow for every number. -/
theorem width_nonneg (h : ¬ g.IsTooNarrow n) : 0 ≤ g.width := by
  by_contra hneg
  exact h ⟨by omega, by omega⟩

/-- What is left to fail where the number fits is the padding. -/
theorem label_of_not_isTooNarrow [Memory] {c : Char} (hc : g.pad = [c]) (hzero : g.width ≠ 0)
    (h : ¬ g.IsTooNarrow n) :
    g.label ((n : Int) + 1) =
      if !Text.isWord g.width then .error .widthNotAWord
      else if Memory.maxRun < g.width then .error (.length .tooMany)
      else .ok (List.replicate (g.width - (Text.ofNat (n + 1)).length).toNat c ++
        Text.ofNat (n + 1) ++ g.suffix) := by
  have hdigits : Text.ofInt ((n : Int) + 1) = Text.ofNat (n + 1) := rfl
  have hfit : ¬ g.width < (Text.ofNat (n + 1)).length := fun hlt => h ⟨hzero, hlt⟩
  unfold label padded
  rw [if_neg hzero, hdigits, if_neg hfit, hc]

theorem exists_label [Memory] (hpad : g.pad.length = 1) (h : ¬ g.IsTooNarrow n)
    (hwidth : g.width ≤ Memory.maxRun) : ∃ label, g.label ((n : Int) + 1) = .ok label := by
  obtain ⟨c, hc⟩ := List.length_eq_one_iff.mp hpad
  by_cases hzero : g.width = 0
  · exact ⟨g.suffix, if_pos hzero⟩
  · have hword := Text.isWord_of_le (width_nonneg h) hwidth
    rw [label_of_not_isTooNarrow hc hzero h, hword, if_neg (by decide), if_neg (by omega)]
    exact ⟨_, rfl⟩

end Gutter

/-- The line that the row shows, as it is rendered, starts at an offset of the row. -/
def Row.TextStartsAt [Memory] (row : Row) (offset : Int) (settings : Settings) (source : Text) :
    Prop :=
  ∃ (piece : Text) (line : RenderedLine) (front : Text),
    (Line.pieces source)[row.index]? = some piece ∧
    RenderedLine.ofLine settings.tabSize piece = .ok line ∧
    row.source = front ++ line.text ∧ (front.length : Int) = offset

/-- A run of spaces or of padding could not be written. -/
def RenderError.IsUnwritten : RenderError → Prop
  | .line (.spaces _) => True
  | .gutter .widthNotAWord => True
  | .gutter (.length _) => True
  | _ => False

theorem Gutter.label_of_lt [Memory] {g : Gutter} {n : Nat} (hpad : g.pad.length = 1)
    (h : ¬ g.IsTooNarrow n) (hwidth : Memory.maxRun < g.width) :
    ∃ e, g.label ((n : Int) + 1) = .error e ∧ (RenderError.gutter e).IsUnwritten := by
  obtain ⟨c, hc⟩ := List.length_eq_one_iff.mp hpad
  have hpos := Memory.roomy
  rw [label_of_not_isTooNarrow hc (by omega) h, if_pos hwidth]
  cases Text.isWord g.width with
  | false => exact ⟨.widthNotAWord, rfl, trivial⟩
  | true => exact ⟨.length .tooMany, rfl, trivial⟩

namespace Formatter

theorem pairwise_shownLines (f : Formatter) (span : Span) (source : Text) :
    (f.shownLines span source).Pairwise fun p q => p.2 < q.2 := by
  have hindices : ((f.shownLines span source).map Prod.snd).Pairwise (· < ·) := by
    rw [map_snd_shownLines]
    exact List.pairwise_lt_range'
  exact List.pairwise_map.mp hindices

/-- The last number has the most digits. -/
theorem exists_isTooNarrow_iff {f : Formatter} {span : Span} {source : Text} (g : Gutter) :
    (∃ p ∈ f.shownLines span source, g.IsTooNarrow p.2) ↔
      ∃ last, (f.shownLines span source).getLast? = some last ∧ g.IsTooNarrow last.2 := by
  constructor
  · rintro ⟨p, hp, hnarrow⟩
    have hne : f.shownLines span source ≠ [] := List.ne_nil_of_mem hp
    have hlast := List.getLast?_eq_some_getLast hne
    refine ⟨_, hlast, hnarrow.mono ?_⟩
    obtain ⟨init, hinit⟩ := List.getLast?_eq_some_iff.mp hlast
    have hordered := pairwise_shownLines f span source
    rw [hinit] at hp hordered
    rcases List.mem_append.mp hp with hp | hp
    · exact ((List.pairwise_append.mp hordered).2.2 p hp _ List.mem_cons_self).le
    · rw [List.mem_singleton.mp hp]
  · rintro ⟨last, hlast, hnarrow⟩
    exact ⟨last, List.mem_of_getLast? hlast, hnarrow⟩

section

variable [Memory]

/-- The runs of spaces and of padding that drawing line `p.2` comes to can be written: each tab, and
where the number of the line fits also the number in its gutter, the blank below it if there is a
marker line, and on the start line the spaces in front of the first marker. -/
structure LineWritten (f : Formatter) (g : Gutter) (span : Span) (p : Text × Nat) : Prop where
  tabs : ∀ j, (Line.trimRight p.1)[j]? = some '\t' →
    Line.tabWidth f.settings.tabSize
      (Line.advance f.settings.tabSize 0 ((Line.trimRight p.1).take j)) ≤ Memory.maxRun
  number : ¬ g.IsTooNarrow p.2 → g.width ≤ Memory.maxRun
  blank : ¬ g.IsTooNarrow p.2 →
    hasMarks span p.2 (RenderedLine.expanded f.settings.tabSize p.1) = true →
    g.width + g.suffix.length ≤ Memory.maxRun
  lead : ¬ g.IsTooNarrow p.2 → (p.2 : Int) = span.start.line0 →
    Line.columnAt f.settings.tabSize (Line.trimRight p.1) span.start.column ≤ Memory.maxRun

/-- A shown line that drawing comes to: the numbers of all lines before it fit. -/
def Reaches (f : Formatter) (span : Span) (source : Text) (p : Text × Nat) : Prop :=
  ∃ before after, f.shownLines span source = before ++ p :: after ∧
    ∀ q ∈ before, ¬ (f.shownGutter span source).IsTooNarrow q.2

/-- Every run of spaces and of padding that drawing comes to can be written. -/
def Written (f : Formatter) (span : Span) (source : Text) : Prop :=
  ∀ p, f.Reaches span source p → f.LineWritten (f.shownGutter span source) span p

section Row

variable {f : Formatter} {g : Gutter} {span : Span} {p : Text × Nat}

theorem row_of_tabs (ht : 0 < f.settings.tabSize)
    (htabs : Line.tabError? f.settings.tabSize 0 (Line.trimRight p.1) = none) :
    f.row g span p.1 p.2 = (g.label ((p.2 : Int) + 1)).mapError .gutter >>= fun label =>
      if hasMarks span p.2 (RenderedLine.expanded f.settings.tabSize p.1) then
        f.marks g span p.2 (RenderedLine.expanded f.settings.tabSize p.1) >>= fun marks =>
          .ok { index := p.2, source := f.settings.margin ++ label ++
            (RenderedLine.expanded f.settings.tabSize p.1).text, marks := some marks }
      else .ok { index := p.2, source := f.settings.margin ++ label ++
        (RenderedLine.expanded f.settings.tabSize p.1).text, marks := none } := by
  unfold row
  rw [RenderedLine.ofLine_of_tabError? ht, htabs]
  rfl

theorem exists_row_of_lineWritten (ht : 0 < f.settings.tabSize) (hpad : g.pad.length = 1)
    (hnarrow : ¬ g.IsTooNarrow p.2) (h : f.LineWritten g span p) :
    ∃ row, f.row g span p.1 p.2 = .ok row := by
  have htabs := (Line.tabError?_eq_none_iff ht 0 (Line.trimRight p.1)).mpr h.tabs
  obtain ⟨label, hlabel⟩ := Gutter.exists_label hpad hnarrow (h.number hnarrow)
  rw [row_of_tabs ht htabs, hlabel, Outcome.mapError_ok, Outcome.ok_bind]
  split_ifs with hmarks
  · have hblank := Gutter.blank_of_le (Gutter.width_nonneg hnarrow) (h.blank hnarrow hmarks)
    have hfits : f.LineFits span p := ⟨h.tabs, h.lead hnarrow⟩
    have hfirst := countError?_firstColumn ht hfits
    rw [marks_eq f hblank span p.2
      (show 0 < (RenderedLine.expanded f.settings.tabSize p.1).tabSize from ht), hfirst]
    exact ⟨_, rfl⟩
  · exact ⟨_, rfl⟩

theorem row_of_isTooNarrow (ht : 0 < f.settings.tabSize) (hnarrow : g.IsTooNarrow p.2)
    (h : f.LineWritten g span p) :
    f.row g span p.1 p.2 = .error (.gutter (.tooWide ((p.2 : Int) + 1) g.width)) := by
  have htabs := (Line.tabError?_eq_none_iff ht 0 (Line.trimRight p.1)).mpr h.tabs
  rw [row_of_tabs ht htabs, Gutter.label_of_isTooNarrow hnarrow, Outcome.mapError_error,
    Outcome.error_bind]

/-- On a line with markers something in front of them cannot be written. -/
theorem marks_of_not_written (ht : 0 < f.settings.tabSize) (hnarrow : ¬ g.IsTooNarrow p.2)
    (h : Memory.maxRun < g.width + g.suffix.length ∨ (p.2 : Int) = span.start.line0 ∧
      Memory.maxRun < Line.columnAt f.settings.tabSize (Line.trimRight p.1) span.start.column) :
    ∃ e, f.marks g span p.2 (RenderedLine.expanded f.settings.tabSize p.1) = .error e ∧
      e.IsUnwritten := by
  have hsize : 0 < (RenderedLine.expanded f.settings.tabSize p.1).tabSize := ht
  by_cases hblank : Memory.maxRun < g.width + g.suffix.length
  · obtain ⟨cause, hcause⟩ := Gutter.blank_of_lt hblank
    refine ⟨.gutter (.length cause), ?_, trivial⟩
    unfold marks
    rw [markedColumns_eq_ok span p.2 hsize, Outcome.mapError_ok, Outcome.ok_bind]
    dsimp only
    rw [hcause, Outcome.mapError_error, Outcome.error_bind]
  · obtain ⟨hstart, hlead⟩ := h.resolve_left hblank
    have hfirst : span.firstColumn p.2 (RenderedLine.expanded f.settings.tabSize p.1) =
        Line.columnAt f.settings.tabSize (Line.trimRight p.1) span.start.column := by
      rw [Span.firstColumn, if_pos hstart]
      rfl
    obtain ⟨cause, hcause⟩ := Text.exists_countError?_of_lt hlead
    refine ⟨.line (.spaces cause), ?_, trivial⟩
    rw [marks_eq f (Gutter.blank_of_le (Gutter.width_nonneg hnarrow) (by omega)) span p.2 hsize,
      hfirst, hcause]

/-- Where tabs and label can be written there is a marker line, and it is this that cannot. -/
theorem hasMarks_of_not_lineWritten (hle : span.start ≤ span.stop)
    (htabs : ∀ j, (Line.trimRight p.1)[j]? = some '\t' →
      Line.tabWidth f.settings.tabSize
        (Line.advance f.settings.tabSize 0 ((Line.trimRight p.1).take j)) ≤ Memory.maxRun)
    (hwidth : g.width ≤ Memory.maxRun) (h : ¬ f.LineWritten g span p) :
    hasMarks span p.2 (RenderedLine.expanded f.settings.tabSize p.1) = true ∧
      (Memory.maxRun < g.width + g.suffix.length ∨ (p.2 : Int) = span.start.line0 ∧
        Memory.maxRun <
          Line.columnAt f.settings.tabSize (Line.trimRight p.1) span.start.column) := by
  by_contra hno
  apply h
  refine ⟨htabs, fun _ => hwidth, ?_, ?_⟩
  · intro _ hmarks
    by_contra hblank
    exact hno ⟨hmarks, .inl (Int.not_le.mp hblank)⟩
  · intro _ hstart
    by_contra hlead
    -- the start line always has a marker line
    have hmarks := hasMarks_start hle (RenderedLine.expanded f.settings.tabSize p.1)
    rw [← hstart] at hmarks
    exact hno ⟨hmarks, .inr ⟨hstart, Int.not_le.mp hlead⟩⟩

theorem row_of_not_lineWritten (ht : 0 < f.settings.tabSize) (hle : span.start ≤ span.stop)
    (hpad : g.pad.length = 1) (h : ¬ f.LineWritten g span p) :
    ∃ e, f.row g span p.1 p.2 = .error e ∧ e.IsUnwritten := by
  cases htabs : Line.tabError? f.settings.tabSize 0 (Line.trimRight p.1) with
  | some cause =>
    refine ⟨.line (.spaces cause), ?_, trivial⟩
    unfold row
    rw [RenderedLine.ofLine_of_tabError? ht, htabs]
    rfl
  | none =>
    have htabs' := (Line.tabError?_eq_none_iff ht 0 _).mp htabs
    -- of a line whose number does not fit only the tabs are written
    have hnarrow : ¬ g.IsTooNarrow p.2 := fun hn =>
      h ⟨htabs', fun hfit => absurd hn hfit, fun hfit => absurd hn hfit, fun hfit => absurd hn hfit⟩
    rw [row_of_tabs ht htabs]
    by_cases hwidth : Memory.maxRun < g.width
    · obtain ⟨e, he, hunwritten⟩ := Gutter.label_of_lt hpad hnarrow hwidth
      refine ⟨.gutter e, ?_, hunwritten⟩
      rw [he, Outcome.mapError_error, Outcome.error_bind]
    · obtain ⟨label, hlabel⟩ := Gutter.exists_label hpad hnarrow (Int.not_lt.mp hwidth)
      obtain ⟨hmarks, hfail⟩ :=
        hasMarks_of_not_lineWritten hle htabs' (Int.not_lt.mp hwidth) h
      obtain ⟨e, he, hunwritten⟩ := marks_of_not_written ht hnarrow hfail
      refine ⟨e, ?_, hunwritten⟩
      rw [hlabel, Outcome.mapError_ok, Outcome.ok_bind, if_pos hmarks, he, Outcome.error_bind]

end Row

variable {f : Formatter} {span resolved : Span} {source : Text}

/-- The rows are drawn up to the first line that is reached and cannot be written. -/
theorem rows_of_not_written (hv : f.settings.Valid) (hle : span.start ≤ span.stop)
    (hpad : (f.shownGutter span source).pad.length = 1) (h : ¬ f.Written span source) :
    ∃ e, f.rows span source = .error e ∧ e.IsUnwritten := by
  have ht : 0 < f.settings.tabSize := hv.tabSize_pos
  obtain ⟨p, hreached, hp⟩ : ∃ p, f.Reaches span source p ∧
      ¬ f.LineWritten (f.shownGutter span source) span p := by
    by_contra hno
    apply h
    intro p hreached
    by_contra hp
    exact hno ⟨p, hreached, hp⟩
  obtain ⟨before, after, hshown, hbefore⟩ := hreached
  -- a line before `p` may fail first, but its number fits, so it fails in the same way
  have hunwritten : ∀ q ∈ before ++ [p], ∀ e,
      f.row (f.shownGutter span source) span q.1 q.2 = .error e → e.IsUnwritten := by
    intro q hq e he
    have hnot : ¬ f.LineWritten (f.shownGutter span source) span q := by
      intro hwritten
      rcases List.mem_append.mp hq with hq | hq
      · obtain ⟨row, hrow⟩ := exists_row_of_lineWritten ht hpad (hbefore q hq) hwritten
        rw [hrow] at he
        cases he
      · obtain rfl := List.mem_singleton.mp hq
        exact hp hwritten
    obtain ⟨e', he', hunwritten⟩ := row_of_not_lineWritten ht hle hpad hnot
    rw [he] at he'
    obtain rfl := Except.error.inj he'
    exact hunwritten
  have hfails : ∃ q ∈ before ++ [p], ∃ e,
      f.row (f.shownGutter span source) span q.1 q.2 = .error e := by
    obtain ⟨e, he, -⟩ := row_of_not_lineWritten ht hle hpad hp
    exact ⟨p, List.mem_append_right before List.mem_cons_self, e, he⟩
  obtain ⟨e, he, hunw⟩ := Outcome.exists_mapM_error hunwritten hfails
  refine ⟨e, ?_, hunw⟩
  have hsplit : f.shownLines span source = (before ++ [p]) ++ after := by
    rw [hshown, List.append_assoc, List.singleton_append]
  rw [rows_eq, hsplit, List.mapM_append, he, Outcome.error_bind]

/-- Lines whose numbers fit are drawn, up to the first number that does not. -/
theorem exists_row_of_written (hv : f.settings.Valid)
    (hpad : (f.shownGutter span source).pad.length = 1) (h : f.Written span source)
    {before after : List (Text × Nat)} (hshown : f.shownLines span source = before ++ after)
    (hfit : ∀ q ∈ before, ¬ (f.shownGutter span source).IsTooNarrow q.2) :
    ∀ q ∈ before, ∃ row, f.row (f.shownGutter span source) span q.1 q.2 = .ok row := by
  intro q hq
  obtain ⟨front, rest, rfl⟩ := List.append_of_mem hq
  have hreached : f.Reaches span source q := by
    refine ⟨front, rest ++ after, ?_, fun q' hq' => hfit q' (List.mem_append_left _ hq')⟩
    rw [hshown, List.append_assoc, List.cons_append]
  exact exists_row_of_lineWritten hv.tabSize_pos hpad (hfit q hq) (h q hreached)

theorem exists_rows_of_written (hv : f.settings.Valid)
    (hpad : (f.shownGutter span source).pad.length = 1) (h : f.Written span source)
    (hfit : ∀ p ∈ f.shownLines span source, ¬ (f.shownGutter span source).IsTooNarrow p.2) :
    ∃ rows, f.rows span source = .ok rows := by
  have hrow := exists_row_of_written hv hpad h (List.append_nil _).symm hfit
  rw [rows_eq]
  exact Outcome.exists_mapM_eq_ok hrow

/-- The first number that does not fit is the one that is reported. -/
theorem rows_of_isTooNarrow (hv : f.settings.Valid)
    (hpad : (f.shownGutter span source).pad.length = 1) (h : f.Written span source)
    (hnarrow : ∃ q ∈ f.shownLines span source, (f.shownGutter span source).IsTooNarrow q.2) :
    ∃ p ∈ f.shownLines span source, (f.shownGutter span source).IsTooNarrow p.2 ∧
      (∀ q ∈ f.shownLines span source, (f.shownGutter span source).IsTooNarrow q.2 → p.2 ≤ q.2) ∧
      f.rows span source =
        .error (.gutter (.tooWide ((p.2 : Int) + 1) (f.shownGutter span source).width)) := by
  set g := f.shownGutter span source
  cases hfind : (f.shownLines span source).find? fun p => decide (g.IsTooNarrow p.2) with
  | none =>
    obtain ⟨q, hq, hqnarrow⟩ := hnarrow
    have hnone := List.find?_eq_none.mp hfind q hq
    exact absurd (decide_eq_true hqnarrow) hnone
  | some p =>
    obtain ⟨hp, before, after, hshown, hbefore⟩ := List.find?_eq_some_iff_append.mp hfind
    have hp : g.IsTooNarrow p.2 := of_decide_eq_true hp
    have hfit : ∀ q ∈ before, ¬ g.IsTooNarrow q.2 := by
      intro q hq
      simpa using hbefore q hq
    refine ⟨p, ?_, hp, ?_, ?_⟩
    · rw [hshown]
      exact List.mem_append_right before List.mem_cons_self
    · -- the lines behind `p` have higher numbers, and those before it fit
      intro q hq hqnarrow
      have hordered := pairwise_shownLines f span source
      rw [hshown] at hq hordered
      rcases List.mem_append.mp hq with hq | hq
      · exact absurd hqnarrow (hfit q hq)
      · rcases List.mem_cons.mp hq with rfl | hq
        · exact le_rfl
        · exact (List.rel_of_pairwise_cons (List.pairwise_append.mp hordered).2.1 hq).le
    · have hrow := exists_row_of_written hv hpad h hshown hfit
      have hwritten := h p ⟨before, after, hshown, hfit⟩
      rw [rows_eq, Outcome.mapM_eq_error_iff]
      exact ⟨before, p, after, hshown, hrow, row_of_isTooNarrow hv.tabSize_pos hp hwritten⟩

/-- What is answered under a gutter of any width: the snippet with the text of all lines at one
offset, or a complaint about the first number that is too long. -/
structure AlignsOrRefuses (f : Formatter) (span : Span) (source : Text)
    (answer : Except RenderError Text) : Prop where
  fails_iff : (∃ e, answer = .error e) ↔ ∃ last, (f.shownLines span source).getLast? = some last ∧
    (f.shownGutter span source).IsTooNarrow last.2
  refuses : ∀ e, answer = .error e → ∃ p ∈ f.shownLines span source, ∃ cause,
    (f.shownGutter span source).IsTooNarrow p.2 ∧
    (∀ q ∈ f.shownLines span source, (f.shownGutter span source).IsTooNarrow q.2 → p.2 ≤ q.2) ∧
    e = .gutter cause ∧ cause = .tooWide ((p.2 : Int) + 1) (f.shownGutter span source).width ∧
    (Text.isWritable (f.shownGutter span source).width = true → cause.message =
      "line number ".toList ++ Text.ofNat (p.2 + 1) ++ " does not fit a gutter of width ".toList ++
        Text.ofInt (f.shownGutter span source).width)
  aligns : ∀ text, answer = .ok text → ∃ rows : List Row, text = rows.flatMap Row.text ∧
    rows.map Row.index = (f.shownLines span source).map Prod.snd ∧
    ∀ row ∈ rows, row.TextStartsAt (f.settings.margin.length +
      (f.shownGutter span source).width + (f.shownGutter span source).suffix.length)
      f.settings source

theorem textStartsAt_of_rows {rows : List Row} (h : f.rows span source = .ok rows) :
    ∀ row ∈ rows, row.TextStartsAt (f.settings.margin.length +
      (f.shownGutter span source).width + (f.shownGutter span source).suffix.length)
      f.settings source := by
  intro row hrow
  rw [rows_eq] at h
  obtain ⟨p, hp, hprow⟩ := Outcome.exists_mem_of_forall₂ (Outcome.forall₂_of_mapM_eq_ok h) hrow
  obtain ⟨piece, label, line, hpiece, hline, hlabel, hsource⟩ := showsPiece_of_row hp hprow
  have hlength := Gutter.length_of_label hlabel
  refine ⟨piece, line, f.settings.margin ++ label, hpiece, hline, hsource, ?_⟩
  rw [List.length_append]
  omega

theorem alignsOrRefuses_of_written (hv : f.settings.Valid)
    (hpad : (f.shownGutter resolved source).pad.length = 1) (h : f.Written resolved source) :
    AlignsOrRefuses f resolved source
      ((f.rows resolved source).map fun rows => rows.flatMap Row.text) := by
  by_cases hnarrow : ∃ p ∈ f.shownLines resolved source,
      (f.shownGutter resolved source).IsTooNarrow p.2
  · obtain ⟨p, hp, hpnarrow, hleast, hrows⟩ := rows_of_isTooNarrow hv hpad h hnarrow
    rw [hrows, Outcome.map_error]
    refine ⟨?_, ?_, nofun⟩
    · exact ⟨fun _ => (exists_isTooNarrow_iff _).mp hnarrow, fun _ => ⟨_, rfl⟩⟩
    · intro e he
      obtain rfl := Except.error.inj he
      exact ⟨p, hp, _, hpnarrow, hleast, rfl, rfl, GutterError.message_tooWide p.2⟩
  · have hfit : ∀ p ∈ f.shownLines resolved source,
        ¬ (f.shownGutter resolved source).IsTooNarrow p.2 := fun p hp hp' => hnarrow ⟨p, hp, hp'⟩
    obtain ⟨rows, hrows⟩ := exists_rows_of_written hv hpad h hfit
    rw [hrows, Outcome.map_ok]
    refine ⟨⟨nofun, ?_⟩, nofun, ?_⟩
    · intro hlast
      exact absurd ((exists_isTooNarrow_iff _).mpr hlast) hnarrow
    · intro text htext
      obtain rfl := Except.ok.inj htext
      have hindex : rows.map Row.index = (f.shownLines resolved source).map Prod.snd := by
        rw [map_snd_shownLines]
        exact map_index_of_rows hrows
      exact ⟨rows, rfl, hindex, textStartsAt_of_rows hrows⟩

/-- Under a gutter of any width, with any suffix and a padding of one character, the text of all
lines starts at one offset, or the first number that does not fit is refused. Nothing else fails but
a run of spaces or of padding that cannot be written. -/
theorem render_aligns_or_refuses (hv : f.settings.Valid) (hr : span.normalized = some resolved)
    (hpad : (f.shownGutter resolved source).pad.length = 1) :
    (f.Written resolved source →
      ∀ cause, AlignsOrRefuses f resolved source (f.render span source cause)) ∧
    (¬ f.Written resolved source →
      ∃ e, e.IsUnwritten ∧ ∀ cause, f.render span source cause = .error e) := by
  constructor
  · intro hwritten cause
    rw [render_of_normalized hr]
    exact alignsOrRefuses_of_written hv hpad hwritten
  · intro hunwritten
    obtain ⟨-, -, hle⟩ := Span.isValid_of_normalized hr
    obtain ⟨e, hrows, he⟩ := rows_of_not_written hv hle hpad hunwritten
    refine ⟨e, he, fun cause => ?_⟩
    rw [render_of_normalized hr, hrows, Outcome.map_error]

theorem written_of_le (hv : f.settings.Valid) (hcolumn : 0 ≤ span.start.column)
    (htab : f.settings.tabSize ≤ Memory.maxRun)
    (hlead : span.start.column * f.settings.tabSize ≤ Memory.maxRun)
    (hgutter : (f.shownGutter span source).width + (f.shownGutter span source).suffix.length ≤
      Memory.maxRun) : f.Written span source := by
  have hpos : 0 < f.settings.tabSize := hv.tabSize_pos
  intro p _
  refine ⟨fun j _ => (Line.tabWidth_le hpos _).trans htab, fun _ => ?_, fun _ _ => hgutter, ?_⟩
  · omega
  · exact fun _ _ => (Line.columnAt_le_mul hpos _ hcolumn).trans hlead

end

/-- A formatter with one line of context and a gutter of the given width. -/
def withGutter (width : Int) : Formatter where
  settings := { linesBefore := 1 }
  gutter := fun _ _ => { width, suffix := "|".toList, pad := ['.'] }

/-- Of the two lines that are shown the second has a number of two digits. -/
theorem render_aligns_or_refuses_tenth :
    (withGutter 1).settings.Valid ∧
    (⟨⟨10, 0⟩, ⟨10, 0⟩⟩ : Span).normalized = some ⟨⟨10, 0⟩, ⟨10, 0⟩⟩ ∧
    (withGutter 1).Written ⟨⟨10, 0⟩, ⟨10, 0⟩⟩ "\n\n\n\n\n\n\n\n\nx".toList ∧
    AlignsOrRefuses (withGutter 1) ⟨⟨10, 0⟩, ⟨10, 0⟩⟩ "\n\n\n\n\n\n\n\n\nx".toList
      (.error (.gutter (.tooWide 10 1))) ∧
    AlignsOrRefuses (withGutter 2) ⟨⟨10, 0⟩, ⟨10, 0⟩⟩ "\n\n\n\n\n\n\n\n\nx".toList
      (.ok " .9|\n 10|x\n    ^\n".toList) := by
  have hv : ({ linesBefore := 1 } : Settings).Valid :=
    ⟨by decide, by decide, by decide, rfl, by decide⟩
  have hn : (⟨⟨10, 0⟩, ⟨10, 0⟩⟩ : Span).normalized = some ⟨⟨10, 0⟩, ⟨10, 0⟩⟩ := by decide
  have hwritten (width : Int) (hwidth : width + 1 ≤ Memory.maxRun) :
      (withGutter width).Written ⟨⟨10, 0⟩, ⟨10, 0⟩⟩ "\n\n\n\n\n\n\n\n\nx".toList :=
    written_of_le hv le_rfl (show (8 : Int) ≤ Memory.maxRun by decide)
      (show (0 * 8 : Int) ≤ Memory.maxRun by decide) hwidth
  have hone : (withGutter 1).render ⟨⟨10, 0⟩, ⟨10, 0⟩⟩ "\n\n\n\n\n\n\n\n\nx".toList none =
      .error (.gutter (.tooWide 10 1)) := by decide +kernel
  have htwo : (withGutter 2).render ⟨⟨10, 0⟩, ⟨10, 0⟩⟩ "\n\n\n\n\n\n\n\n\nx".toList none =
      .ok " .9|\n 10|x\n    ^\n".toList := by decide +kernel
  rw [← hone, ← htwo]
  refine ⟨hv, hn, hwritten 1 (by decide), ?_, ?_⟩
  · exact (render_aligns_or_refuses hv hn rfl).1 (hwritten 1 (by decide)) none
  · exact (render_aligns_or_refuses hv hn rfl).1 (hwritten 2 (by decide)) none

/-- The first width is enough for every number and is refused, because it is no machine word; for
the second the complaint is about its own digits. -/
theorem render_refuses_width :
    (withGutter 0).settings.Valid ∧
    (⟨⟨1, 0⟩, ⟨1, 0⟩⟩ : Span).normalized = some ⟨⟨1, 0⟩, ⟨1, 0⟩⟩ ∧
    ((∀ p ∈ (withGutter Text.wordBound).shownLines ⟨⟨1, 0⟩, ⟨1, 0⟩⟩ "x".toList,
        ¬ ((withGutter Text.wordBound).shownGutter ⟨⟨1, 0⟩, ⟨1, 0⟩⟩ "x".toList).IsTooNarrow p.2) ∧
      (withGutter Text.wordBound).render ⟨⟨1, 0⟩, ⟨1, 0⟩⟩ "x".toList none =
        .error (.gutter .widthNotAWord)) ∧
    ∃ cause, (withGutter (-Nat.pow 10 Text.maxDigits)).render ⟨⟨1, 0⟩, ⟨1, 0⟩⟩ "x".toList none =
      .error (.gutter cause) ∧ cause.message = Text.tooManyDigits none := by
  refine ⟨⟨?_, ?_, ?_, ?_, ?_⟩, ?_, ⟨?_, ?_⟩, .tooWide 1 (-Nat.pow 10 Text.maxDigits), ?_, ?_⟩
  all_goals decide +kernel

end Formatter

end SyntaxReport
