import SyntaxReport.Proofs.Snippet.Window

/-! Context around a span. A larger context widens the window and leaves what was in it as it is:
lines above are added in front and lines below at the end, all of them without markers. Lines below
may raise the highest line number, so there the snippet stays the same only as long as the gutter
does not become wider. -/
namespace SyntaxReport.Formatter

variable {f f' : Formatter} {settings : Settings} {span resolved : Span} {source : Text}

theorem documentLines_ne_nil (source : Text) (stop0 : Int) : documentLines source stop0 ≠ [] := by
  unfold documentLines
  dsimp only
  split_ifs
  · exact List.append_ne_nil_of_left_ne_nil (Line.split_ne_nil source) _
  · exact Line.split_ne_nil source

theorem snd_of_getElem?_shownLines {i : Nat} {p : Text × Nat}
    (h : (f.shownLines span source)[i]? = some p) : p.2 = (f.firstShown span).toNat + i := by
  have hindex : ((f.shownLines span source).map Prod.snd)[i]? = some p.2 := by
    rw [List.getElem?_map, h, Option.map_some]
  rw [map_snd_shownLines] at hindex
  obtain ⟨hlt, hget⟩ := List.getElem?_eq_some_iff.mp hindex
  rw [List.getElem_range', Nat.one_mul] at hget
  exact hget.symm

theorem shownLines_of_first_le (hfirst : f'.firstShown span ≤ f.firstShown span)
    (hlast : f'.lastShown span source = f.lastShown span source) :
    ∃ above, f'.shownLines span source = above ++ f.shownLines span source ∧
      ∀ p ∈ above, (p.2 : Int) < f.firstShown span := by
  have hnonneg : 0 ≤ f'.firstShown span := le_max_right _ _
  -- both windows end at the same line, so they differ in the first `k` lines of the wider one
  set k := (f.firstShown span - f'.firstShown span).toNat with hk
  have hdrop : (f'.shownLines span source).drop k = f.shownLines span source := by
    unfold shownLines
    dsimp only
    rw [List.drop_take, List.drop_drop, hlast]
    congr 2 <;> omega
  refine ⟨(f'.shownLines span source).take k, ?_, fun p hp => ?_⟩
  · rw [← hdrop, List.take_append_drop]
  · obtain ⟨i, hi⟩ := List.mem_iff_getElem?.mp hp
    rw [List.getElem?_take] at hi
    split_ifs at hi with hlt
    have hindex := snd_of_getElem?_shownLines hi
    omega

theorem shownLines_of_last_le (hfirst : f'.firstShown span = f.firstShown span)
    (hlast : f.lastShown span source ≤ f'.lastShown span source) :
    ∃ below, f'.shownLines span source = f.shownLines span source ++ below ∧
      ∀ p ∈ below, f.lastShown span source < p.2 := by
  have hnonneg : 0 ≤ f.firstShown span := le_max_right _ _
  -- both windows begin at the same line, and `k` is the length of the narrower one
  set k := (f.lastShown span source + 1 - f.firstShown span).toNat with hk
  have htake : (f'.shownLines span source).take k = f.shownLines span source := by
    unfold shownLines
    dsimp only
    rw [List.take_take, hfirst]
    congr 1
    omega
  refine ⟨(f'.shownLines span source).drop k, ?_, fun p hp => ?_⟩
  · rw [← htake, List.take_append_drop]
  · obtain ⟨i, hi⟩ := List.mem_iff_getElem?.mp hp
    rw [List.getElem?_drop] at hi
    have hindex := snd_of_getElem?_shownLines hi
    omega

/-- Line numbers of the same length have the same gutter. -/
theorem shownGutter_of_length_eq (hg : f.gutter = Gutter.forDocument)
    (hg' : f'.gutter = Gutter.forDocument) (hlast : 0 ≤ f.lastShown span source)
    (hlast' : 0 ≤ f'.lastShown span source)
    (h : (Text.ofInt (f.lastShown span source + 1)).length =
      (Text.ofInt (f'.lastShown span source + 1)).length) :
    f'.shownGutter span source = f.shownGutter span source := by
  unfold shownGutter
  rw [hg, hg', Gutter.forDocument, Gutter.forDocument, Text.digitWidth_eq_length (by omega),
    Text.digitWidth_eq_length (by omega), h]

theorem lastShown_nonneg (hafter : 0 ≤ f.settings.linesAfter) (hstop : span.stop.IsValid)
    (source : Text) : 0 ≤ f.lastShown span source := by
  have hpos : 0 < (documentLines source span.stop.line0).length :=
    List.length_pos_iff.mpr (documentLines_ne_nil source span.stop.line0)
  have hline := hstop.1
  unfold lastShown Position.line0
  unfold Position.line0 at hpos
  omega

section

variable [Memory]

/-- The wider snippet is the narrower one combined with rows of context, which lie outside the span
and have no markers; or it cannot be drawn, for a run of spaces. -/
structure AddsContext (f f' : Formatter) (span resolved : Span) (source : Text)
    (Outside : Int → Prop) (combined : (text extra : Text) → Text) : Prop where
  fits : f'.Fits resolved source → ∃ (text : Text) (extra : List Row),
    (∀ cause, f.render span source cause = .ok text) ∧
    (∀ cause, f'.render span source cause = .ok (combined text (extra.flatMap Row.text))) ∧
    ∀ row ∈ extra, Outside row.index ∧ row.marks = none ∧
      row.ShowsPiece f'.settings (f'.shownGutter resolved source) source
  fails : ¬ f'.Fits resolved source →
    ∃ e, ∀ cause, f'.render span source cause = .error (.line (.spaces e))

theorem addsContext_before {b b' : Int} (hv : { settings with linesBefore := b' }.Valid)
    (hb : 0 ≤ b) (hle : b ≤ b') (hn : span.normalized = some resolved)
    (hs : source.length < Text.wordBound) :
    AddsContext (standard { settings with linesBefore := b })
      (standard { settings with linesBefore := b' }) span resolved source
      (· < resolved.start.line0) (fun text extra => extra ++ text) := by
  refine ⟨fun hf => ?_, render_of_not_fits hv hn hs⟩
  set f := standard { settings with linesBefore := b }
  set f' := standard { settings with linesBefore := b' }
  have hfirst : f'.firstShown resolved ≤ f.firstShown resolved := by
    change max (resolved.start.line0 - b') 0 ≤ max (resolved.start.line0 - b) 0
    omega
  have hlast : f'.lastShown resolved source = f.lastShown resolved source := rfl
  obtain ⟨shown, hshown, habove⟩ := shownLines_of_first_le hfirst hlast
  have hout (p) (hp : p ∈ shown) : (p.2 : Int) < resolved.start.line0 := by
    have hlt : (p.2 : Int) < max (resolved.start.line0 - b) 0 := habove p hp
    omega
  obtain ⟨rows', hrows', -⟩ := rows_of_fits hv.tabSize_pos hs hf
  have hsplit := hrows'
  rw [rows_eq, hshown] at hsplit
  -- rows depend on the context through the gutter only, which the last shown line decides
  obtain ⟨above, rows, hrowsAbove, hrows, rfl⟩ := Outcome.exists_of_mapM_append_eq_ok hsplit
  refine ⟨rows.flatMap Row.text, above, render_of_rows hn hrows, fun cause => ?_,
    fun row hrow => ?_⟩
  · rw [render_of_rows hn hrows', List.flatMap_append]
  · obtain ⟨⟨p, hp, hindex⟩, hcontext⟩ := context_of_mapM hrowsAbove
      (fun p hp => hshown ▸ List.mem_append_left _ hp) (fun p hp => Or.inl (hout p hp)) hrow
    rw [hindex]
    exact ⟨hout p hp, hcontext⟩

theorem addsContext_after {a a' : Int} (hv : { settings with linesAfter := a' }.Valid) (ha : 0 ≤ a)
    (hle : a ≤ a') (hn : span.normalized = some resolved) (hs : source.length < Text.wordBound)
    (hdigits : (Text.ofInt ((standard { settings with linesAfter := a }).lastShown resolved
        source + 1)).length =
      (Text.ofInt ((standard { settings with linesAfter := a' }).lastShown resolved
        source + 1)).length) :
    AddsContext (standard { settings with linesAfter := a })
      (standard { settings with linesAfter := a' }) span resolved source
      (resolved.stop.line0 < ·) (fun text extra => text ++ extra) := by
  refine ⟨fun hf => ?_, render_of_not_fits hv hn hs⟩
  set f := standard { settings with linesAfter := a }
  set f' := standard { settings with linesAfter := a' }
  obtain ⟨-, hstop, -⟩ := Span.isValid_of_normalized hn
  have hgutter : f'.shownGutter resolved source = f.shownGutter resolved source :=
    shownGutter_of_length_eq rfl rfl (lastShown_nonneg ha hstop source)
      (lastShown_nonneg hv.linesAfter_nonneg hstop source) hdigits
  have hlast : f.lastShown resolved source ≤ f'.lastShown resolved source := by
    change min (resolved.stop.line0 + a) _ ≤ min (resolved.stop.line0 + a') _
    omega
  have hfirst : f'.firstShown resolved = f.firstShown resolved := rfl
  obtain ⟨shown, hshown, hbelow⟩ := shownLines_of_last_le hfirst hlast
  have hmem (p) (hp : p ∈ shown) : p ∈ f'.shownLines resolved source := by
    rw [hshown]
    exact List.mem_append_right _ hp
  -- a line is added only where the narrower window ends in front of the end of the document
  have hout (p) (hp : p ∈ shown) : resolved.stop.line0 < p.2 := by
    have hlt : min (resolved.stop.line0 + a) _ < (p.2 : Int) := hbelow p hp
    have hend := (mem_shownLines.mp (hmem p hp)).2.2
    have hdoc := lastShown_lt_length f' resolved source
    omega
  obtain ⟨rows', hrows', -⟩ := rows_of_fits hv.tabSize_pos hs hf
  have hsplit := hrows'
  rw [rows_eq, hshown] at hsplit
  obtain ⟨rows, below, hrows, hrowsBelow, rfl⟩ := Outcome.exists_of_mapM_append_eq_ok hsplit
  rw [hgutter] at hrows
  refine ⟨rows.flatMap Row.text, below, render_of_rows hn hrows, fun cause => ?_,
    fun row hrow => ?_⟩
  · rw [render_of_rows hn hrows', List.flatMap_append]
  · obtain ⟨⟨p, hp, hindex⟩, hcontext⟩ := context_of_mapM hrowsBelow hmem
      (fun p hp => Or.inr (hout p hp)) hrow
    rw [hindex]
    exact ⟨hout p hp, hcontext⟩

/-- More context only adds lines without markers around the same body: lines above the span in front
of it, and lines below the span behind it if the last line numbers have the same number of digits.
Without a usable span there is no context. -/
theorem render_adds_context (hv : settings.Valid) (hs : source.length < Text.wordBound)
    (span : Span) :
    (span.normalized = none → ∀ (settings' : Settings) (cause : Option Failure),
      (standard settings).render span source cause =
        (standard settings').render span source cause) ∧
    ∀ resolved, span.normalized = some resolved →
      (∀ b b' : Int, 0 ≤ b → b ≤ b' →
        AddsContext (standard { settings with linesBefore := b })
          (standard { settings with linesBefore := b' }) span resolved source
          (· < resolved.start.line0) (fun text extra => extra ++ text)) ∧
      ∀ a a' : Int, 0 ≤ a → a ≤ a' →
        (Text.ofInt ((standard { settings with linesAfter := a }).lastShown resolved
            source + 1)).length =
          (Text.ofInt ((standard { settings with linesAfter := a' }).lastShown resolved
            source + 1)).length →
        AddsContext (standard { settings with linesAfter := a })
          (standard { settings with linesAfter := a' }) span resolved source
          (resolved.stop.line0 < ·) (fun text extra => text ++ extra) := by
  constructor
  · intro hn settings' cause
    unfold render
    rw [hn]
    rfl
  · intro resolved hn
    constructor
    · intro b b' hb hle
      have hv' : { settings with linesBefore := b' }.Valid :=
        ⟨hv.tabSize_pos, hb.trans hle, hv.linesAfter_nonneg, hv.marker_single, hv.margin_unbroken⟩
      exact addsContext_before hv' hb hle hn hs
    · intro a a' ha hle hdigits
      have hv' : { settings with linesAfter := a' }.Valid :=
        ⟨hv.tabSize_pos, hv.linesBefore_nonneg, ha.trans hle, hv.marker_single, hv.margin_unbroken⟩
      exact addsContext_after hv' ha hle hn hs hdigits

end

/-- One line is added above a line that is indented by a tab, and one below it although three are
asked for. -/
theorem render_adds_context_around_tab :
    (⟨⟨2, 1⟩, ⟨2, 1⟩⟩ : Span).normalized = some ⟨⟨2, 1⟩, ⟨2, 1⟩⟩ ∧
    AddsContext (standard { linesBefore := 0 }) (standard { linesBefore := 1 }) ⟨⟨2, 1⟩, ⟨2, 1⟩⟩
      ⟨⟨2, 1⟩, ⟨2, 1⟩⟩ "a\n\tb\nc\n".toList (· < 1) (fun text extra => extra ++ text) ∧
    AddsContext (standard { linesAfter := 0 }) (standard { linesAfter := 3 }) ⟨⟨2, 1⟩, ⟨2, 1⟩⟩
      ⟨⟨2, 1⟩, ⟨2, 1⟩⟩ "a\n\tb\nc\n".toList (1 < ·) (fun text extra => text ++ extra) ∧
    (standard { linesAfter := 3 }).render ⟨⟨2, 1⟩, ⟨2, 1⟩⟩ "a\n\tb\nc\n".toList none =
      .ok (" 2:         b\n            ^\n".toList ++ " 3: c\n".toList) := by
  have hn : (⟨⟨2, 1⟩, ⟨2, 1⟩⟩ : Span).normalized = some ⟨⟨2, 1⟩, ⟨2, 1⟩⟩ := by decide
  have hs : "a\n\tb\nc\n".toList.length < Text.wordBound := by decide
  obtain ⟨hbefore, hafter⟩ := (render_adds_context Settings.valid_default hs _).2 _ hn
  exact ⟨hn, hbefore 0 1 (by decide) (by decide), hafter 0 3 (by decide) (by decide) (by decide),
    by decide +kernel⟩

/-- A line above the span whose tab is wider than a machine word cannot be added. -/
theorem render_context_not_a_word :
    ({ tabSize := Text.wordBound } : Settings).Valid ∧
      (standard { tabSize := Text.wordBound, linesBefore := 0 }).render ⟨⟨2, 0⟩, ⟨2, 0⟩⟩
        "\tx\ny".toList none = .ok " 2: y\n    ^\n".toList ∧
      (standard { tabSize := Text.wordBound, linesBefore := 1 }).render ⟨⟨2, 0⟩, ⟨2, 0⟩⟩
        "\tx\ny".toList none = .error (.line (.spaces .notAWord)) := by
  refine ⟨⟨?_, ?_, ?_, ?_, ?_⟩, ?_, ?_⟩
  all_goals decide +kernel

end SyntaxReport.Formatter
