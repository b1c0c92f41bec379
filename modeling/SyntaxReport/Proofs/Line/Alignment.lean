import SyntaxReport.Proofs.Line.Expansion
import SyntaxReport.Proofs.Snippet.Fits

/-! Columns and expansions agree. Two scans over a line look for tab stops: one writes the spaces of
each tab, the other counts columns. The second ends where the text of the first ends, for every part
of the line from its front, so that each character stands at its rendered column and each tab
reaches from there to the next stop. Counting never fails; writing fails exactly if a tab is wider
than a text can be. -/
namespace SyntaxReport.Line

/-- Every column has a rendered column. Inside the line they are all different, they keep their
order everywhere, and none is to the left of where it was. It is the length of what stands before
the column, wherever that can be expanded. -/
structure MapsColumns [Memory] (size : Int) (raw : Text) (column : Int → Int) : Prop where
  answers : ∀ c, renderedColumn size raw c = .ok (column c)
  strict : ∀ i j : Nat, i < j → j ≤ raw.length → column i < column j
  mono : ∀ c d, c ≤ d → column c ≤ column d
  not_left : ∀ c, max c 0 ≤ column c
  -- a tab further behind may be too wide to be written
  length : ∀ (j : Nat) (shown : Text), j ≤ raw.length →
    expandTabs size (raw.take j) = .ok shown → column j = shown.length

/-- The expansion has every part of the line at its rendered columns: what stands before a column
fills the text up to it, a character keeps its place, and a tab is spaces up to the next stop. -/
structure AlignsWith [Memory] (size : Int) (raw : Text) (column : Int → Int) (expanded : Text) :
    Prop where
  before : ∀ j : Nat, j ≤ raw.length → ∃ shown, expandTabs size (raw.take j) = .ok shown ∧
    shown <+: expanded ∧ column j = shown.length
  character : ∀ (j : Nat) (c : Char), raw[j]? = some c → c ≠ '\t' →
    ∃ k : Nat, column j = k ∧ expanded[k]? = some c
  tab : ∀ j : Nat, raw[j]? = some '\t' → ∃ k width : Nat, column j = k ∧
    column (j + 1) = k + width ∧ 1 ≤ width ∧ (width : Int) ≤ size ∧ size ∣ (k + width : Int) ∧
    ∀ i < width, expanded[k + i]? = some ' '

theorem dvd_add_tabWidth (size p : Int) : size ∣ p + tabWidth size p := by
  rw [← nextStop_eq]
  exact Int.dvd_mul_left _ _

theorem exists_spaces_of_expandTabs [Memory] {size : Int} (h : 0 < size) {raw : Text}
    {e : LineError}
    (he : expandTabs size raw = .error e) : ∃ cause, e = .spaces cause := by
  unfold expandTabs at he
  rw [if_neg fun hz => h.ne' hz.1] at he
  cases htabs : tabError? size 0 raw with
  | none =>
    rw [htabs] at he
    cases he
  | some cause =>
    rw [htabs] at he
    exact ⟨cause, (Except.error.inj he).symm⟩

section Positive

variable {size : Int} (h : 0 < size) {raw : Text}
include h

theorem expandTabs_eq_ok_iff [Memory] {expanded : Text} :
    expandTabs size raw = .ok expanded ↔
      tabError? size 0 raw = none ∧ expanded = expandFrom size 0 raw := by
  constructor
  · exact of_expandTabs_eq_ok
  · intro hline
    unfold expandTabs
    rw [if_neg fun hz => h.ne' hz.1, hline.1, hline.2]

theorem advance_take {j : Nat} (hj : j ≤ raw.length) :
    advance size 0 (raw.take j) = columnAt size raw j := by
  rw [advance_eq h, columnAt_natCast h hj, Int.zero_add]

/-- A tab divides the expansion into what stands before it, its spaces, and the rest. -/
theorem exists_expandFrom_tab {j : Nat} (hj : raw[j]? = some '\t') :
    ∃ rest, expandFrom size 0 raw = expandFrom size 0 (raw.take j) ++
      (Text.spaces (tabWidth size (columnAt size raw j)) ++ rest) := by
  obtain ⟨hlt, htab⟩ := List.getElem?_eq_some_iff.mp hj
  refine ⟨expandFrom size (columnAt size raw j + tabWidth size (columnAt size raw j))
    (raw.drop (j + 1)), ?_⟩
  conv_lhs => rw [← List.take_append_drop j raw, List.drop_eq_getElem_cons hlt]
  rw [expandFrom_append, advance_take h hlt.le, expandFrom, if_pos htab]

theorem columnAt_succ_of_tab {j : Nat} (hj : raw[j]? = some '\t') :
    columnAt size raw (j + 1) =
      columnAt size raw j + tabWidth size (columnAt size raw j) := by
  obtain ⟨hlt, htab⟩ := List.getElem?_eq_some_iff.mp hj
  have hpos := tabWidth_pos h (columnAt size raw j)
  calc
    columnAt size raw (j + 1) = ((expandFrom size 0 (raw.take (j + 1))).length : Int) :=
      columnAt_natCast h hlt
    _ = ((expandFrom size 0 (raw.take j)).length : Int) +
        (tabWidth size (columnAt size raw j)).toNat := by
      rw [← List.take_append_getElem hlt, expandFrom_concat, if_pos htab, advance_take h hlt.le,
        List.length_append, Text.length_spaces, Int.natCast_add]
    _ = _ := by rw [← columnAt_natCast h hlt.le, Int.toNat_of_nonneg hpos.le]

/-- Behind the column of a tab stand as many spaces as the tab is wide. -/
theorem getElem?_expandFrom_tab {j i : Nat} (hj : raw[j]? = some '\t')
    (hi : i < tabWidth size (columnAt size raw j)) :
    (expandFrom size 0 raw)[(columnAt size raw j).toNat + i]? = some ' ' := by
  obtain ⟨hlt, -⟩ := List.getElem?_eq_some_iff.mp hj
  obtain ⟨rest, hrest⟩ := exists_expandFrom_tab h hj
  have hcolumn := columnAt_natCast h hlt.le
  have hspaces : i < (Text.spaces (tabWidth size (columnAt size raw j))).length := by
    rw [Text.length_spaces]
    omega
  rw [hrest, hcolumn, Int.toNat_natCast, List.getElem?_append_right (Nat.le_add_right _ _),
    Nat.add_sub_cancel_left, ← hcolumn, List.getElem?_append_left hspaces]
  apply List.getElem?_replicate_of_lt
  omega

theorem mapsColumns_columnAt [Memory] (raw : Text) : MapsColumns size raw (columnAt size raw) where
  answers := renderedColumn_eq_ok h raw
  strict i j hij hj := columnAt_lt h (by omega) (by omega)
  mono c d hcd := columnAt_mono h raw hcd
  not_left c := by
    have hnonneg := columnAt_nonneg h raw c
    have hle : c ≤ columnAt size raw c := le_max_right _ _
    omega
  length j shown hj hshown := by
    rw [columnAt_natCast h hj, ((expandTabs_eq_ok_iff h).mp hshown).2]

theorem alignsWith_expandFrom [Memory] (hline : tabError? size 0 raw = none) :
    AlignsWith size raw (columnAt size raw) (expandFrom size 0 raw) where
  before j hj := by
    have hsplit := List.take_append_drop j raw
    refine ⟨expandFrom size 0 (raw.take j), ?_, ?_, columnAt_natCast h hj⟩
    · -- a tab of the part is a tab of the raw, at the same column
      apply (expandTabs_eq_ok_iff h).mpr
      rw [← hsplit] at hline
      exact ⟨tabError?_of_append hline, rfl⟩
    · conv_rhs => rw [← hsplit, expandFrom_append]
      exact List.prefix_append _ _
  character j c hc hne := by
    have hnonneg := columnAt_nonneg h raw j
    exact ⟨(columnAt size raw j).toNat, by omega, getElem?_expandFrom h hc hne⟩
  tab j htab := by
    have hnonneg := columnAt_nonneg h raw j
    have hpos := tabWidth_pos h (columnAt size raw j)
    have hle := tabWidth_le h (columnAt size raw j)
    have hdvd := dvd_add_tabWidth size (columnAt size raw j)
    have hsucc := columnAt_succ_of_tab h htab
    obtain ⟨k, hk⟩ := Int.eq_ofNat_of_zero_le hnonneg
    obtain ⟨width, hwidth⟩ := Int.eq_ofNat_of_zero_le hpos.le
    refine ⟨k, width, hk, by omega, by omega, by omega, by rwa [hwidth, hk] at hdvd, ?_⟩
    intro i hi
    have hspace := getElem?_expandFrom_tab h htab (i := i) (by omega)
    rwa [hk, Int.toNat_natCast] at hspace

theorem exists_expandTabs_iff [Memory] (raw : Text) :
    (∃ expanded, expandTabs size raw = .ok expanded) ↔
    ∀ j : Nat, raw[j]? = some '\t' →
      columnAt size raw (j + 1) - columnAt size raw j ≤ Memory.maxRun := by
  have hwidth (j : Nat) (htab : raw[j]? = some '\t') :
      columnAt size raw (j + 1) - columnAt size raw j =
        tabWidth size (advance size 0 (raw.take j)) := by
    obtain ⟨hlt, -⟩ := List.getElem?_eq_some_iff.mp htab
    rw [columnAt_succ_of_tab h htab, advance_take h hlt.le]
    omega
  calc
    (∃ expanded, expandTabs size raw = .ok expanded) ↔ tabError? size 0 raw = none := by
      simp only [expandTabs_eq_ok_iff h, exists_and_left, exists_eq, and_true]
    _ ↔ ∀ j : Nat, raw[j]? = some '\t' →
        tabWidth size (advance size 0 (raw.take j)) ≤ Memory.maxRun :=
      tabError?_eq_none_iff h 0 raw
    _ ↔ _ := by
      apply forall₂_congr
      intro j htab
      rw [hwidth j htab]

end Positive

/-- For every positive tab size the map of columns and the expansion agree. The line is expanded
exactly if no tab is wider than a text can be, and otherwise a run of spaces is at fault. -/
theorem columns_align_with_expansion [Memory] {size : Int} (h : 1 ≤ size) (raw : Text) :
    ∃ column, MapsColumns size raw column ∧
      (∀ expanded, expandTabs size raw = .ok expanded →
        AlignsWith size raw column expanded) ∧
      ((∃ expanded, expandTabs size raw = .ok expanded) ↔ ∀ j : Nat, raw[j]? = some '\t' →
        column (j + 1) - column j ≤ Memory.maxRun) ∧
      ∀ e, expandTabs size raw = .error e → ∃ cause, e = .spaces cause := by
  have hpos : 0 < size := h
  refine ⟨columnAt size raw, mapsColumns_columnAt hpos raw, ?_, exists_expandTabs_iff hpos raw,
    fun e => exists_spaces_of_expandTabs hpos⟩
  intro expanded hexpanded
  obtain ⟨hline, htext⟩ := (expandTabs_eq_ok_iff hpos).mp hexpanded
  rw [htext]
  exact alignsWith_expandFrom hpos hline

theorem columns_align_with_expansion_tabbed :
    1 ≤ (4 : Int) ∧ expandTabs 4 "a\t\tb".toList = .ok "a       b".toList ∧
      ∃ column, MapsColumns 4 "a\t\tb".toList column ∧
        AlignsWith 4 "a\t\tb".toList column "a       b".toList := by
  have hsize : 1 ≤ (4 : Int) := by decide
  have hexpanded : expandTabs 4 "a\t\tb".toList = .ok "a       b".toList := by decide
  obtain ⟨column, hmaps, haligns, -⟩ := columns_align_with_expansion hsize "a\t\tb".toList
  exact ⟨hsize, hexpanded, column, hmaps, haligns _ hexpanded⟩

/-- A tab may reach to a column that no text reaches. -/
theorem expandTabs_not_a_word :
    1 ≤ Text.wordBound ∧ renderedColumn Text.wordBound ['\t'] 1 = .ok Text.wordBound ∧
      expandTabs Text.wordBound (['\t'].take 1) = .error (.spaces .notAWord) := by
  refine ⟨?_, ?_, ?_⟩
  all_goals decide +kernel

end SyntaxReport.Line
