import Mathlib.Data.List.Basic
import Mathlib.Order.Lattice
import SyntaxReport.Line.Tabs

/-! Raw and rendered columns. The expansion of a line is the expansion of its parts in order, so a
raw column stands where the expansion of the characters before it ends. That place grows strictly
along the line, which makes the map from raw to rendered columns an embedding of orders. -/
namespace SyntaxReport.Line

/-- Where a column of the raw line stands in its expansion, if tabs can be expanded at all. -/
def columnAt (size : Int) (raw : Text) (column : Int) : Int :=
  max (advance size 0 (raw.take column.toNat)) column

theorem renderedColumn_eq_ok {size : Int} (h : 0 < size) (raw : Text) (column : Int) :
    renderedColumn size raw column = .ok (columnAt size raw column) :=
  renderedColumn_of_ne_zero (by omega) raw column

theorem nextStop_eq (size p : Int) : (Int.fdiv p size + 1) * size = p + tabWidth size p := by
  have h := Int.fmod_add_fdiv_mul p size
  rw [Int.add_mul, Int.one_mul]
  unfold tabWidth
  omega

theorem advance_eq {size : Int} (h : 0 < size) (p : Int) (line : Text) :
    advance size p line = p + (expandFrom size p line).length := by
  induction line generalizing p with
  | nil => simp [advance, expandFrom]
  | cons c rest ih =>
    -- a tab advances to the next stop, which is as far as its spaces reach
    by_cases hc : c = '\t'
    · have hw := tabWidth_pos h p
      simp only [advance, expandFrom, hc, if_true, nextStop_eq, ih, List.length_append,
        Text.length_spaces]
      omega
    · simp only [advance, expandFrom, hc, if_false, ih, List.length_cons]
      omega

theorem expandFrom_append (size p : Int) (xs ys : Text) :
    expandFrom size p (xs ++ ys) =
      expandFrom size p xs ++ expandFrom size (advance size p xs) ys := by
  induction xs generalizing p with
  | nil => rfl
  | cons c rest ih =>
    by_cases hc : c = '\t'
    · simp only [List.cons_append, expandFrom, advance, hc, if_true, nextStop_eq, ih,
        List.append_assoc]
    · simp only [List.cons_append, expandFrom, advance, hc, if_false, ih]

theorem length_le_length_expandFrom {size : Int} (h : 0 < size) (p : Int) (line : Text) :
    line.length ≤ (expandFrom size p line).length := by
  induction line generalizing p with
  | nil => simp
  | cons c rest ih =>
    have hw := tabWidth_pos h p
    by_cases hc : c = '\t'
    · have hr := ih (p + tabWidth size p)
      simp only [expandFrom, hc, if_true, List.length_append, Text.length_spaces, List.length_cons]
      omega
    · have hr := ih (p + 1)
      simp only [expandFrom, hc, if_false, List.length_cons]
      omega

theorem columnAt_eq {size : Int} (h : 0 < size) (raw : Text) (column : Int) :
    columnAt size raw column =
      max ((expandFrom size 0 (raw.take column.toNat)).length : Int) column := by
  rw [columnAt, advance_eq h, Int.zero_add]

/-- A column inside the line stands where the expansion of the characters before it ends. -/
theorem columnAt_natCast {size : Int} (h : 0 < size) {raw : Text} {j : Nat} (hj : j ≤ raw.length) :
    columnAt size raw j = (expandFrom size 0 (raw.take j)).length := by
  -- an expansion is never shorter than the line, so the maximum is the expansion
  have hl := length_le_length_expandFrom h 0 (raw.take j)
  rw [List.length_take, Nat.min_eq_left hj] at hl
  rw [columnAt_eq h, Int.toNat_natCast]
  omega

theorem columnAt_nonneg {size : Int} (h : 0 < size) (raw : Text) (column : Int) :
    0 ≤ columnAt size raw column := by
  rw [columnAt_eq h]
  omega

theorem length_expandFrom_take_le (size : Int) (raw : Text) {i j : Nat} (hij : i ≤ j) :
    (expandFrom size 0 (raw.take i)).length ≤ (expandFrom size 0 (raw.take j)).length := by
  obtain ⟨d, rfl⟩ := Nat.exists_eq_add_of_le hij
  rw [List.take_add, expandFrom_append, List.length_append]
  omega

theorem columnAt_mono {size : Int} (h : 0 < size) (raw : Text) {c d : Int} (hcd : c ≤ d) :
    columnAt size raw c ≤ columnAt size raw d := by
  have hl := length_expandFrom_take_le size raw (Int.toNat_le_toNat hcd)
  rw [columnAt_eq h, columnAt_eq h]
  omega

/-- A character takes at least one column, so nothing behind it stands at its column. -/
theorem columnAt_lt {size : Int} (h : 0 < size) {raw : Text} {j : Nat} (hj : j < raw.length)
    {c : Int} (hc : (j : Int) < c) : columnAt size raw j < columnAt size raw c := by
  -- the character at `j` widens the expansion, and what follows cannot narrow it
  have hs : (expandFrom size 0 (raw.take j)).length <
      (expandFrom size 0 (raw.take (j + 1))).length := by
    have hl := length_le_length_expandFrom h (advance size 0 (raw.take j)) [raw[j]]
    rw [List.length_singleton] at hl
    rw [← List.take_append_getElem hj, expandFrom_append, List.length_append]
    omega
  have hl := length_expandFrom_take_le size raw (show j + 1 ≤ c.toNat by omega)
  rw [columnAt_natCast h hj.le, columnAt_eq h]
  omega

/-- A column stands at or behind a character of the line exactly if it does so in the expansion. -/
theorem columnAt_le_columnAt_iff {size : Int} (h : 0 < size) {raw : Text} {j : Nat}
    (hj : j < raw.length) {c : Int} (hc : 0 ≤ c) :
    columnAt size raw j ≤ columnAt size raw c ↔ (j : Int) ≤ c := by
  constructor
  · intro hle
    by_contra hlt
    -- `c` is then a column of the line itself and stands before `j`
    obtain ⟨i, rfl⟩ := Int.eq_ofNat_of_zero_le hc
    have hs := columnAt_lt h (show i < raw.length by omega) (show (i : Int) < (j : Int) by omega)
    omega
  · exact columnAt_mono h raw

theorem columnAt_le_columnAt_natCast_iff {size : Int} (h : 0 < size) {raw : Text} {j : Nat}
    (hj : j < raw.length) (c : Int) :
    columnAt size raw c ≤ columnAt size raw j ↔ c ≤ (j : Int) := by
  constructor
  · intro hle
    by_contra hlt
    have hs := columnAt_lt h hj (show (j : Int) < c by omega)
    omega
  · exact columnAt_mono h raw

/-- A character that is not a tab stands at its rendered column. -/
theorem getElem?_expandFrom {size : Int} (h : 0 < size) {raw : Text} {j : Nat} {c : Char}
    (hj : raw[j]? = some c) (hc : c ≠ '\t') :
    (expandFrom size 0 raw)[(columnAt size raw j).toNat]? = some c := by
  obtain ⟨hlt, rfl⟩ := List.getElem?_eq_some_iff.mp hj
  have he : expandFrom size 0 raw = expandFrom size 0 (raw.take j) ++
      raw[j] :: expandFrom size (advance size 0 (raw.take j) + 1) (raw.drop (j + 1)) := by
    conv_lhs => rw [← List.take_append_drop j raw, List.drop_eq_getElem_cons hlt]
    rw [expandFrom_append, expandFrom, if_neg hc]
  rw [columnAt_natCast h hlt.le, Int.toNat_natCast, he, List.getElem?_append_right le_rfl,
    Nat.sub_self]
  rfl

theorem length_expandFrom_le {size : Int} (h : 0 < size) (p : Int) (line : Text) :
    ((expandFrom size p line).length : Int) ≤ line.length * size := by
  induction line generalizing p with
  | nil => simp [expandFrom]
  | cons c rest ih =>
    have hw := tabWidth_le h p
    have hp := tabWidth_pos h p
    rw [List.length_cons, Int.natCast_succ, Int.add_mul, Int.one_mul]
    by_cases hc : c = '\t'
    · have hr := ih (p + tabWidth size p)
      simp only [expandFrom, hc, if_true, List.length_append, Text.length_spaces]
      omega
    · have hr := ih (p + 1)
      simp only [expandFrom, hc, if_false, List.length_cons]
      omega

theorem columnAt_le_mul {size : Int} (h : 0 < size) (raw : Text) {c : Int} (hc : 0 ≤ c) :
    columnAt size raw c ≤ c * size := by
  -- no column is moved further than if every character before it were a tab
  have hl := length_expandFrom_le h 0 (raw.take c.toNat)
  have ht : ((raw.take c.toNat).length : Int) ≤ c := by
    rw [List.length_take]
    omega
  have hm : ((raw.take c.toNat).length : Int) * size ≤ c * size :=
    Int.mul_le_mul_of_nonneg_right ht h.le
  have hcs : c * 1 ≤ c * size := Int.mul_le_mul_of_nonneg_left h hc
  rw [columnAt_eq h]
  omega

theorem not_mem_expandFrom {c : Char} (hc : c ≠ ' ') {size p : Int} {line : Text}
    (h : c ∉ line) : c ∉ expandFrom size p line := by
  induction line generalizing p with
  | nil => simp [expandFrom]
  | cons d rest ih =>
    rw [List.mem_cons, not_or] at h
    by_cases hd : d = '\t'
    · simp only [expandFrom, hd, if_true, List.mem_append, not_or]
      refine ⟨fun hm => hc ?_, ih h.2⟩
      exact List.eq_of_mem_replicate hm
    · simp only [expandFrom, hd, if_false, List.mem_cons, not_or]
      exact ⟨h.1, ih h.2⟩

end SyntaxReport.Line
