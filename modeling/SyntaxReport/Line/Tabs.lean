import SyntaxReport.Sequence
import SyntaxReport.Text.Count

/-! Tab stops. A tab advances to the next multiple of the tab size, so a column of the raw line and
the same place in the expanded line differ by the width of the tabs before it. Sizes may be any
integer: division rounds down, a size of zero fails at the first tab, and so does a tab that is too
wide for a run of spaces. -/
namespace SyntaxReport.Line

inductive LineError where
  | zeroTabSize
  | columnOutOfRange
  /-- A run of spaces has a wrong count. -/
  | spaces (cause : CountError)
  deriving DecidableEq, Repr

/-- The line without its trailing spaces and control characters. -/
def trimRight (line : Text) : Text :=
  Sequence.dropTrailing (fun c => decide (c ≤ ' ')) line

/-- How far a tab at column `p` reaches. -/
def tabWidth (size p : Int) : Int :=
  size - Int.fmod p size

/-- The expansion of a line whose first character stands at column `p`. -/
def expandFrom (size p : Int) : Text → Text
  | [] => []
  | c :: rest =>
    if c = '\t' then Text.spaces (tabWidth size p) ++ expandFrom size (p + tabWidth size p) rest
    else c :: expandFrom size (p + 1) rest

/-- What is wrong with the first tab that is too wide, in a line whose first character stands at
column `p`. -/
def tabError? [Memory] (size p : Int) : Text → Option CountError
  | [] => none
  | c :: rest =>
    if c = '\t' then
      match Text.countError? (tabWidth size p) with
      | some e => some e
      | none => tabError? size (p + tabWidth size p) rest
    else tabError? size (p + 1) rest

/-- The line with every tab written as spaces. -/
def expandTabs [Memory] (size : Int) (line : Text) : Except LineError Text :=
  if size = 0 ∧ '\t' ∈ line then .error .zeroTabSize
  else match tabError? size 0 line with
    | some e => .error (.spaces e)
    | none => .ok (expandFrom size 0 line)

/-- The rendered column reached after the characters of a line, from column `p` on. -/
def advance (size p : Int) : Text → Int
  | [] => p
  | c :: rest =>
    if c = '\t' then advance size ((Int.fdiv p size + 1) * size) rest
    else advance size (p + 1) rest

/-- Where a column of the raw line stands in its expansion. Columns beyond the line keep their
number unless the expansion is already past it. -/
def renderedColumn (size : Int) (raw : Text) (column : Int) : Except LineError Int :=
  let before := raw.take column.toNat
  if size = 0 ∧ '\t' ∈ before then .error .zeroTabSize
  else .ok (max (advance size 0 before) column)

theorem expandFrom_of_not_mem {size p : Int} {line : Text} (h : '\t' ∉ line) :
    expandFrom size p line = line := by
  induction line generalizing p with
  | nil => rfl
  | cons c rest ih =>
    have hc : c ≠ '\t' := fun e => h (by simp [e])
    have hr : '\t' ∉ rest := fun m => h (List.mem_cons_of_mem _ m)
    simp [expandFrom, hc, ih hr]

theorem tabError?_of_not_mem [Memory] {size p : Int} {line : Text} (h : '\t' ∉ line) :
    tabError? size p line = none := by
  induction line generalizing p with
  | nil => rfl
  | cons c rest ih =>
    have hc : c ≠ '\t' := fun e => h (by simp [e])
    have hr : '\t' ∉ rest := fun m => h (List.mem_cons_of_mem _ m)
    simp [tabError?, hc, ih hr]

theorem tabWidth_pos {size : Int} (h : 0 < size) (p : Int) : 0 < tabWidth size p := by
  have hlt := Int.fmod_lt_of_pos p h
  unfold tabWidth
  omega

theorem tabWidth_le {size : Int} (h : 0 < size) (p : Int) : tabWidth size p ≤ size := by
  have hnn := Int.fmod_nonneg_of_pos p h
  unfold tabWidth
  omega

theorem tabError?_of_le [Memory] {size : Int} (h0 : 0 < size) (h : size ≤ Memory.maxRun) (p : Int)
    (line : Text) : tabError? size p line = none := by
  induction line generalizing p with
  | nil => rfl
  | cons c rest ih =>
    have hpos := tabWidth_pos h0 p
    have hle := tabWidth_le h0 p
    have hw : Text.countError? (tabWidth size p) = none :=
      Text.countError?_of_le (by omega) (by omega)
    unfold tabError?
    rw [hw]
    split
    · exact ih _
    · exact ih _

/-- Tabs of a positive size that there is room for are always expanded. -/
theorem expandTabs_of_le [Memory] {size : Int} (h0 : 0 < size) (h : size ≤ Memory.maxRun)
    (line : Text) :
    expandTabs size line = .ok (expandFrom size 0 line) := by
  have hz : size ≠ 0 := by omega
  simp [expandTabs, hz, tabError?_of_le h0 h]

theorem expandTabs_of_not_mem [Memory] {line : Text} (h : '\t' ∉ line) (size : Int) :
    expandTabs size line = .ok line := by
  simp [expandTabs, h, tabError?_of_not_mem h, expandFrom_of_not_mem h]

theorem renderedColumn_of_ne_zero {size : Int} (h : size ≠ 0) (raw : Text) (column : Int) :
    renderedColumn size raw column = .ok (max (advance size 0 (raw.take column.toNat)) column) := by
  simp [renderedColumn, h]

end SyntaxReport.Line
