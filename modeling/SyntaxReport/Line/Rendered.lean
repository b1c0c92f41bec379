import SyntaxReport.Line.Tabs
import SyntaxReport.Text.Blank

/-! A line prepared for display: trimmed on the right and with its tabs expanded. -/
namespace SyntaxReport

open Line (LineError)

structure RenderedLine where
  raw : Text
  text : Text
  tabSize : Int
  deriving DecidableEq, Repr

namespace RenderedLine

def ofLine [Memory] (tabSize : Int) (line : Text) : Except LineError RenderedLine := do
  let raw := Line.trimRight line
  return { raw, text := ← Line.expandTabs tabSize raw, tabSize }

def length (line : RenderedLine) : Nat :=
  line.text.length

def column (line : RenderedLine) (raw : Int) : Except LineError Int :=
  Line.renderedColumn line.tabSize line.raw raw

/-- Whether a separator stands at a rendered column. Columns past the end are not blank, so that a
marker can point just behind the last character. -/
def isBlankAt (line : RenderedLine) (column : Int) : Except LineError Bool :=
  if column < line.length then
    match Sequence.item? line.text column with
    | some c => .ok (isBlank c)
    | none => .error .columnOutOfRange
  else .ok false

/-- Whether separators stand at `count` rendered columns from `first` on. -/
def blanks (line : RenderedLine) (first count : Nat) : List Bool :=
  let inside := (line.text.drop first).take count
  inside.map isBlank ++ List.replicate (count - inside.length) false

theorem length_blanks (line : RenderedLine) (first count : Nat) :
    (line.blanks first count).length = count := by
  simp only [blanks, List.length_append, List.length_map, List.length_replicate, List.length_take]
  omega

/-- The columns are looked at one by one. -/
theorem getElem?_blanks (line : RenderedLine) {first count i : Nat} (h : i < count) :
    (line.blanks first count)[i]? = some (line.text[first + i]?.any isBlank) := by
  unfold blanks
  by_cases hi : first + i < line.text.length
  · have hl : i < ((line.text.drop first).take count).length := by
      simp only [List.length_take, List.length_drop]
      omega
    rw [List.getElem?_append_left (by simpa using hl)]
    simp [h, hi]
  · have hl : ((line.text.drop first).take count).length ≤ i := by
      simp only [List.length_take, List.length_drop]
      omega
    rw [List.getElem?_append_right (by simpa using hl)]
    have ho : line.text[first + i]? = none := List.getElem?_eq_none (by omega)
    rw [ho, List.getElem?_replicate, if_pos (by simp only [List.length_map]; omega)]
    rfl

end RenderedLine

end SyntaxReport
