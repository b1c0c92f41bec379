import SyntaxReport.Sequence
import SyntaxReport.Text.Basic

/-! Line breaks. A line ends at a line feed, and a carriage return directly before that line feed
belongs to the break. -/
namespace SyntaxReport.Line

/-- The lines with `c` put in front of the first one. -/
def consFirst (c : Char) : List Text → List Text
  | [] => [[c]]
  | l :: rest => (c :: l) :: rest

/-- Every piece between two breaks, also the empty ones. -/
def pieces : Text → List Text
  | [] => [[]]
  | '\r' :: '\n' :: rest => [] :: pieces rest
  | c :: rest => if c = '\n' then [] :: pieces rest else consFirst c (pieces rest)

/-- The lines of a text: its pieces without the empty ones at the end, of which one stays if there
is nothing else. -/
def split (t : Text) : List Text :=
  match pieces t with
  | [] => []
  | l :: rest => l :: Sequence.dropTrailing List.isEmpty rest

/-- How many line feeds a text has. -/
def countBreaks (t : Text) : Nat :=
  t.count '\n'

/-- The text with every break, also a lone carriage return, written as a line feed. -/
def unifyBreaks : Text → Text
  | [] => []
  | '\r' :: '\n' :: rest => '\n' :: unifyBreaks rest
  | c :: rest => (if c = '\r' then '\n' else c) :: unifyBreaks rest

theorem consFirst_ne_nil (c : Char) (ls : List Text) : consFirst c ls ≠ [] := by
  cases ls <;> simp [consFirst]

theorem length_consFirst (c : Char) {ls : List Text} (h : ls ≠ []) :
    (consFirst c ls).length = ls.length := by
  cases ls with
  | nil => exact absurd rfl h
  | cons l rest => rfl

theorem pieces_ne_nil (t : Text) : pieces t ≠ [] := by
  fun_induction pieces t <;> simp [consFirst_ne_nil]

theorem split_ne_nil (t : Text) : split t ≠ [] := by
  unfold split
  split
  · exact absurd ‹_› (pieces_ne_nil t)
  · simp

end SyntaxReport.Line
