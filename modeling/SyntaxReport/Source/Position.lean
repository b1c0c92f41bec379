import SyntaxReport.Source.Token

/-! Places in a source, ordered as they are read: by line, then by column. -/
namespace SyntaxReport

structure Position where
  line : Int
  column : Int
  deriving DecidableEq, Repr

namespace Position

instance : LT Position where
  lt p q := p.line < q.line ∨ p.line = q.line ∧ p.column < q.column

instance : LE Position where
  le p q := p.line < q.line ∨ p.line = q.line ∧ p.column ≤ q.column

instance (p q : Position) : Decidable (p < q) :=
  inferInstanceAs (Decidable (_ ∨ _))

instance (p q : Position) : Decidable (p ≤ q) :=
  inferInstanceAs (Decidable (_ ∨ _))

instance : Ord Position where
  compare p q := (compare p.line q.line).then (compare p.column q.column)

/-- Whether the position can exist: lines start at one and columns at zero. -/
def IsValid (p : Position) : Prop :=
  1 ≤ p.line ∧ 0 ≤ p.column

instance (p : Position) : Decidable p.IsValid :=
  inferInstanceAs (Decidable (_ ∧ _))

/-- The line counted from zero. -/
def line0 (p : Position) : Int :=
  p.line - 1

def ofStart (t : Token) : Position :=
  ⟨t.line, t.column⟩

/-- The position behind one more character: a line feed starts the next line and a carriage return
takes no column. -/
def step (p : Position) (c : Char) : Position :=
  if c = '\r' then p
  else if c = '\n' then ⟨p.line + 1, 0⟩
  else ⟨p.line, p.column + 1⟩

/-- The position of a token's last character; the end of input is a single point. -/
def ofStop (t : Token) (source : Text) : Position :=
  if t.isEof then ofStart t else (t.textIn source).dropLast.foldl step (ofStart t)

def describe (p : Position) : Text :=
  "SourcePosition(line=".toList ++ Text.ofInt p.line ++ ", column=".toList ++
    Text.ofInt p.column ++ [')']

theorem lt_iff (p q : Position) :
    p < q ↔ p.line < q.line ∨ p.line = q.line ∧ p.column < q.column := Iff.rfl

theorem le_iff (p q : Position) :
    p ≤ q ↔ p.line < q.line ∨ p.line = q.line ∧ p.column ≤ q.column := Iff.rfl

theorem le_refl (p : Position) : p ≤ p := by
  rw [le_iff]
  omega

theorem not_lt (p q : Position) : ¬ p < q ↔ q ≤ p := by
  rw [lt_iff, le_iff]
  omega

end Position

end SyntaxReport
