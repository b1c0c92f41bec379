/-! Texts are lists of characters, so that every length, column and index counts characters.
The operations here are the ones that lines, gutters and messages share. -/
namespace SyntaxReport

abbrev Text := List Char

namespace Text

/-- A run of spaces; a count of zero or below gives the empty text. -/
def spaces (count : Int) : Text :=
  List.replicate count.toNat ' '

/-- The texts in order with `separator` between neighbours. -/
def joined (separator : Text) : List Text → Text
  | [] => []
  | [t] => t
  | t :: rest => t ++ separator ++ joined separator rest

/-- Every occurrence of the character `c` replaced by the text `r`. -/
def replaceChar (c : Char) (r : Text) (t : Text) : Text :=
  t.flatMap fun x => if x = c then r else [x]

@[simp]
theorem length_spaces (count : Int) : (spaces count).length = count.toNat := by
  simp [spaces]

end Text

end SyntaxReport
