import SyntaxReport.Text.Count
import SyntaxReport.Text.Decimal
import SyntaxReport.Value.Basic

/-! The column of line numbers on the left of a snippet. All labels of one gutter have the same
length, so source lines and marker lines stay aligned. -/
namespace SyntaxReport

structure Gutter where
  width : Int
  suffix : Text := ": ".toList
  pad : Text := ['0']
  deriving DecidableEq, Repr

/-- A line number as it is asked for. A truth value passes for one or zero, but it is written as a
word. -/
inductive LineNumber where
  | int (n : Int)
  | truth (b : Bool)
  deriving DecidableEq, Repr

inductive GutterError where
  /-- The number has more characters than the gutter is wide. -/
  | tooWide (number width : Int)
  /-- The word for a truth value has more characters than the gutter is wide. -/
  | wordTooWide (word : Text) (width : Int)
  /-- The padding is not a single character. -/
  | badPadding
  /-- Width and suffix together have a negative length. -/
  | negativeLength
  /-- The width fits no machine word, so that nothing can be padded to it. -/
  | widthNotAWord
  /-- The label or the blank below it has a wrong length. -/
  | length (cause : CountError)
  /-- The number has too many digits to be written. -/
  | tooManyDigits
  deriving DecidableEq, Repr

namespace GutterError

/-- The complaint about a number that does not fit, or about the width if that is too long to be
written. -/
def tooWideMessage (written : Text) (width : Int) : Text :=
  if Text.isWritable width then
    "line number ".toList ++ written ++
      " does not fit a gutter of width ".toList ++ Text.ofInt width
  else Text.tooManyDigits none

def message : GutterError → Text
  | tooWide number width => tooWideMessage (Text.ofInt number) width
  | wordTooWide word width => tooWideMessage word width
  | badPadding => "the padding must be a single character".toList
  | negativeLength => "__len__() should return >= 0".toList
  | widthNotAWord => "the width must be a machine word".toList
  | length _ => "the gutter is too long".toList
  | tooManyDigits => Text.tooManyDigits none

end GutterError

namespace Gutter

def empty : Gutter :=
  { width := 0, suffix := [], pad := [] }

/-- The gutter of a document: none for a single line, otherwise wide enough for the highest line
number that is shown. -/
def forDocument (totalLines highestLine : Int) : Gutter :=
  if totalLines ≤ 1 then empty else { width := Text.digitWidth highestLine }

variable [Memory]

/-- What is written for a number, padded on the left to the width, and the suffix. -/
def padded (g : Gutter) (written : Text) (misfit : GutterError) : Except GutterError Text :=
  if g.width = 0 then .ok g.suffix
  else if g.width < written.length then .error misfit
  else if !Text.isWord g.width then .error .widthNotAWord
  else match g.pad with
    | [c] =>
      if Memory.maxRun < g.width then .error (.length .tooMany)
      else .ok (List.replicate (g.width - written.length).toNat c ++ written ++ g.suffix)
    | _ => .error .badPadding

/-- The label of a line. -/
def label (g : Gutter) (number : Int) : Except GutterError Text :=
  g.padded (Text.ofInt number) (.tooWide number g.width)

/-- The label of any number that is asked for. No line of a source has a number that is too long to
be written, other integers may be. -/
def labelOf (g : Gutter) : LineNumber → Except GutterError Text
  | .int n => if g.width ≠ 0 ∧ !Text.isWritable n then .error .tooManyDigits else g.label n
  | .truth b =>
    let word := (Value.bool b).describe
    g.padded word (.wordTooWide word g.width)

def length (g : Gutter) : Except GutterError Nat :=
  let n := g.width + g.suffix.length
  if n < 0 then .error .negativeLength
  else if !Text.isWord n then .error (.length .notAWord)
  else .ok n.toNat

/-- The spaces that stand below a label. -/
def blank (g : Gutter) : Except GutterError Text := do
  (Text.spaces? (← g.length)).mapError .length

end Gutter

end SyntaxReport
