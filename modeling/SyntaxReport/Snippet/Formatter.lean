import SyntaxReport.Line.Breaks
import SyntaxReport.Line.Rendered
import SyntaxReport.Report.Failure
import SyntaxReport.Settings.Basic
import SyntaxReport.Snippet.Gutter
import SyntaxReport.Source.Span

/-! Snippets: the lines around a span, each with its number, and markers below the offending
columns. A snippet is a list of rows; its text is the text of the rows in order. -/
namespace SyntaxReport

/-- One shown source line and the marker line below it, both without their line breaks. -/
structure Row where
  /-- The line's index, counted from zero. -/
  index : Nat
  source : Text
  marks : Option Text
  deriving DecidableEq, Repr

def Row.text (r : Row) : Text :=
  r.source ++ ['\n'] ++ match r.marks with
    | none => []
    | some m => m ++ ['\n']

inductive RenderError where
  | line (cause : Line.LineError)
  | gutter (cause : GutterError)
  deriving DecidableEq, Repr

/-- A way to draw snippets. The marker, the text for a missing location and the gutter follow the
settings unless they are replaced. -/
structure Formatter where
  settings : Settings := {}
  marker : Text := settings.marker
  missing : Option Failure → Text := fun cause => cause.elim [] Failure.text
  gutter : (totalLines highestLine : Int) → Gutter := Gutter.forDocument

namespace Formatter

/-- The formatter that follows the settings in everything. -/
def standard (settings : Settings) : Formatter :=
  { settings }

/-- The lines of a source, with the empty lines at its end that a stop on line `stop0` reaches: the
end of input may lie behind final line breaks. -/
def documentLines (source : Text) (stop0 : Int) : List Text :=
  let lines := Line.split source
  if lines.length ≤ stop0 ∧ stop0 < Line.countBreaks source + 1 then
    lines ++ List.replicate (stop0 + 1 - lines.length).toNat []
  else lines

/-- The characters below a run of columns, given which of them are blank: spaces up to the first
column that is not blank, and markers from there on. -/
def latch (marker : Text) (blanks : List Bool) : Text :=
  let leading := (blanks.takeWhile id).length
  Text.spaces leading ++ (List.replicate (blanks.length - leading) marker).flatten

/-- Whether line `n` of a span gets a marker line. Empty lines strictly inside do not. -/
def hasMarks (span : Span) (n : Int) (line : RenderedLine) : Bool :=
  let start0 := span.start.line0
  let stop0 := span.stop.line0
  decide (start0 ≤ n ∧ n ≤ stop0 ∧ ¬ (start0 < n ∧ n < stop0 ∧ line.length = 0))

/-- The rendered columns of line `n` that a span covers, as the first one and the one behind the
last. -/
def markedColumns (span : Span) (n : Int) (line : RenderedLine) :
    Except Line.LineError (Int × Int) := do
  let first ← if n = span.start.line0 then line.column span.start.column else pure 0
  if n = span.stop.line0 then
    return (first, (← line.column span.stop.column) + 1)
  else if n = span.start.line0 then
    return (first, max (first + 1) line.length)
  else
    return (first, line.length)

variable [Memory]

/-- The marker line below line `n`. Lines before the last one lose their trailing spaces. -/
def marks (f : Formatter) (g : Gutter) (span : Span) (n : Int) (line : RenderedLine) :
    Except RenderError Text := do
  let (first, bound) ← (markedColumns span n line).mapError .line
  let indent ← g.blank.mapError .gutter
  let lead ← (Text.spaces? first).mapError fun e => .line (.spaces e)
  let drawn := f.settings.margin ++ indent ++ lead ++
    latch f.marker (line.blanks first.toNat (bound - first).toNat)
  return if n < span.stop.line0 then Sequence.dropTrailing (· == ' ') drawn else drawn

def row (f : Formatter) (g : Gutter) (span : Span) (text : Text) (n : Nat) :
    Except RenderError Row := do
  let line ← (RenderedLine.ofLine f.settings.tabSize text).mapError .line
  let label ← (g.label (n + 1)).mapError .gutter
  let source := f.settings.margin ++ label ++ line.text
  if hasMarks span n line then
    return { index := n, source, marks := some (← f.marks g span n line) }
  else
    return { index := n, source, marks := none }

/-- The index of the first line that is shown around a span. -/
def firstShown (f : Formatter) (span : Span) : Int :=
  max (span.start.line0 - f.settings.linesBefore) 0

/-- The index of the last line that is shown around a span. -/
def lastShown (f : Formatter) (span : Span) (source : Text) : Int :=
  min (span.stop.line0 + f.settings.linesAfter)
    (((documentLines source span.stop.line0).length : Int) - 1)

/-- The lines that are shown around a span, each with its index. -/
def shownLines (f : Formatter) (span : Span) (source : Text) : List (Text × Nat) :=
  let first := f.firstShown span
  ((documentLines source span.stop.line0).zipIdx.drop first.toNat).take
    (f.lastShown span source + 1 - first).toNat

/-- The gutter of the lines that are shown around a span. -/
def shownGutter (f : Formatter) (span : Span) (source : Text) : Gutter :=
  f.gutter (documentLines source span.stop.line0).length (f.lastShown span source + 1)

/-- The rows that show a span whose ends are valid and in order. -/
def rows (f : Formatter) (span : Span) (source : Text) : Except RenderError (List Row) :=
  let g := f.shownGutter span source
  (f.shownLines span source).mapM fun (text, n) => f.row g span text n

/-- The snippet of a span, or the text for a missing location if the span has no valid end. -/
def render (f : Formatter) (span : Span) (source : Text) (cause : Option Failure := none) :
    Except RenderError Text :=
  match span.normalized with
  | none => .ok (f.missing cause)
  | some resolved => (f.rows resolved source).map fun rows => rows.flatMap Row.text

/-- The snippet between two tokens. -/
def format (f : Formatter) (start stop : Token) (source : Text) (cause : Option Failure := none) :
    Except RenderError Text :=
  f.render (.ofTokens start stop source) source cause

end Formatter

end SyntaxReport
