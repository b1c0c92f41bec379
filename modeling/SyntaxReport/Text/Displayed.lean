import SyntaxReport.Text.Basic

/-! How texts taken from a source appear inside one-line messages: in single quotes, with line
breaks and tabs spelled out. Backslashes and quotes stay as they are, so the form is meant for
readers and not for reading back. -/
namespace SyntaxReport.Text

/-- The text with line feeds, carriage returns and tabs written as two-character escapes. -/
def escapeControls (t : Text) : Text :=
  replaceChar '\t' ['\\', 't'] (replaceChar '\r' ['\\', 'r'] (replaceChar '\n' ['\\', 'n'] t))

def displayed (t : Text) : Text :=
  ['\''] ++ escapeControls t ++ ['\'']

example : displayed "a\tb".toList = "'a\\tb'".toList := rfl

end SyntaxReport.Text
