import SyntaxReport.Source.Token

/-! Reported syntax errors and the failures that cause them. -/
namespace SyntaxReport

mutual

/-- Something that went wrong: a report, or a failure known by its text alone. -/
inductive Failure where
  | plain (text : Text)
  | report (r : Report)

/-- A syntax error ready to be shown, with the failure that led to it. -/
structure Report where
  message : Text
  snippet : Text
  start : Option Token
  stop : Option Token
  cause : Option Failure
  /-- The failure that is shown before this one. -/
  chained : Option Failure

end

instance : Inhabited Failure :=
  ⟨.plain []⟩

namespace Report

/-- A new report, which is chained to its cause. -/
def make (message snippet : Text) (start stop : Option Token := none)
    (cause : Option Failure := none) : Report :=
  { message, snippet, start, stop, cause, chained := cause }

instance : Inhabited Report :=
  ⟨make [] []⟩

/-- The message and, below a blank line, the snippet unless it is empty. -/
def text (r : Report) : Text :=
  if r.snippet.isEmpty then r.message else r.message ++ ['\n', '\n'] ++ r.snippet

end Report

namespace Failure

def text : Failure → Text
  | plain t => t
  | report r => r.text

end Failure

mutual

/-- Whether two separately raised failures agree; plain failures never do. -/
def Failure.agrees : Failure → Failure → Bool
  | .report r, .report s => r.agrees s
  | _, _ => false

/-- Whether two separately raised reports agree in every part that they are made from. -/
def Report.agrees : Report → Report → Bool
  | ⟨m, t, a, b, none, _⟩, ⟨m', t', a', b', none, _⟩ =>
    m == m' && t == t' && Token.isSame? a a' && Token.isSame? b b'
  | ⟨m, t, a, b, some c, _⟩, ⟨m', t', a', b', some c', _⟩ =>
    m == m' && t == t' && Token.isSame? a a' && Token.isSame? b b' && c.agrees c'
  | _, _ => false

end

end SyntaxReport
