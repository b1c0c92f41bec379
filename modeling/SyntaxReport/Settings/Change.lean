import SyntaxReport.Settings.Basic

/-! Changing settings one field at a time. A list of changes is applied from left to right, so the
last one for a field wins, and the result is checked once at the end. -/
namespace SyntaxReport.Settings

inductive Change where
  | tabSize (n : Int)
  | linesBefore (n : Int)
  | linesAfter (n : Int)
  | margin (t : Text)
  | marker (t : Text)
  deriving DecidableEq, Repr

/-- The change that makes the margin `count` spaces wide. -/
def Change.indent (count : Int) : Change :=
  .margin (Text.spaces count)

def set (s : Settings) : Change → Settings
  | .tabSize n => { s with tabSize := n }
  | .linesBefore n => { s with linesBefore := n }
  | .linesAfter n => { s with linesAfter := n }
  | .margin t => { s with margin := t }
  | .marker t => { s with marker := t }

def setAll (s : Settings) (changes : List Change) : Settings :=
  changes.foldl set s

/-- Settings from changes to the defaults. -/
def build (changes : List Change) : Except SettingsFault Settings :=
  (setAll {} changes).check

/-- The settings after some changes; unchanged settings are not looked at again. -/
def evolve (s : Settings) (changes : List Change) : Except SettingsFault Settings :=
  (s.setAll changes).check

inductive IndentFault where
  | negativeIndent
  | marginGiven
  | rejected (fault : SettingsFault)
  deriving DecidableEq, Repr

def IndentFault.message : IndentFault → Text
  | negativeIndent => "indent must not be negative".toList
  | marginGiven => "with_indent sets the prefix, do not pass prefix as well".toList
  | rejected fault => fault.message

def Change.isMargin : Change → Bool
  | .margin _ => true
  | _ => false

/-- Settings with a margin of `count` spaces and some changes to other fields. -/
def withIndent (count : Int) (changes : List Change) : Except IndentFault Settings :=
  if count < 0 then .error .negativeIndent
  else if changes.any Change.isMargin then .error .marginGiven
  else (build (.indent count :: changes)).mapError .rejected

end SyntaxReport.Settings
