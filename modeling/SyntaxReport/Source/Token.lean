import SyntaxReport.Text.Decimal
import SyntaxReport.Text.Displayed

/-! Lexer tokens as diagnostics see them: where a token lies, and what the lexer recorded about it.
Lines count from one, columns and character indexes from zero, and the last index is inclusive. -/
namespace SyntaxReport

/-- What a lexer recorded about a token beyond its place. -/
structure Lexeme where
  text : Option Text := none
  kind : Option Int := some 0
  deriving DecidableEq, Repr

/-- A token; without a lexeme only its place is known. -/
structure Token where
  line : Int := 1
  column : Int := 0
  first : Int := 0
  last : Int := 0
  isEof : Bool := false
  lexeme : Option Lexeme := some {}
  deriving DecidableEq, Repr

namespace Token

/-- The kind number that grammars reserve for the end of input. -/
def eofKind : Int := -1

/-- The end of input as messages name it. -/
def eofText : Text := "<EOF>".toList

def text? (t : Token) : Option Text :=
  t.lexeme.bind (·.text)

def kind? (t : Token) : Option Int :=
  t.lexeme.bind (·.kind)

/-- The characters of `source` between two inclusive indexes, the first not negative. -/
def slice (source : Text) (first last : Int) : Text :=
  (source.drop first.toNat).take (last + 1 - first).toNat

/-- The characters a token covers: its own text if it has one, otherwise its part of the source. -/
def textIn (t : Token) (source : Text) : Text :=
  match t.text? with
  | some own => own
  | none => if t.first < 0 ∨ t.last < t.first then [] else slice source t.first t.last

/-- Whether two tokens that were met apart are the same. Of a token without a lexeme only the place
is known, and a place does not tell tokens apart. -/
def isSame (t u : Token) : Bool :=
  t == u && t.lexeme.isSome

/-- Whether two places for tokens hold the same token or none. -/
def isSame? : Option Token → Option Token → Bool
  | none, none => true
  | some t, some u => t.isSame u
  | _, _ => false

/-- Which of several tokens are the same; each is the same as itself. -/
def sameness (ts : List (Option Token)) : List (List Bool) :=
  ts.zipIdx.map fun (t, i) => ts.zipIdx.map fun (u, j) => i == j || isSame? t u

/-- One line that shows the indexes, the text and the place of a token. -/
def describe (t : Token) : Text :=
  let shown := match t.text? with
    | none => "<no text>".toList
    | some own => own.displayed
  "[@-1,".toList ++ Text.ofInt t.first ++ [':'] ++ Text.ofInt t.last ++ ['='] ++ shown ++ [','] ++
    Text.ofInt t.line ++ [':'] ++ Text.ofInt t.column ++ [']']

end Token

end SyntaxReport
