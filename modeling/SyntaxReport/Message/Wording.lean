import SyntaxReport.Message.Vocabulary

/-! The wording of parser messages. -/
namespace SyntaxReport.Message

/-- What a parser found: nothing, a token, or a text that is already rendered. -/
inductive Found where
  | nothing
  | token (t : Token)
  | rendered (t : Text)
  deriving DecidableEq, Repr

/-- What a parser expected: a token kind, or a text that is already rendered. -/
inductive Expected where
  | kind (k : Int)
  | rendered (t : Text)
  deriving DecidableEq, Repr

/-- How a token is named: by the vocabulary's name for its kind, as the end of input, by its quoted
text, or by its kind in angle brackets, whichever comes first. -/
def tokenText (vocabulary : Option Vocabulary) (t : Token) : Text :=
  match vocabulary.bind fun v => t.kind?.bind v.display? with
  | some name => name
  | none =>
    if t.isEof ∨ t.kind? = some Token.eofKind then Token.eofText
    else match t.text? with
      | some own => own.displayed
      | none => ['<'] ++ t.kind?.elim "None".toList Text.ofInt ++ ['>']

def foundText (vocabulary : Option Vocabulary) : Found → Text
  | .nothing => "<no token>".toList
  | .token t => tokenText vocabulary t
  | .rendered t => t

/-- How a token kind is named. -/
def kindText (vocabulary : Option Vocabulary) (kind : Int) : Text :=
  match vocabulary.bind (·.display? kind) with
  | some name => name
  | none => if kind = Token.eofKind then Token.eofText else Text.ofInt kind

def expectedItem (vocabulary : Option Vocabulary) : Expected → Text
  | .kind k => kindText vocabulary k
  | .rendered t => t

/-- A single expected item stands alone; any other number of them stands in braces. -/
def expectedText (vocabulary : Option Vocabulary) (expected : List Expected) : Text :=
  match expected.map (expectedItem vocabulary) with
  | [item] => item
  | items => ['\x7b'] ++ Text.joined ", ".toList items ++ ['\x7d']

def tokenRecognition (text : Text) (hasEof : Bool := false) : Text :=
  "token recognition error at: ".toList ++ if hasEof then Token.eofText else text.displayed

def noViableAlternative (text : Option Text) : Text :=
  "no viable alternative at input ".toList ++ text.elim Token.eofText Text.displayed

def mismatchedInput (found : Found) (expected : List Expected) (vocabulary : Option Vocabulary) :
    Text :=
  "mismatched input ".toList ++ foundText vocabulary found ++ " expecting ".toList ++
    expectedText vocabulary expected

def missingToken (expected : List Expected) (near : Found) (vocabulary : Option Vocabulary) :
    Text :=
  "missing ".toList ++ expectedText vocabulary expected ++ " at ".toList ++
    foundText vocabulary near

def extraneousInput (found : Found) (expected : List Expected) (vocabulary : Option Vocabulary) :
    Text :=
  "extraneous input ".toList ++ foundText vocabulary found ++ " expecting ".toList ++
    expectedText vocabulary expected

/-- Whether what was found is named without a number that is too long to be written. -/
def Found.isWritable (vocabulary : Option Vocabulary) : Found → Bool
  | .token t => (vocabulary.bind fun v => t.kind?.bind v.display?).isSome || t.isEof ||
      t.text?.isSome || t.kind?.all Text.isWritable
  | _ => true

/-- Whether what was expected is named without a number that is too long to be written. -/
def Expected.isWritable (vocabulary : Option Vocabulary) : Expected → Bool
  | .kind k => (vocabulary.bind (·.display? k)).isSome || Text.isWritable k
  | .rendered _ => true

/-- A message with the names of what was found and expected, unless a number in them is too long to
be written. -/
def written? (message : Text) (found : Found) (expected : List Expected)
    (vocabulary : Option Vocabulary) : Option Text :=
  if found.isWritable vocabulary && expected.all (·.isWritable vocabulary) then some message
  else none

def mismatchedInput? (found : Found) (expected : List Expected) (vocabulary : Option Vocabulary) :
    Option Text :=
  written? (mismatchedInput found expected vocabulary) found expected vocabulary

def missingToken? (expected : List Expected) (near : Found) (vocabulary : Option Vocabulary) :
    Option Text :=
  written? (missingToken expected near vocabulary) near expected vocabulary

def extraneousInput? (found : Found) (expected : List Expected) (vocabulary : Option Vocabulary) :
    Option Text :=
  written? (extraneousInput found expected vocabulary) found expected vocabulary

end SyntaxReport.Message
