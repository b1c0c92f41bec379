import SyntaxReport.Source.Token

/-! Vocabularies: the names of a grammar's token kinds. Every vocabulary knows the end of input. The
entries are kept in ascending order of their kinds, one for each kind. -/
namespace SyntaxReport

structure TokenName where
  literal : Text
  symbol : Text
  deriving DecidableEq, Repr

/-- The names of token kinds, in ascending order of the kinds. -/
structure Vocabulary where
  entries : List (Int × TokenName)
  deriving DecidableEq, Repr

namespace Vocabulary

/-- Puts a name into ascending entries, replacing the name its kind had. -/
def insert (kind : Int) (name : TokenName) : List (Int × TokenName) → List (Int × TokenName)
  | [] => [(kind, name)]
  | (k, n) :: rest =>
    if kind < k then (kind, name) :: (k, n) :: rest
    else if kind = k then (kind, name) :: rest
    else (k, n) :: insert kind name rest

/-- The vocabulary that knows the end of input alone. -/
def base : Vocabulary :=
  ⟨[(Token.eofKind, ⟨Token.eofText, "EOF".toList⟩)]⟩

def add (v : Vocabulary) (kind : Int) (name : TokenName) : Vocabulary :=
  ⟨insert kind name v.entries⟩

/-- The vocabulary of some names; a later name for a kind replaces an earlier one. -/
def ofNames (names : List (Int × TokenName)) : Vocabulary :=
  names.foldl (fun v (kind, name) => v.add kind name) base

def name? (v : Vocabulary) (kind : Int) : Option TokenName :=
  v.entries.lookup kind

def literal? (v : Vocabulary) (kind : Int) : Option Text :=
  (v.name? kind).map (·.literal)

def symbol? (v : Vocabulary) (kind : Int) : Option Text :=
  (v.name? kind).map (·.symbol)

/-- The name that messages use for a kind. -/
def display? (v : Vocabulary) (kind : Int) : Option Text :=
  v.literal? kind

def contains (v : Vocabulary) (kind : Int) : Bool :=
  (v.name? kind).isSome

def size (v : Vocabulary) : Nat :=
  v.entries.length

def maxKind (v : Vocabulary) : Int :=
  v.entries.foldl (fun m e => max m e.1) Token.eofKind

def describeEntry (e : Int × TokenName) : Text :=
  "\x7btoken=".toList ++ Text.ofInt e.1 ++ ",literal=".toList ++ e.2.literal ++
    ",symbol=".toList ++ e.2.symbol ++ ['\x7d']

def describe (v : Vocabulary) : Text :=
  "Vocabulary[".toList ++ Text.joined [','] (v.entries.map describeEntry) ++ [']']

end Vocabulary

end SyntaxReport
