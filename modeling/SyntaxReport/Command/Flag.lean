import SyntaxReport.Text.Literal

/-! The flags of the command line, in the order in which they are declared. -/
namespace SyntaxReport

/-- A flag that takes an integer. -/
inductive NumberFlag where
  | line | column | stopLine | stopColumn | length | tabSize | before | after | indent
  deriving DecidableEq, Repr

/-- A flag that takes a text. -/
inductive TextFlag where
  | marker | config | message
  deriving DecidableEq, Repr

inductive Flag where
  | help
  | number (f : NumberFlag)
  | text (f : TextFlag)
  | json
  | verbose
  deriving DecidableEq, Repr

namespace Flag

/-- Every name of a flag. -/
def names : List (Text × Flag) :=
  [("-h".toList, .help), ("--help".toList, .help), ("--line".toList, .number .line),
   ("--column".toList, .number .column), ("--stop-line".toList, .number .stopLine),
   ("--stop-column".toList, .number .stopColumn), ("--length".toList, .number .length),
   ("--tab-size".toList, .number .tabSize), ("--before".toList, .number .before),
   ("--after".toList, .number .after), ("--indent".toList, .number .indent),
   ("--marker".toList, .text .marker), ("--config".toList, .text .config),
   ("-m".toList, .text .message), ("--message".toList, .text .message), ("--json".toList, .json),
   ("-v".toList, .verbose), ("--verbose".toList, .verbose)]

def named? (name : Text) : Option Flag :=
  names.lookup name

def short? (c : Char) : Option Flag :=
  named? ['-', c]

/-- All names of a flag, as errors give them. -/
def title (f : Flag) : Text :=
  Text.joined ['/'] ((names.filter fun e => e.2 = f).map (·.1))

def takesValue : Flag → Bool
  | number _ => true
  | text _ => true
  | _ => false

/-- The names that begin with a text, with their flags. -/
def abbreviated (start : Text) : List (Text × Flag) :=
  names.filter fun e => start.isPrefixOf e.1

end Flag

inductive UsageError where
  | ambiguous (word : Text) (candidates : List Text)
  | expectedOne (flag : Flag)
  | notAnInt (flag : Flag) (value : Text)
  | ignoredValue (flag : Flag) (value : Text)
  | missing (names : List Text)
  | unrecognized (words : List Text)
  deriving DecidableEq, Repr

namespace UsageError

def argument (flag : Flag) (complaint : Text) : Text :=
  "argument ".toList ++ flag.title ++ ": ".toList ++ complaint

def message : UsageError → Text
  | ambiguous word candidates => "ambiguous option: ".toList ++ word ++ " could match ".toList ++
      Text.joined ", ".toList candidates
  | expectedOne flag => argument flag "expected one argument".toList
  | notAnInt flag value => argument flag ("invalid int value: ".toList ++ value.literal)
  | ignoredValue flag value => argument flag ("ignored explicit argument ".toList ++ value.literal)
  | missing names => "the following arguments are required: ".toList ++
      Text.joined ", ".toList names
  | unrecognized words => "unrecognized arguments: ".toList ++ Text.joined [' '] words

end UsageError

end SyntaxReport
