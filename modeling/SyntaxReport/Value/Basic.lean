import SyntaxReport.Text.Literal
import SyntaxReport.Value.Moment

/-! Values that come from outside and may have any kind. A floating-point number is kept by its
numeral. -/
namespace SyntaxReport

inductive Value where
  | null
  | int (n : Int)
  | bool (b : Bool)
  | text (t : Text)
  | float (numeral : Text)
  | moment (m : Moment)
  | list (items : List Value)
  | table (entries : List (Text × Value))
  deriving Inhabited

namespace Value

mutual

/-- How a value is cited in an error message. -/
def describe : Value → Text
  | null => "None".toList
  | int n => Text.ofInt n
  | bool true => "True".toList
  | bool false => "False".toList
  | text t => t.literal
  | float numeral => numeral
  | moment m => m.describe
  | list items => ['['] ++ Text.joined ", ".toList (describeItems items) ++ [']']
  | table entries => ['\x7b'] ++ Text.joined ", ".toList (describeEntries entries) ++ ['\x7d']

def describeItems : List Value → List Text
  | [] => []
  | v :: rest => v.describe :: describeItems rest

def describeEntries : List (Text × Value) → List Text
  | [] => []
  | (key, v) :: rest => (key.literal ++ ": ".toList ++ v.describe) :: describeEntries rest

end

mutual

/-- Whether no integer in a value has too many digits to be written. -/
def isWritable : Value → Bool
  | int n => Text.isWritable n
  | list items => areWritable items
  | table entries => entriesWritable entries
  | _ => true

def areWritable : List Value → Bool
  | [] => true
  | v :: rest => v.isWritable && areWritable rest

def entriesWritable : List (Text × Value) → Bool
  | [] => true
  | (_, v) :: rest => v.isWritable && entriesWritable rest

end

/-- The citation of a value, unless an integer in it is too long to be written. -/
def describe? (v : Value) : Option Text :=
  if v.isWritable then some v.describe else none

end Value

end SyntaxReport
