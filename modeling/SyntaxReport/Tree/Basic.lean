import SyntaxReport.Source.Token
import SyntaxReport.Text.Literal

/-! Parse trees. A rule has children and may know its first and last token; a leaf is a terminal or,
for a token consumed during error recovery, an error. -/
namespace SyntaxReport

inductive Tree where
  | rule (name : Text) (children : List Tree) (start stop : Option Token)
  | terminal (symbol : Option Token)
  | error (symbol : Option Token)
  deriving Inhabited

namespace Tree

def isInternal : Tree → Bool
  | rule .. => true
  | _ => false

def isError : Tree → Bool
  | error _ => true
  | _ => false

def children : Tree → List Tree
  | rule _ cs _ _ => cs
  | _ => []

mutual

/-- How many nodes a tree has. -/
def size : Tree → Nat
  | rule _ cs _ _ => sizeList cs + 1
  | terminal _ => 1
  | error _ => 1

def sizeList : List Tree → Nat
  | [] => 0
  | t :: rest => t.size + sizeList rest

end

/-- What a node says about itself, apart from its place in a tree. -/
inductive Label where
  | rule (name : Text)
  | terminal (symbol : Option Token)
  | error (symbol : Option Token)
  deriving DecidableEq, Repr

def label : Tree → Label
  | rule name _ _ _ => .rule name
  | terminal symbol => .terminal symbol
  | error symbol => .error symbol

/-- The name of the kind of node, as descriptions and errors give it. -/
def kindName : Tree → Text
  | rule .. => "RuleNode".toList
  | terminal _ => "TerminalNode".toList
  | error _ => "ErrorNode".toList

def describe (t : Tree) : Text :=
  let inside := match t with
    | rule name cs _ _ => name.literal ++ ", children=".toList ++ Text.ofNat cs.length
    | terminal symbol | error symbol =>
      "symbol=".toList ++ symbol.elim "None".toList Token.describe
  t.kindName ++ ['('] ++ inside ++ [')']

theorem size_pos (t : Tree) : 0 < t.size := by
  cases t <;> simp [size]

end Tree

end SyntaxReport
