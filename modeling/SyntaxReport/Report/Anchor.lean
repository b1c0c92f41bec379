import SyntaxReport.Tree.Basic

/-! What a report can be anchored to: a token, a node of a parse tree, or some other value, of which
only the name of its type is known. -/
namespace SyntaxReport

inductive Anchor where
  | token (t : Token)
  | node (n : Tree)
  | other (typeName : Text)

inductive AnchorError where
  | noStart (rule : Text)
  | noStop (rule : Text)
  | notATree (typeName : Text)
  deriving DecidableEq, Repr

namespace AnchorError

def message : AnchorError → Text
  | noStart rule => "rule node ".toList ++ rule.literal ++ " has no start token".toList
  | noStop rule => "rule node ".toList ++ rule.literal ++ " has no stop token".toList
  | notATree typeName => "unsupported syntax tree type: ".toList ++ typeName

end AnchorError

namespace Anchor

/-- The name of an anchor's type, as errors give it. -/
def typeName : Anchor → Text
  | token t => if t.lexeme.isSome then "LocationToken".toList else "BareToken".toList
  | node n => n.kindName
  | other name => name

/-- The type name of an anchor that may be absent. -/
def typeNameOf (place : Option Anchor) : Text :=
  place.elim "NoneType".toList typeName

end Anchor

namespace Tree

/-- The token at which a node starts. -/
def startToken : Tree → Except AnchorError (Option Token)
  | rule name _ none _ => .error (.noStart name)
  | rule _ _ (some t) _ => .ok (some t)
  | terminal symbol => .ok symbol
  | error symbol => .ok symbol

/-- The token at which a node stops. -/
def stopToken : Tree → Except AnchorError (Option Token)
  | rule name _ _ none => .error (.noStop name)
  | rule _ _ _ (some t) => .ok (some t)
  | terminal symbol => .ok symbol
  | error symbol => .ok symbol

end Tree

namespace Anchor

/-- The start token of a place that has to be a node. -/
def startToken : Option Anchor → Except AnchorError (Option Token)
  | some (node n) => n.startToken
  | place => .error (.notATree (typeNameOf place))

/-- The stop token of a place that has to be a node. -/
def stopToken : Option Anchor → Except AnchorError (Option Token)
  | some (node n) => n.stopToken
  | place => .error (.notATree (typeNameOf place))

end Anchor

end SyntaxReport
