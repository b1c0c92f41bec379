import SyntaxReport.Tree.Basic

/-! Trees made by rule: complete trees, left-deep chains and random trees. Leaves are numbered from
left to right through the columns of their tokens. -/
namespace SyntaxReport.Tree

/-- A rule without known ends. -/
def ruleOf (name : Text) (children : List Tree) : Tree :=
  .rule name children none none

/-- A terminal at one column of the first line. -/
def leafAt (column : Int) (text : Option Text) : Tree :=
  .terminal (some { line := 1, column, first := column, last := column, lexeme := some { text } })

/-- The name of a rule in a complete tree: its level and its number in pre-order. -/
def fullName (level number : Nat) : Text :=
  ['r'] ++ Text.ofNat level ++ ['_'] ++ Text.ofNat number

/-- Builds a complete tree with `below` levels under its root. The state counts the rules. -/
def fullBelow (fanout : Nat) : (below level : Nat) → StateM Nat Tree
  | 0, level => do
    let k ← getModify (· + 1)
    return ruleOf (fullName level k) [leafAt (k + 1) none]
  | below + 1, level => do
    let k ← getModify (· + 1)
    let children ← (List.replicate fanout ()).mapM fun _ => fullBelow fanout below (level + 1)
    return ruleOf (fullName level k) children

/-- The complete tree of a depth, at least one, in which every rule above the last level has
`fanout` rules below it; rules on the last level hold one terminal each. -/
def full (depth fanout : Int) : Tree :=
  ((fullBelow fanout.toNat (depth - 1).toNat 0).run 0).1

/-- The chain from the rule at level `i` on. -/
def leftDeepFrom (i : Nat) : (below : Nat) → Tree
  | 0 => ruleOf "expr".toList []
  | below + 1 => ruleOf "expr".toList [leftDeepFrom (i + 1) below, leafAt i (some ['+'])]

/-- A chain of rules, each holding the next one and an operator, as a long expression with a
left-associative operator gives. -/
def leftDeep (depth : Int) : Tree :=
  leftDeepFrom 0 depth.toNat

/-- A probability. -/
structure Rate where
  num : Int
  den : Nat
  deriving DecidableEq, Repr

/-- Where random choices come from, with a state `σ`. -/
structure Chooser (σ : Type) where
  /-- A number from zero up to and including the bound. -/
  upTo : (bound : Nat) → StateM σ (Fin (bound + 1))
  /-- Whether an event of this probability happens. -/
  happens : Rate → StateM σ Bool

structure Bounds where
  maxDepth : Int := 6
  maxFanout : Nat := 4
  leafRate : Rate := ⟨2, 5⟩
  errorRate : Rate := ⟨1, 20⟩
  deriving DecidableEq, Repr

def ruleNames : Vector Text 7 :=
  #v["expr".toList, "term".toList, "factor".toList, "call".toList, "args".toList,
    "block".toList, "stmt".toList]

/-- The lower-case letter with a number from zero to 25. -/
def letter (i : Fin 26) : Char :=
  Char.ofNat ('a'.toNat + i)

variable {σ : Type}

/-- A random tree in the making: the state of the chooser and the number of leaves so far. -/
abbrev Growth (σ : Type) := StateT Nat (StateM σ)

/-- A leaf with one to six letters, on the column that is its number. -/
def randomLeaf (chooser : Chooser σ) (bounds : Bounds) : Growth σ Tree := do
  let i ← getModify (· + 1)
  let extra ← chooser.upTo 5
  let text ← (List.replicate (extra.val + 1) ()).mapM fun _ => return letter (← chooser.upTo 25)
  let symbol : Token :=
    { line := 1, column := i, first := i, last := i + text.length - 1, lexeme := some { text } }
  if ← chooser.happens bounds.errorRate then
    return .error (some symbol)
  else
    return .terminal (some symbol)

/-- A rule with a random name and a random number of children. -/
def randomNode (chooser : Chooser σ) (bounds : Bounds) (child : Growth σ Tree) : Growth σ Tree := do
  let name := ruleNames.get (← chooser.upTo 6)
  let count ← chooser.upTo bounds.maxFanout
  return ruleOf name (← (List.replicate count.val ()).mapM fun _ => child)

/-- A random rule under which at most `below` levels of rules may stand. -/
def randomRule (chooser : Chooser σ) (bounds : Bounds) : (below : Nat) → Growth σ Tree
  | 0 => randomNode chooser bounds (randomLeaf chooser bounds)
  | below + 1 => randomNode chooser bounds do
    if ← chooser.happens bounds.leafRate then
      randomLeaf chooser bounds
    else
      randomRule chooser bounds below

/-- A random tree within bounds. -/
def random (chooser : Chooser σ) (bounds : Bounds) (seed : σ) : Tree :=
  (((randomRule chooser bounds (bounds.maxDepth - 1).toNat).run 0).run seed).1.1

/-- The next state of a linear congruential generator, whose upper half is the number drawn. -/
def congruentialStep (x : Nat) : Nat :=
  (x * 1664525 + 1013904223) % Nat.pow 2 32

/-- Random choices from a linear congruential generator; probabilities are drawn in steps of
1/1024. -/
def congruential : Chooser Nat where
  upTo bound := fun x =>
    let x' := congruentialStep x
    (Fin.ofNat (bound + 1) (x' / Nat.pow 2 16), x')
  happens rate := fun x =>
    let x' := congruentialStep x
    (decide (((x' / Nat.pow 2 16 % 1024 : Nat) : Int) * rate.den < rate.num * 1024), x')

end SyntaxReport.Tree
