import Mathlib.Data.List.Basic
import SyntaxReport.Tree.Basic

/-! The shape of a tree: its rules in pre-order with their levels, its leaves from left to right,
and how many rules stand one below the other. -/
namespace SyntaxReport.Tree

mutual

/-- The rules of a tree in pre-order, each with its level; the root is on the given one. -/
def rulesFrom (level : Nat) : Tree → List (Nat × Tree)
  | t@(.rule _ cs _ _) => (level, t) :: rulesFromList (level + 1) cs
  | .terminal _ => []
  | .error _ => []

def rulesFromList (level : Nat) : List Tree → List (Nat × Tree)
  | [] => []
  | t :: rest => t.rulesFrom level ++ rulesFromList level rest

end

mutual

/-- The leaves of a tree from left to right. -/
def leaves : Tree → List Tree
  | .rule _ cs _ _ => leavesList cs
  | t@(.terminal _) => [t]
  | t@(.error _) => [t]

def leavesList : List Tree → List Tree
  | [] => []
  | t :: rest => t.leaves ++ leavesList rest

end

mutual

/-- How many rules stand one below the other at most. -/
def height : Tree → Nat
  | .rule _ cs _ _ => heightList cs + 1
  | .terminal _ => 0
  | .error _ => 0

def heightList : List Tree → Nat
  | [] => 0
  | t :: rest => max t.height (heightList rest)

end

/-- The rules of a tree in pre-order, each with its level; the root is on level zero. -/
def rules (t : Tree) : List (Nat × Tree) :=
  t.rulesFrom 0

theorem rulesFromList_eq_flatMap (level : Nat) (ts : List Tree) :
    rulesFromList level ts = ts.flatMap (rulesFrom level) := by
  induction ts with
  | nil => rw [rulesFromList, List.flatMap_nil]
  | cons t rest ih => rw [rulesFromList, List.flatMap_cons, ih]

theorem leavesList_eq_flatMap (ts : List Tree) : leavesList ts = ts.flatMap leaves := by
  induction ts with
  | nil => rw [leavesList, List.flatMap_nil]
  | cons t rest ih => rw [leavesList, List.flatMap_cons, ih]

theorem height_le_heightList {t : Tree} {ts : List Tree} (h : t ∈ ts) :
    t.height ≤ heightList ts := by
  induction ts with
  | nil => cases h
  | cons u rest ih =>
    rw [heightList]
    rcases List.mem_cons.mp h with rfl | hr
    · exact Nat.le_max_left _ _
    · exact Nat.le_trans (ih hr) (Nat.le_max_right _ _)

mutual

/-- Rules are the same on every level. -/
theorem rulesFrom_add (k level : Nat) : (t : Tree) →
    t.rulesFrom (k + level) = (t.rulesFrom level).map fun p => (k + p.1, p.2)
  | .rule name cs start stop => by
    rw [rulesFrom, rulesFrom, List.map_cons, Nat.add_assoc, rulesFromList_add k (level + 1) cs]
  | .terminal symbol => by
    rw [rulesFrom, rulesFrom, List.map_nil]
  | .error symbol => by
    rw [rulesFrom, rulesFrom, List.map_nil]

theorem rulesFromList_add (k level : Nat) : (ts : List Tree) →
    rulesFromList (k + level) ts = (rulesFromList level ts).map fun p => (k + p.1, p.2)
  | [] => by
    rw [rulesFromList, rulesFromList, List.map_nil]
  | t :: rest => by
    rw [rulesFromList, rulesFromList, List.map_append, rulesFrom_add k level t,
      rulesFromList_add k level rest]

end

/-- How many rules there are does not depend on the level of the root. -/
theorem length_rulesFrom (level : Nat) (t : Tree) : (t.rulesFrom level).length = t.rules.length := by
  have hadd := rulesFrom_add level 0 t
  rw [Nat.add_zero] at hadd
  rw [hadd, List.length_map, rules]

end SyntaxReport.Tree
