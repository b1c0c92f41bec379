import SyntaxReport.Walk.Basic

/-! Trees that change while they are walked. Nodes are numbered in pre-order, nodes added later get
the next free numbers, and the children of a rule are a list of numbers. -/
namespace SyntaxReport

structure LiveNode where
  label : Tree.Label
  children : List Nat := []
  deriving DecidableEq, Repr

/-- All nodes that a tree has or had, by number. -/
structure Store where
  nodes : Array LiveNode := #[]
  deriving DecidableEq, Repr

namespace Store

def label? (s : Store) (n : Nat) : Option Tree.Label :=
  s.nodes[n]?.map (·.label)

def label (s : Store) (n : Nat) : Tree.Label :=
  (s.label? n).getD (.rule [])

def children (s : Store) (n : Nat) : List Nat :=
  (s.nodes[n]?.map (·.children)).getD []

def setChildren (s : Store) (n : Nat) (children : List Nat) : Store :=
  ⟨s.nodes.modify n fun node => { node with children }⟩

mutual

/-- Numbers the nodes of a tree and gives the number of its root. -/
def insert (s : Store) : Tree → Nat × Store
  | .rule name cs _ _ =>
    let root := s.nodes.size
    let (ids, s') := insertAll ⟨s.nodes.push { label := .rule name }⟩ cs
    (root, s'.setChildren root ids)
  | .terminal symbol => (s.nodes.size, ⟨s.nodes.push { label := .terminal symbol }⟩)
  | .error symbol => (s.nodes.size, ⟨s.nodes.push { label := .error symbol }⟩)

def insertAll (s : Store) : List Tree → List Nat × Store
  | [] => ([], s)
  | t :: rest =>
    let (id, s') := s.insert t
    let (ids, s'') := s'.insertAll rest
    (id :: ids, s'')

end

/-- The nodes of a tree; its root has number zero. -/
def ofTree (t : Tree) : Store :=
  (insert {} t).2

/-- Adds a tree behind the children of a node. -/
def appendChild (s : Store) (n : Nat) (t : Tree) : Store :=
  let (id, s') := s.insert t
  s'.setChildren n (s'.children n ++ [id])

/-- Removes the last child of a node, if it has one. -/
def removeLastChild (s : Store) (n : Nat) : Store :=
  s.setChildren n (s.children n).dropLast

end Store

end SyntaxReport
