import Mathlib.Data.List.Basic
import SyntaxReport.Walk.Events

/-! Fixed trees whose nodes have an identity of their own. A walk hands nodes to callbacks, and two
nodes may have equal trees below them, so the laws of walks are stated for any type of nodes, each
of which stands for the tree below it. -/
namespace SyntaxReport

/-- The nodes of trees that no callback changes. -/
structure Nodes (N : Type) where
  tree : N → Tree
  children : N → List N
  map_children : ∀ n, (children n).map tree = (tree n).children

/-- Trees as nodes that are their own identity. -/
def Tree.nodes : Nodes Tree where
  tree := id
  children := Tree.children
  map_children t := List.map_id t.children

namespace Tree

theorem size_le_sizeList {t : Tree} {ts : List Tree} (h : t ∈ ts) : t.size ≤ sizeList ts := by
  induction ts with
  | nil => cases h
  | cons u rest ih =>
    rw [sizeList]
    rcases List.mem_cons.mp h with rfl | hr
    · omega
    · have hle := ih hr
      omega

theorem size_eq (t : Tree) : t.size = sizeList t.children + 1 := by
  cases t <;> simp [size, children, sizeList]

end Tree

namespace Nodes

variable {N : Type} (k : Nodes N)

/-- How a walk sees the nodes, in every state alike. -/
def view {σ : Type} : View N σ where
  label _ n := (k.tree n).label
  children _ n := k.children n

/-- How many nodes the trees below some nodes have. -/
def weight (ns : List N) : Nat :=
  Tree.sizeList (ns.map k.tree)

@[simp]
theorem weight_cons (n : N) (ns : List N) :
    k.weight (n :: ns) = (k.tree n).size + k.weight ns := by
  simp [weight, Tree.sizeList]

theorem size_eq (n : N) : (k.tree n).size = k.weight (k.children n) + 1 := by
  rw [Tree.size_eq, weight, k.map_children]

theorem size_lt_of_mem {n c : N} (h : c ∈ k.children n) : (k.tree c).size < (k.tree n).size := by
  have hc : (k.tree c).size ≤ k.weight (k.children n) :=
    Tree.size_le_sizeList (List.mem_map_of_mem h)
  rw [k.size_eq n]
  omega

/-- Every event of the tree below a node: a rule is entered, its children follow from left to right,
and the rule is exited. -/
def events (n : N) : List (Event N) :=
  match (k.tree n).label with
  | .terminal _ => [.terminal n]
  | .error _ => [.error n]
  | .rule _ => .enter n :: ((k.children n).attach.flatMap fun c => events c.val) ++ [.exit n]
termination_by (k.tree n).size
decreasing_by exact k.size_lt_of_mem c.property

/-- The events that a mode fires below a node. -/
def eventsIn (mode : Mode) (n : N) : List (Event N) :=
  (k.events n).filter mode.keeps

variable {k}

theorem events_rule {n : N} {name : Text} (h : (k.tree n).label = .rule name) :
    k.events n = .enter n :: (k.children n).flatMap k.events ++ [.exit n] := by
  -- the recursion goes through the children with a proof that each of them is one
  have hc : ((k.children n).attach.flatMap fun c => k.events c.val) =
      (k.children n).flatMap k.events := by
    rw [List.flatMap_subtype (g := k.events) (fun _ _ => rfl), List.unattach_attach]
  rw [events, h]
  dsimp only
  rw [hc]

theorem eventsIn_terminal {n : N} {symbol : Option Token} (mode : Mode)
    (h : (k.tree n).label = .terminal symbol) :
    k.eventsIn mode n = if mode.visitsLeaves then [.terminal n] else [] := by
  rw [eventsIn, events, h]
  cases hv : mode.visitsLeaves <;> simp [Mode.keeps, hv]

theorem eventsIn_error {n : N} {symbol : Option Token} (mode : Mode)
    (h : (k.tree n).label = .error symbol) :
    k.eventsIn mode n = if mode.visitsLeaves then [.error n] else [] := by
  rw [eventsIn, events, h]
  cases hv : mode.visitsLeaves <;> simp [Mode.keeps, hv]

theorem eventsIn_rule {n : N} {name : Text} (mode : Mode) (h : (k.tree n).label = .rule name) :
    k.eventsIn mode n = (if mode.enters then [.enter n] else []) ++
      (k.children n).flatMap (k.eventsIn mode) ++ [.exit n] := by
  have hc : (k.children n).flatMap (k.eventsIn mode) =
      ((k.children n).flatMap k.events).filter mode.keeps := by
    rw [List.filter_flatMap]
    rfl
  rw [hc, eventsIn, events_rule h]
  cases he : mode.enters <;> simp [List.filter_cons, Mode.keeps, he]

end Nodes

namespace Tree

mutual

/-- For trees as nodes the events are those of the tree. -/
theorem events_nodes : (t : Tree) → nodes.events t = t.events
  | .rule name cs start stop => by
    have hl : (nodes.tree (.rule name cs start stop)).label = .rule name := rfl
    have hc : nodes.children (.rule name cs start stop) = cs := rfl
    rw [Nodes.events_rule hl, hc, events, flatMap_events_nodes cs]
    rfl
  | .terminal symbol => by
    rw [Nodes.events, events]
    rfl
  | .error symbol => by
    rw [Nodes.events, events]
    rfl

theorem flatMap_events_nodes : (ts : List Tree) → ts.flatMap nodes.events = eventsList ts
  | [] => by rw [List.flatMap_nil, eventsList]
  | t :: rest => by
    rw [List.flatMap_cons, eventsList, events_nodes t, flatMap_events_nodes rest]

end

theorem eventsIn_nodes (mode : Mode) (t : Tree) : nodes.eventsIn mode t = t.eventsIn mode := by
  rw [Nodes.eventsIn, eventsIn, events_nodes]

end Tree

end SyntaxReport
