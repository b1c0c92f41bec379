import SyntaxReport.Walk.Frame
import SyntaxReport.Walk.Listener
import SyntaxReport.Walk.Strategy

/-! Depth-first walks, by recursion and with a stack of frames. A walk sees nodes through a view
that looks up their children in the state when they are needed, so callbacks may change a tree while
it is walked: the recursion follows the present children, a frame keeps the number of children from
when it was pushed. Walks of such trees need not end, so both take fuel; a fixed tree is walked to
its end by fuel that its size gives. -/
namespace SyntaxReport

/-- How a walk sees nodes of type `N` in a state `σ`. -/
structure View (N σ : Type) where
  label : σ → N → Tree.Label
  children : σ → N → List N

inductive WalkError (ε : Type) where
  | raised (failure : ε)
  /-- A frame comes to a child that has been removed. -/
  | childGone
  /-- The fuel is spent. -/
  | unfinished
  deriving DecidableEq, Repr

namespace Walk

variable {N σ ε : Type}

/-- A callback as a step of a walk. -/
def call (callback : EStateM ε σ Unit) : EStateM (WalkError ε) σ Unit :=
  EStateM.adaptExcept .raised callback

def enter (mode : Mode) (l : Listener N σ ε) (n : N) : EStateM (WalkError ε) σ Unit :=
  if mode.enters then call (l.enter n) else pure ()

def terminal (mode : Mode) (l : Listener N σ ε) (n : N) : EStateM (WalkError ε) σ Unit :=
  if mode.visitsLeaves then call (l.terminal n) else pure ()

def error (mode : Mode) (l : Listener N σ ε) (n : N) : EStateM (WalkError ε) σ Unit :=
  if mode.visitsLeaves then call (l.error n) else pure ()

mutual

/-- The recursive walk below a node. -/
def descend (view : View N σ) (mode : Mode) (l : Listener N σ ε) :
    (fuel : Nat) → N → EStateM (WalkError ε) σ Unit
  | 0, _ => throw .unfinished
  | fuel + 1, n => do
    match view.label (← get) n with
    | .terminal _ => terminal mode l n
    | .error _ => error mode l n
    | .rule _ =>
      enter mode l n
      descendFrom view mode l fuel n 0
      call (l.exit n)

/-- The recursive walk below the children of a node from an index on. -/
def descendFrom (view : View N σ) (mode : Mode) (l : Listener N σ ε) :
    (fuel : Nat) → N → Nat → EStateM (WalkError ε) σ Unit
  | 0, _, _ => throw .unfinished
  | fuel + 1, n, i => do
    match (view.children (← get) n)[i]? with
    | none => pure ()
    | some c =>
      descend view mode l fuel c
      descendFrom view mode l fuel n (i + 1)

end

/-- The frame of a node in the present state. -/
def frame (view : View N σ) (n : N) : EStateM (WalkError ε) σ (Frame N) := do
  return Frame.ofNode n (view.children (← get) n)

/-- One step of the walk with a stack of frames: the top frame is left, or its next child is entered
or visited. -/
def step (view : View N σ) (mode : Mode) (l : Listener N σ ε) :
    List (Frame N) → EStateM (WalkError ε) σ (List (Frame N))
  | [] => pure []
  | top :: rest => do
    match top.next (view.children (← get) top.node) with
    | .gone => throw .childGone
    | .done =>
      call (l.exit top.node)
      return rest
    | .child c top' =>
      match view.label (← get) c with
      | .terminal _ =>
        terminal mode l c
        return top' :: rest
      | .error _ =>
        error mode l c
        return top' :: rest
      | .rule _ =>
        enter mode l c
        return (← frame view c) :: top' :: rest

/-- Steps until the stack is empty. -/
def run (view : View N σ) (mode : Mode) (l : Listener N σ ε) :
    (fuel : Nat) → List (Frame N) → EStateM (WalkError ε) σ Unit
  | _, [] => pure ()
  | 0, _ :: _ => throw .unfinished
  | fuel + 1, top :: rest => do
    run view mode l fuel (← step view mode l (top :: rest))

/-- The walk with a stack of frames. -/
def iterate (view : View N σ) (mode : Mode) (l : Listener N σ ε) (fuel : Nat) (root : N) :
    EStateM (WalkError ε) σ Unit := do
  match view.label (← get) root with
  | .terminal _ => terminal mode l root
  | .error _ => error mode l root
  | .rule _ =>
    enter mode l root
    run view mode l fuel [← frame view root]

end Walk

namespace Strategy

variable {N σ ε : Type}

def walk (s : Strategy) (view : View N σ) (l : Listener N σ ε) (fuel : Nat) (root : N) :
    EStateM (WalkError ε) σ Unit :=
  if s.recursive then Walk.descend view s.mode l fuel root
  else Walk.iterate view s.mode l fuel root

end Strategy

namespace Tree

variable {σ ε : Type}

/-- The view of trees that no callback changes. -/
def view : View Tree σ where
  label _ t := t.label
  children _ t := t.children

/-- Fuel that suffices for a walk of a tree. -/
def fuel (t : Tree) : Nat :=
  2 * t.size

def walk (s : Strategy) (l : Listener Tree σ ε) (t : Tree) : EStateM (WalkError ε) σ Unit :=
  s.walk view l t.fuel t

end Tree

end SyntaxReport
