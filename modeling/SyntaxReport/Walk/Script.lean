import SyntaxReport.Walk.Store

/-! Scripted walks: listeners that log what they see and, at chosen log entries, change the tree or
raise. They show how a walk behaves on a tree that its own callbacks change. -/
namespace SyntaxReport.Script

/-- One line of a log: what happened to which node. -/
structure Entry where
  kind : Text
  node : Nat
  label : Tree.Label
  deriving DecidableEq, Repr

inductive Effect where
  | raise (text : Text)
  | append (target : Nat) (t : Tree)
  | removeLast (target : Nat)

/-- An effect that follows a log entry of some kind for some node. -/
structure Action where
  kind : Text
  node : Nat
  effect : Effect

inductive Failure where
  | raised (text : Text)
  /-- A leaf cannot take children. -/
  | notARule
  /-- No node has this number. -/
  | noSuchNode
  deriving DecidableEq, Repr

/-- The tree under the walk and the log, latest entry first. -/
structure State where
  store : Store
  log : List Entry := []

abbrev Callback := EStateM Failure State Unit

def perform : Effect → Callback
  | .raise text => throw (.raised text)
  | .append target t => do
    match (← get).store.label? target with
    | some (.rule _) => modify fun s => { s with store := s.store.appendChild target t }
    | some _ => throw .notARule
    | none => throw .noSuchNode
  | .removeLast target => do
    match (← get).store.label? target with
    | some _ => modify fun s => { s with store := s.store.removeLastChild target }
    | none => throw .noSuchNode

/-- Logs an entry and performs the actions that follow it. -/
def log (actions : List Action) (kind : Text) (n : Nat) : Callback := do
  modify fun s => { s with log := ⟨kind, n, s.store.label n⟩ :: s.log }
  (actions.filter fun a => a.kind == kind && a.node == n).forM fun a => perform a.effect

/-- The listener that logs each of the four callbacks. -/
def logger (actions : List Action) : Listener Nat State Failure where
  enter := log actions "enter".toList
  exit := log actions "exit".toList
  terminal := log actions "leaf".toList
  error := log actions "error".toList

/-- What a listener with handlers logs. -/
structure Handlers where
  /-- The names of the handlers: `enter_expr` for the enters of one rule, `enter_rule` in place of
  the handlers of all rules, `visit_terminal` for leaves. -/
  names : List Text
  /-- Whether leaves are logged. -/
  leaves : Bool := false
  /-- Whether every enter and exit is logged around its handler. -/
  bracketed : Bool := false

def ruleName (s : State) (n : Nat) : Text :=
  match s.store.label n with
  | .rule name => name
  | _ => []

def Handlers.find? (h : Handlers) (actions : List Action) (side : Listener.Side) (rule : Text) :
    Option (Nat → Callback) :=
  let name := side.word ++ ['_'] ++ rule
  if name ∈ h.names then some (log actions name) else none

/-- Logs under the name of a handler that stands in place of a callback, or else calls back. -/
def Handlers.orElse (h : Handlers) (actions : List Action) (name : String)
    (callback : Nat → Callback) (n : Nat) : Callback :=
  if name.toList ∈ h.names then log actions name.toList n else callback n

/-- The listener that calls the handlers of the rules. -/
def Handlers.listener (h : Handlers) (actions : List Action) : Listener Nat State Failure :=
  let base := Listener.dispatcher ruleName (h.find? actions)
  let leaf (kind name : String) (n : Nat) : Callback :=
    if h.leaves then log actions kind.toList n else h.orElse actions name (fun _ => pure ()) n
  { enter := fun n => do
      if h.bracketed then
        log actions ['+'] n
        base.enter n
      else h.orElse actions "enter_rule" base.enter n
    exit := fun n => do
      if h.bracketed then
        base.exit n
        log actions ['-'] n
      else h.orElse actions "exit_rule" base.exit n
    terminal := leaf "leaf" "visit_terminal"
    error := leaf "error" "visit_error_node" }

def view : View Nat State where
  label s n := s.store.label n
  children s n := s.store.children n

def Effect.size : Effect → Nat
  | .append _ t => t.size
  | _ => 0

/-- Walks a tree, which is changed by the actions of the listener. No node is walked twice, so fuel
for all nodes that can ever exist suffices. -/
def walk (strategy : Strategy) (listener : Listener Nat State Failure) (actions : List Action)
    (t : Tree) : List Entry × Option (WalkError Failure) :=
  let fuel := 2 * (t.size + actions.foldl (fun n a => n + a.effect.size) 0) + 2
  match (strategy.walk view listener fuel 0).run { store := .ofTree t } with
  | .ok _ s => (s.log.reverse, none)
  | .error e s => (s.log.reverse, some e)

end SyntaxReport.Script
