import SyntaxReport.Tree.Basic

/-! Listeners: callbacks that fire during a walk. A callback may read and change a state and may
raise; the state it had reached stays. -/
namespace SyntaxReport

/-- Callbacks on nodes of type `N`, with a state `σ` and raised failures `ε`. -/
structure Listener (N σ ε : Type) where
  enter : N → EStateM ε σ Unit
  exit : N → EStateM ε σ Unit
  terminal : N → EStateM ε σ Unit
  error : N → EStateM ε σ Unit

inductive Event (N : Type) where
  | enter (node : N)
  | exit (node : N)
  | terminal (node : N)
  | error (node : N)
  deriving DecidableEq, Repr

namespace Listener

variable {N σ ε : Type}

/-- Fires the callback of an event. -/
def fire (l : Listener N σ ε) : Event N → EStateM ε σ Unit
  | .enter n => l.enter n
  | .exit n => l.exit n
  | .terminal n => l.terminal n
  | .error n => l.error n

/-- The listener that handles every event with one function of it. -/
def ofEvents (handle : Event N → EStateM ε σ Unit) : Listener N σ ε where
  enter n := handle (.enter n)
  exit n := handle (.exit n)
  terminal n := handle (.terminal n)
  error n := handle (.error n)

/-- The listener that appends every event to a list. -/
def recorder : Listener N (List (Event N)) ε :=
  ofEvents fun e => modify (· ++ [e])

/-- The side of a rule that a handler is for. -/
inductive Side where
  | enter
  | exit
  deriving DecidableEq, Repr

def Side.word : Side → Text
  | enter => "enter".toList
  | exit => "exit".toList

/-- Calls the handler of a rule, if there is one. Rules without a name and rules named `rule` have
none. -/
def dispatchRule (handler : Side → Text → Option (N → EStateM ε σ Unit)) (side : Side)
    (name : Text) (n : N) : EStateM ε σ Unit :=
  if name = [] ∨ name = "rule".toList then pure ()
  else match handler side name with
    | some h => h n
    | none => pure ()

/-- The listener that forwards enters and exits to the handlers of the rules and ignores leaves. -/
def dispatcher (ruleName : σ → N → Text)
    (handler : Side → Text → Option (N → EStateM ε σ Unit)) : Listener N σ ε where
  enter n := do dispatchRule handler .enter (ruleName (← get) n) n
  exit n := do dispatchRule handler .exit (ruleName (← get) n) n
  terminal _ := pure ()
  error _ := pure ()

end Listener

end SyntaxReport
