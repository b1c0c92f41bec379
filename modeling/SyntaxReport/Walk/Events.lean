import SyntaxReport.Walk.Basic

/-! The events of a tree: what a walk that fires every callback fires, in order. The other modes
keep some of these events. -/
namespace SyntaxReport

/-- Whether a mode fires an event. -/
def Mode.keeps {N : Type} (mode : Mode) : Event N → Bool
  | .enter _ => mode.enters
  | .exit _ => true
  | .terminal _ => mode.visitsLeaves
  | .error _ => mode.visitsLeaves

namespace Tree

mutual

/-- Every event of a tree: a rule is entered, its children follow from left to right, and the rule
is exited. -/
def events : Tree → List (Event Tree)
  | t@(.rule _ cs _ _) => [.enter t] ++ eventsList cs ++ [.exit t]
  | t@(.terminal _) => [.terminal t]
  | t@(.error _) => [.error t]

def eventsList : List Tree → List (Event Tree)
  | [] => []
  | t :: rest => t.events ++ eventsList rest

end

/-- The events that a mode fires. -/
def eventsIn (mode : Mode) (t : Tree) : List (Event Tree) :=
  t.events.filter mode.keeps

end Tree

theorem Mode.keeps_full {N : Type} (e : Event N) : Mode.full.keeps e = true := by
  cases e <;> rfl

end SyntaxReport
