import SyntaxReport.Value.Basic

/-! The ways to walk a tree: which callbacks fire, and whether the walk recurses or keeps a stack of
frames. -/
namespace SyntaxReport

inductive Mode where
  /-- Enters, exits and leaves. -/
  | full
  /-- Exits alone, children before their parents. -/
  | exitOnly
  /-- Enters and exits; leaves are skipped. -/
  | enterExitOnly
  deriving DecidableEq, Repr

namespace Mode

def enters : Mode → Bool
  | exitOnly => false
  | _ => true

def visitsLeaves : Mode → Bool
  | full => true
  | _ => false

end Mode

structure Strategy where
  mode : Mode
  recursive : Bool
  deriving DecidableEq, Repr

namespace Strategy

def all : List Strategy :=
  [⟨.full, true⟩, ⟨.full, false⟩, ⟨.exitOnly, true⟩, ⟨.exitOnly, false⟩,
   ⟨.enterExitOnly, true⟩, ⟨.enterExitOnly, false⟩]

/-- The strategy of a walk for which none is chosen. -/
def standard : Strategy :=
  ⟨.full, false⟩

/-- The lower-case name by which a strategy is chosen. -/
def name (s : Strategy) : Text :=
  let mode := match s.mode with
    | .full => "full"
    | .exitOnly => "exit-only"
    | .enterExitOnly => "enter-exit-only"
  mode.toList ++ (if s.recursive then "-recursive" else "-iterative").toList

/-- The name as an upper-case identifier. -/
def identifier (s : Strategy) : Text :=
  s.name.map fun c => if c = '-' then '_' else c.toUpper

def ofName? (name : Text) : Option Strategy :=
  all.find? fun s => s.name == name

/-- A value that is not the name of a strategy. -/
structure Unknown where
  value : Value

/-- The complaint about a value, unless an integer in it is too long to be written. -/
def Unknown.message? (u : Unknown) : Option Text :=
  u.value.describe?.map (· ++ " is not a valid Strategy".toList)

/-- The strategy that a value names. -/
def ofValue (v : Value) : Except Unknown Strategy :=
  match v with
  | .text name => (ofName? name).elim (.error ⟨v⟩) .ok
  | _ => .error ⟨v⟩

/-- The strategy of a walk: the one asked for, else the listener's own, else the standard one. -/
def resolve (requested own : Option Strategy) : Strategy :=
  (requested <|> own).getD standard

end Strategy

end SyntaxReport
