import SyntaxReport.Text.Basic

/-! Paths of files. The parts of a path stand between slashes; empty parts and single dots say
nothing and are dropped, double dots are kept. -/
namespace SyntaxReport

/-- A path: its root, which is empty for a relative one, and its parts. -/
structure Path where
  root : Text
  parts : List Text
  deriving DecidableEq, Repr

namespace Path

/-- The pieces of a text between slashes. -/
def pieces : Text → List Text
  | [] => [[]]
  | c :: rest =>
    if c = '/' then [] :: pieces rest
    else match pieces rest with
      | [] => [[c]]
      | p :: ps => (c :: p) :: ps

/-- Exactly two slashes at the start are a root of their own; any other number is one slash. -/
def rootOf : Text → Text
  | '/' :: '/' :: '/' :: _ => ['/']
  | '/' :: '/' :: _ => ['/', '/']
  | '/' :: _ => ['/']
  | _ => []

def ofText (t : Text) : Path :=
  { root := rootOf t, parts := (pieces t).filter fun p => p ≠ [] ∧ p ≠ ['.'] }

/-- The text of a path; one without root and parts is a single dot. -/
def text (p : Path) : Text :=
  if p.root = [] ∧ p.parts = [] then ['.'] else p.root ++ Text.joined ['/'] p.parts

end Path

end SyntaxReport
