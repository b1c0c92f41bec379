import SyntaxReport.Command.Disk
import SyntaxReport.Sequence

/-! What a run depends on besides its command line. A path that begins with a tilde begins in the
home directory of a user; if that is not known, the path leads nowhere. -/
namespace SyntaxReport

/-- The home directories of users by their names; the empty name is that of the user who runs the
program. -/
abbrev Homes := Text → Option Text

/-- Why a path does not begin in a home directory although it should. -/
inductive HomeError where
  | unknown
  /-- No user can have such a name. -/
  | nulInName
  deriving DecidableEq, Repr

namespace Path

/-- The path of a home directory. Slashes at its end do not count, and an empty one is the root; one
that begins with a tilde itself leads nowhere. -/
def ofHome? (home : Text) : Option Path :=
  match Sequence.dropTrailing (· == '/') home with
  | [] => some (ofText ['/'])
  | c :: rest => if c = '~' then none else some (ofText (c :: rest))

/-- The path of a home directory, if it is known. -/
def home (homes : Homes) (name : Text) : Except HomeError Path :=
  if '\x00' ∈ name then .error .nulInName
  else match (homes name).bind ofHome? with
    | some path => .ok path
    | none => .error .unknown

/-- A path with the home directory written out, if it begins in one. -/
def expanded (homes : Homes) (p : Path) : Except HomeError Path :=
  match p.root, p.parts with
  | [], ('~' :: name) :: parts => do
    let top ← home homes name
    return { top with parts := top.parts ++ parts }
  | _, _ => .ok p

end Path

/-- What a run depends on besides its command line. -/
structure Surroundings where
  read : Reader
  homes : Homes
  /-- What the reader of configuration documents says about a text that is none. -/
  complaint : Text → Text
  /-- What a logger writes in place of an entry that cannot be written. -/
  mishap : Text → Text
  /-- Whether a separator can be the value of a flag that it is attached to. Otherwise it is taken
  away there too, and the flag is left with nothing. -/
  keepsSeparator : Bool

/-- Surroundings with some files, in which nobody has a home directory. -/
def Surroundings.homeless (read : Reader) : Surroundings where
  read := read
  homes := fun _ => none
  complaint := fun _ => []
  mishap := fun _ => []
  keepsSeparator := false

end SyntaxReport
