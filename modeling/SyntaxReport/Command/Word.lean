import SyntaxReport.Command.Flag
import SyntaxReport.Text.Digit

/-! The words of a command line. A word is an argument, a flag, perhaps with a value attached, or
the separator behind which every word is an argument. -/
namespace SyntaxReport

/-- The word behind which every word is an argument. -/
def separatorText : Text := "--".toList

inductive Word where
  | argument (t : Text)
  | separator
  /-- A flag, perhaps with a value in the same word. -/
  | flag (f : Flag) (isShort : Bool) (attached : Option Text)
  /-- A word that looks like a flag and is none. -/
  | unknown (t : Text)
  deriving DecidableEq, Repr

namespace Word

/-- The text before the first equals sign, and the text behind it if there is one. -/
def splitEquals (t : Text) : Text × Option Text :=
  (t.takeWhile (· ≠ '='), (t.dropWhile (· ≠ '=')).tail?)

def isShortName : Text → Bool
  | _ :: c :: _ => c ≠ '-'
  | _ => false

/-- The flags that a word may mean although it is not the name of one: long names may be shortened,
and a short name may stand directly before its value. -/
def candidates (t : Text) : List (Text × Word) :=
  if isShortName t then
    (Flag.names.filter fun e => e.1 = t.take 2 ∨ t.isPrefixOf e.1).map fun (name, f) =>
      (name, .flag f (isShortName name)
        (if name = t.take 2 then some (t.drop 2) else none))
  else
    let (start, attached) := splitEquals t
    (Flag.abbreviated start).map fun (name, f) => (name, .flag f (isShortName name) attached)

/-- What a word in front of the separator is. A lone dash, a negative number and an unknown flag
with a space in it are arguments. -/
def ofText (t : Text) : Except UsageError Word :=
  match t with
  | '-' :: _ :: _ =>
    let (name, attached) := splitEquals t
    match Flag.named? t, attached.bind fun a => (Flag.named? name).map (·, a) with
    | some f, _ => .ok (.flag f (isShortName t) none)
    | none, some (f, a) => .ok (.flag f (isShortName name) (some a))
    | none, none =>
      match candidates t with
      | [(_, w)] => .ok w
      | [] => .ok (if t.isNegativeNumber || ' ' ∈ t then .argument t else .unknown t)
      | several => .error (.ambiguous t (several.map (·.1)))
  | _ => .ok (.argument t)

def ofTexts : List Text → Except UsageError (List Word)
  | [] => .ok []
  | t :: rest =>
    if t = separatorText then .ok (.separator :: rest.map .argument)
    else do
      let w ← ofText t
      return w :: (← ofTexts rest)

end Word

end SyntaxReport
