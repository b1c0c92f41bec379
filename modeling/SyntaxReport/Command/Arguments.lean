import SyntaxReport.Command.Word

/-! The arguments of the program. Words are taken from left to right: the first argument that no
flag claims is the file, and the last use of a flag wins. -/
namespace SyntaxReport

/-- What a flag that takes a value was used with: nothing, where a separator that stood for the
value was taken away. -/
inductive Supplied (α : Type) where
  | value (a : α)
  | nothing
  deriving DecidableEq, Repr

/-- The text of what was supplied; nothing is an empty list. -/
def Supplied.text {α : Type} (write : α → Text) : Supplied α → Text
  | value a => write a
  | nothing => "[]".toList

/-- Whether what was supplied, if anything, passes a test. -/
def Supplied.all {α : Type} (p : α → Bool) : Supplied α → Bool
  | value a => p a
  | nothing => true

/-- What has been given on the command line so far. -/
structure Given where
  file : Option Text := none
  line : Option (Supplied Int) := none
  column : Option (Supplied Int) := none
  stopLine : Option (Supplied Int) := none
  stopColumn : Option (Supplied Int) := none
  length : Option (Supplied Int) := none
  tabSize : Option (Supplied Int) := none
  before : Option (Supplied Int) := none
  after : Option (Supplied Int) := none
  indent : Option (Supplied Int) := none
  marker : Option (Supplied Text) := none
  config : Option (Supplied Text) := none
  message : Option (Supplied Text) := none
  json : Bool := false
  verbose : Bool := false
  extras : List Text := []
  deriving DecidableEq, Repr

/-- What ends the reading of a command line early. -/
inductive Halt where
  | help
  | usage (e : UsageError)
  deriving DecidableEq, Repr

/-- A flag as it is used: with its value, if it takes one. -/
structure FlagUse where
  flag : Flag
  value : Option Text := none
  deriving DecidableEq, Repr

namespace Given

def setNumber (g : Given) (n : Supplied Int) : NumberFlag → Given
  | .line => { g with line := some n }
  | .column => { g with column := some n }
  | .stopLine => { g with stopLine := some n }
  | .stopColumn => { g with stopColumn := some n }
  | .length => { g with length := some n }
  | .tabSize => { g with tabSize := some n }
  | .before => { g with before := some n }
  | .after => { g with after := some n }
  | .indent => { g with indent := some n }

def setText (g : Given) (t : Supplied Text) : TextFlag → Given
  | .marker => { g with marker := some t }
  | .config => { g with config := some t }
  | .message => { g with message := some t }

def addExtra (g : Given) (word : Text) : Given :=
  { g with extras := g.extras ++ [word] }

/-- Records what a flag that takes a value was used with. There are two rules for a separator that
is attached to the flag: it is kept as the value, or it is taken away like any other separator. -/
def supply (keepsSeparator : Bool) (g : Given) (flag : Flag) (t : Text) : Except Halt Given :=
  match flag with
  | .text f =>
    .ok (g.setText (if t = separatorText ∧ !keepsSeparator then .nothing else .value t) f)
  | .number f =>
    if t = separatorText ∧ !keepsSeparator then .ok (g.setNumber .nothing f)
    else match t.toInt? with
      | some n => .ok (g.setNumber (.value n) f)
      | none => .error (.usage (.notAnInt flag t))
  | _ => .ok g

/-- Records the use of a flag. -/
def use (keepsSeparator : Bool) (g : Given) (u : FlagUse) : Except Halt Given :=
  match u.flag with
  | .help => .error .help
  | .json => .ok { g with json := true }
  | .verbose => .ok { g with verbose := true }
  | flag => g.supply keepsSeparator flag (u.value.getD [])

end Given

/-- Several short flags in one word: behind a flag without a value the next letter is a flag. -/
def shortCluster (f : Flag) : Text → Except UsageError (List FlagUse)
  | [] => if f.takesValue then .ok [⟨f, some []⟩] else .error (.ignoredValue f [])
  | c :: rest =>
    if f.takesValue then .ok [⟨f, some (c :: rest)⟩]
    else match Flag.short? c, rest with
      | none, _ => .error (.ignoredValue f (c :: rest))
      | some g, [] => .ok [⟨f, none⟩, ⟨g, none⟩]
      | some g, d :: tail => return ⟨f, none⟩ :: (← shortCluster g (d :: tail))

/-- The flags that a flag with or without an attached value uses. -/
def flagUses (f : Flag) (isShort : Bool) : Option Text → Except UsageError (List FlagUse)
  | none => .ok [⟨f, none⟩]
  | some value =>
    if isShort then shortCluster f value
    else if f.takesValue then .ok [⟨f, some value⟩]
    else .error (.ignoredValue f value)

/-- What the next word is looked at for. -/
inductive Awaiting where
  | anything
  /-- A separator directly behind the file is skipped. -/
  | behindFile
  /-- A separator has been met before the file. -/
  | fileBehindSeparator
  /-- The value of the last of some flags. -/
  | valueOf (uses : List FlagUse) (last : Flag)

/-- The reading of a command line. -/
structure Intake where
  given : Given := {}
  awaiting : Awaiting := .anything

namespace Intake

variable (keepsSeparator : Bool)

def useAll (g : Given) (uses : List FlagUse) : Except Halt Intake := do
  return { given := ← uses.foldlM (Given.use keepsSeparator) g }

/-- Uses the flags of a word, once the value of the last one is known. -/
def useWord (g : Given) (uses : List FlagUse) : Except Halt Intake :=
  match uses.getLast? with
  | some ⟨last, none⟩ =>
    if last.takesValue then .ok { given := g, awaiting := .valueOf uses.dropLast last }
    else useAll keepsSeparator g uses
  | _ => useAll keepsSeparator g uses

def takeArgument (g : Given) (t : Text) : Intake :=
  if g.file.isNone then { given := { g with file := some t }, awaiting := .behindFile }
  else { given := g.addExtra t }

def takeFree (g : Given) : Word → Except Halt Intake
  | .argument t => .ok (takeArgument g t)
  | .separator =>
    .ok (if g.file.isNone then { given := g, awaiting := .fileBehindSeparator }
      else { given := g.addExtra separatorText })
  | .unknown t => .ok { given := g.addExtra t }
  | .flag f isShort attached => do
    useWord keepsSeparator g (← (flagUses f isShort attached).mapError .usage)

def take (i : Intake) (w : Word) : Except Halt Intake :=
  match i.awaiting, w with
  | .valueOf uses last, .argument t => useAll keepsSeparator i.given (uses ++ [⟨last, some t⟩])
  | .valueOf _ last, _ => .error (.usage (.expectedOne last))
  | .behindFile, .separator => .ok { given := i.given }
  | _, w => takeFree keepsSeparator i.given w

/-- What is given once all words are taken. -/
def finish (i : Intake) : Except Halt Given :=
  match i.awaiting with
  | .valueOf _ last => .error (.usage (.expectedOne last))
  | .fileBehindSeparator => .ok (i.given.addExtra separatorText)
  | _ => .ok i.given

end Intake

/-- A complete command line. -/
structure Arguments where
  file : Text
  line : Supplied Int
  column : Supplied Int
  given : Given
  deriving DecidableEq, Repr

namespace Arguments

/-- The names of required arguments that are missing. -/
def missing (g : Given) : List Text :=
  (if g.file.isNone then ["file".toList] else []) ++
    (if g.line.isNone then ["--line".toList] else []) ++
    (if g.column.isNone then ["--column".toList] else [])

def ofGiven (g : Given) : Except UsageError Arguments :=
  match g.file, g.line, g.column with
  | some file, some line, some column =>
    if g.extras = [] then .ok { file, line, column, given := g }
    else .error (.unrecognized g.extras)
  | _, _, _ => .error (.missing (missing g))

def parse (keepsSeparator : Bool) (words : List Text) : Except Halt Arguments := do
  let words ← (Word.ofTexts words).mapError .usage
  let given ← (← words.foldlM (Intake.take keepsSeparator) {}).finish
  (ofGiven given).mapError .usage

end Arguments

end SyntaxReport
