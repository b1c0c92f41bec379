import SyntaxReport.Command.Arguments
import SyntaxReport.Command.Surroundings
import SyntaxReport.Settings.Document
import SyntaxReport.Settings.Loose
import SyntaxReport.Snippet.Formatter
import SyntaxReport.Text.Json
import SyntaxReport.Text.Utf8

/-! The program: from a command line and its surroundings to what is printed. -/
namespace SyntaxReport.Command

/-- Why the program cannot print a snippet. -/
inductive Problem where
  | file (error : FileError) (path : Path)
  | document (fault : Settings.DocumentFault)
  | settings (fault : Settings.LooseFault)
  /-- A flag that needs a value was supplied with nothing. -/
  | nothingSupplied
  | notUtf8
  | nulInPath
  | home (error : HomeError)
  | unrenderable (error : RenderError)

/-- The text of a problem that is reported with exit status two; the other problems end the
program. -/
def Problem.message? : Problem → Option Text
  | .file e path => some (e.message path)
  | .document fault => fault.message?
  | .settings fault => fault.message?
  | _ => none

/-- An entry of the debug log; its text is missing if a number in it is too long to be written. -/
structure LogEntry where
  logger : Text
  text? : Option Text
  deriving DecidableEq, Repr

/-- The line of an entry, or else what is logged about the mishap. -/
def LogEntry.line (mishap : Text → Text) (e : LogEntry) : Text :=
  e.text?.elim (mishap e.logger) fun text =>
    "DEBUG parsediag.".toList ++ e.logger ++ ": ".toList ++ text ++ ['\n']

/-- Steps that log and may run into a problem. -/
abbrev Run := ExceptT Problem (StateM (List LogEntry))

def log (logger : String) (text? : Option Text) : Run Unit :=
  modify (· ++ [⟨logger.toList, text?⟩])

/-- The value of a step that may fail, with its error as a problem. -/
def require {α ε : Type} (problem : ε → Problem) (result : Except ε α) : Run α :=
  match result with
  | .ok a => pure a
  | .error e => throw (problem e)

/-- What flags have to supply. -/
def needed {α : Type} (value : Option α) : Run α :=
  match value with
  | some a => pure a
  | none => throw .nothingSupplied

/-- The text of a file, with every line break as a line feed. -/
def readText (read : Reader) (path : Path) : Run Text := do
  if '\x00' ∈ path.text then throw .nulInPath
  let bytes ← require (.file · path) (read path)
  match Text.ofUtf8? bytes with
  | some t => return Line.unifyBreaks t
  | none => throw .notUtf8

/-- The option names of a table in ascending order, as a list of literals. -/
def optionList (entries : List (Text × Value)) : Text :=
  let keys := (entries.map (·.1)).mergeSort fun a b => !List.lex b a fun x y => decide (x < y)
  ['['] ++ Text.joined ", ".toList (keys.map Text.literal) ++ [']']

variable [Memory]

/-- Settings from a configuration file. -/
def loadSettings (around : Surroundings) (name : Path) : Run Settings := do
  let path ← require .home (name.expanded around.homes)
  let text ← readText around.read path
  let options ← require .document (Settings.readOptions around.complaint path.text text)
  match options with
  | none => log "config" (some ("no [tool.".toList ++ Settings.tableName ++ "] table in ".toList ++
      path.text ++ ", using defaults".toList))
  | some entries => log "config" (some ("loaded formatter options from ".toList ++ path.text ++
      ": ".toList ++ optionList entries))
  require .document (Settings.ofOptions? options)

/-- What was supplied for a field of the settings; nothing is an empty list. -/
def fieldValue {α : Type} (ofValue : α → Value) : Supplied α → Value
  | .value a => ofValue a
  | .nothing => .list []

/-- The entry of a field whose flag is used. -/
def fieldEntry {α : Type} (field : Settings.Field) (ofValue : α → Value)
    (given : Option (Supplied α)) : List (Text × Value) :=
  (given.map fun s => (field.name, fieldValue ofValue s)).toList

/-- The changes to the settings that flags ask for. -/
def changes (g : Given) : Except Problem (List (Text × Value)) := do
  let margin ← match g.indent with
    | none => pure []
    | some (.value n) => match Text.countError? n with
      | some e => throw (.settings (.indentTooWide e))
      | none => pure [(Settings.Change.indent n).entry]
    | some .nothing => throw .nothingSupplied
  return fieldEntry .tabSize .int g.tabSize ++ fieldEntry .linesBefore .int g.before ++
    fieldEntry .linesAfter .int g.after ++ margin ++ fieldEntry .marker .text g.marker

/-- The settings after the changes of flags. Settings that pass have fields of the proper kind. -/
def evolved (base : Settings) (entries : List (Text × Value)) : Except Problem Settings := do
  let s ← ((Settings.Loose.ofSettings base).evolve entries).mapError .settings
  match s.toSettings? with
  | some t => return t
  | none => throw .nothingSupplied

/-- The settings of a run: those of the configuration file, if one is named, changed by flags. -/
def settings (around : Surroundings) (g : Given) : Run Settings := do
  let base ← match g.config with
    | some (.value (c :: name)) => loadSettings around (.ofText (c :: name))
    | _ => pure {}
  match ← require id (changes g) with
  | [] => return base
  | entries => require id (evolved base entries)

/-- A place as a command line gives it. -/
structure Place where
  line : Supplied Int
  column : Supplied Int
  deriving DecidableEq, Repr

namespace Place

def describe (p : Place) : Text :=
  "SourcePosition(line=".toList ++ p.line.text Text.ofInt ++ ", column=".toList ++
    p.column.text Text.ofInt ++ [')']

def isWritable (p : Place) : Bool :=
  p.line.all Text.isWritable && p.column.all Text.isWritable

/-- The position of a place. Before the first line the column does not matter, since there is no
valid position. -/
def position? (p : Place) : Option Position :=
  match p.line, p.column with
  | .value line, .value column => some ⟨line, column⟩
  | .value line, .nothing => if line < 1 then some ⟨line, 0⟩ else none
  | .nothing, _ => none

end Place

/-- The places between which a command line asks for marks. -/
structure Extent where
  start : Place
  stop : Place
  deriving DecidableEq, Repr

namespace Extent

def describe (e : Extent) : Text :=
  "SourceSpan(start=".toList ++ e.start.describe ++ ", stop=".toList ++ e.stop.describe ++ [')']

/-- The description of an extent, unless a number in it is too long to be written: a stop is
reckoned from numbers that may be almost too long. -/
def describe? (e : Extent) : Option Text :=
  if e.start.isWritable && e.stop.isWritable then some e.describe else none

def span? (e : Extent) : Option Span := do
  return ⟨← e.start.position?, ← e.stop.position?⟩

/-- The extent of a command line: up to the stop, or over a number of characters, at least one. -/
def ofArguments? (a : Arguments) : Option Extent :=
  let start : Place := ⟨a.line, a.column⟩
  match a.given.stopLine, a.given.stopColumn with
  | none, none =>
    match a.column, a.given.length.getD (.value 1) with
    | .value column, .value length => some ⟨start, a.line, .value (column + max length 1 - 1)⟩
    | _, _ => none
  | line, column => some ⟨start, line.getD a.line, column.getD a.column⟩

end Extent

/-- The message as a part of a JSON document. -/
def messageJson : Option (Supplied Text) → Text
  | none => "null".toList
  | some s => s.text Json.string

/-- What is printed about a snippet. The numbers of a command line are short enough to be written,
since they have been read. -/
def shown (a : Arguments) (path : Path) (snippet : Text) : Text :=
  if a.given.json then
    Json.object [("file".toList, Json.string path.text),
      ("message".toList, messageJson a.given.message),
      ("snippet".toList, Json.string snippet)] ++ ['\n']
  else match a.given.message with
    | some (.value (c :: message)) => path.text ++ [':'] ++ a.line.text Text.ofInt ++ [':'] ++
        a.column.text Text.ofInt ++ ": ".toList ++ c :: message ++ ['\n'] ++ snippet
    | _ => snippet

/-- The standard output of a run with complete arguments. -/
def output (around : Surroundings) (a : Arguments) : Run Text := do
  let path ← require .home ((Path.ofText a.file).expanded around.homes)
  let s ← settings around a.given
  let source ← readText around.read path
  let extent ← needed (Extent.ofArguments? a)
  let span ← needed extent.span?
  log "cli" (extent.describe?.map fun text =>
    "rendering ".toList ++ text ++ " for ".toList ++ path.text)
  if span.normalized.isNone then
    log "format" (extent.describe?.map fun text =>
      "no usable location in ".toList ++ text ++ ", using fallback text".toList)
  let snippet ← require .unrenderable ((Formatter.standard s).render span source)
  return shown a path snippet

/-- The last line of a text, apart from line feeds at its end. -/
def lastLine (t : Text) : Text :=
  ((Sequence.dropTrailing (· == '\n') t).reverse.takeWhile (· ≠ '\n')).reverse

/-- How the program ends. -/
inductive Outcome where
  | finished (exit : Nat) (out err : Text)
  /-- The command line cannot be understood; the text is the last line of the complaint. -/
  | usage (complaint : Text)
  | help
  | crashed (problem : Problem)

def run (around : Surroundings) (words : List Text) : Outcome :=
  match Arguments.parse around.keepsSeparator words with
  | .error .help => .help
  | .error (.usage e) => .usage (lastLine ("parsediag: error: ".toList ++ e.message))
  | .ok a =>
    let (result, entries) := (output around a).run.run []
    let logged := if a.given.verbose then entries.flatMap (LogEntry.line around.mishap) else []
    match result with
    | .ok out => .finished 0 out logged
    | .error problem =>
      match problem.message? with
      | some message => .finished 2 [] (logged ++ "parsediag: ".toList ++ message ++ ['\n'])
      | none => .crashed problem

end SyntaxReport.Command
