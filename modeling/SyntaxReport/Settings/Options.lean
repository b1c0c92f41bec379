import SyntaxReport.Settings.Change
import SyntaxReport.Text.Count
import SyntaxReport.Value.Basic

/-! Option tables: named values that change settings. Dashes and underscores in a name are the same,
and `indent` is a second name for a margin of spaces. -/
namespace SyntaxReport.Settings

inductive OptionFault where
  | indentNotInt (value : Value)
  | unknown (key : Text)
  | notInt (key : Text) (value : Value)
  | notText (key : Text) (value : Value)
  /-- The indent is a wrong count of spaces. -/
  | indentTooWide (cause : CountError)
  | rejected (fault : SettingsFault)

namespace OptionFault

/-- The message for a fault. There is none for an indent that is too wide, or where a value that
would be cited is too long to be written. -/
def message? : OptionFault → Option Text
  | indentNotInt v => v.describe?.map ("indent must be an integer, got ".toList ++ ·)
  | unknown key => some ("unknown formatter option: ".toList ++ key.literal)
  | notInt key v => v.describe?.map (key ++ " must be of type int, got ".toList ++ ·)
  | notText key v => v.describe?.map (key ++ " must be of type str, got ".toList ++ ·)
  | indentTooWide _ => none
  | rejected fault => some fault.message

end OptionFault

/-- A field of the settings under one of its option names. -/
inductive OptionField where
  | indent
  | size (change : Int → Change)
  | wording (change : Text → Change)

def optionField? (key : Text) : Option OptionField :=
  let name := Text.replaceChar '-' ['_'] key
  if name = "indent".toList then some .indent
  else if name = "tab_size".toList then some (.size .tabSize)
  else if name = "lines_before".toList then some (.size .linesBefore)
  else if name = "lines_after".toList then some (.size .linesAfter)
  else if name = "prefix".toList then some (.wording .margin)
  else if name = "marker".toList then some (.wording .marker)
  else none

/-- The change that one entry of an option table asks for. -/
def optionChange (key : Text) (value : Value) : Except OptionFault Change :=
  match optionField? key, value with
  | none, _ => .error (.unknown key)
  | some .indent, .int n => .ok (.indent n)
  | some .indent, v => .error (.indentNotInt v)
  | some (.size change), .int n => .ok (change n)
  | some (.size _), v => .error (.notInt key v)
  | some (.wording change), .text t => .ok (change t)
  | some (.wording _), v => .error (.notText key v)

def ofOptions (entries : List (Text × Value)) : Except OptionFault Settings := do
  let changes ← entries.mapM fun (key, value) => optionChange key value
  (build changes).mapError .rejected

/-- What is wrong with the count of spaces that an entry asks for. -/
def indentError? [Memory] : Text × Value → Option CountError
  | (key, .int n) => match optionField? key with
    | some .indent => Text.countError? n
    | _ => none
  | _ => none

/-- Settings from an option table. An indent that is too wide is a fault of its own, unless an entry
before it has a fault. -/
def ofOptionTable [Memory] (entries : List (Text × Value)) : Except OptionFault Settings :=
  match entries.findSome? indentError? with
  | none => ofOptions entries
  | some e => do
    let before := entries.takeWhile fun entry => (indentError? entry).isNone
    let _ ← before.mapM fun (key, value) => optionChange key value
    .error (.indentTooWide e)

end SyntaxReport.Settings
