import SyntaxReport.Settings.Options
import SyntaxReport.Toml.Document

/-! Settings from a configuration document. The options stand in a table of their own among the
tables of all tools; a document without it leaves the defaults. -/
namespace SyntaxReport.Settings

/-- The name of the options' table. -/
def tableName : Text := "parsediag".toList

inductive DocumentFault where
  /-- The text is no document; the complaint is that of its reader. -/
  | malformed (path complaint : Text)
  /-- A number in the document is too long. -/
  | tooManyDigits (count : Nat)
  | notATable (path : Text)
  | option (fault : OptionFault)
  /-- The entry for all tools is not a table. -/
  | toolNotATable

namespace DocumentFault

/-- The message for a document that cannot be used. There is none for numbers beyond what can be
read, written or counted, nor for a wrong entry for all tools. -/
def message? : DocumentFault → Option Text
  | malformed path complaint => some (path ++ ": ".toList ++ complaint)
  | tooManyDigits _ => none
  | notATable path => some (path ++ ": [tool.".toList ++ tableName ++ "] must be a table".toList)
  | option fault => fault.message?
  | toolNotATable => none

end DocumentFault

/-- The options of a document: none if the table is missing. -/
def documentOptions (path : Text) (document : List (Text × Value)) :
    Except DocumentFault (Option (List (Text × Value))) :=
  match document.lookup "tool".toList with
  | none => .ok none
  | some (.table tool) =>
    match tool.lookup tableName with
    | none => .ok none
    | some (.table entries) => .ok (some entries)
    | some _ => .error (.notATable path)
  | some _ => .error .toolNotATable

/-- The options in the text of a document, given what is said about a text that is none. -/
def readOptions (complaint : Text → Text) (path text : Text) :
    Except DocumentFault (Option (List (Text × Value))) :=
  match Toml.parse text with
  | .error .malformed => .error (.malformed path (complaint text))
  | .error (.tooManyDigits count) => .error (.tooManyDigits count)
  | .ok document => documentOptions path document

/-- The settings that options describe; without options these are the defaults. -/
def ofOptions? [Memory] (options : Option (List (Text × Value))) : Except DocumentFault Settings :=
  match options with
  | none => .ok {}
  | some entries => (ofOptionTable entries).mapError .option

def ofDocument [Memory] (complaint : Text → Text) (path text : Text) :
    Except DocumentFault Settings := do
  ofOptions? (← readOptions complaint path text)

end SyntaxReport.Settings
