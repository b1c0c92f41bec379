import SyntaxReport.Command.Path
import SyntaxReport.Text.Literal
import SyntaxReport.Text.Decimal

/-! Reading files, and a directory of files that is held in memory. -/
namespace SyntaxReport

/-- An error of the operating system at a file. -/
structure FileError where
  number : Nat
  reason : Text
  /-- Whether the file was opened; an error after that does not tell which file it is. -/
  isOpen : Bool := false
  deriving DecidableEq, Repr

namespace FileError

def notFound : FileError where
  number := 2
  reason := "No such file or directory".toList

def notADirectory : FileError where
  number := 20
  reason := "Not a directory".toList

def isADirectory : FileError where
  number := 21
  reason := "Is a directory".toList

def nameTooLong : FileError where
  number := 36
  reason := "File name too long".toList

def message (e : FileError) (path : Path) : Text :=
  "[Errno ".toList ++ Text.ofNat e.number ++ "] ".toList ++ e.reason ++
    if e.isOpen then [] else ": ".toList ++ path.text.literal

end FileError

/-- A way to read the bytes of files. -/
abbrev Reader := Path → Except FileError (List UInt8)

/-- The content of the working directory: files with their bytes, and directories without. -/
structure Disk where
  entries : List (List Text × Option (List UInt8))

namespace Disk

inductive Node where
  | file (bytes : List UInt8)
  | directory

/-- The place that parts lead to when double dots go one level up. -/
def place (parts : List Text) : List Text :=
  parts.foldl (fun here p => if p = "..".toList then here.dropLast else here ++ [p]) []

/-- The directories on the way along parts. -/
def onTheWay (parts : List Text) : List (List Text) :=
  (List.range parts.length).map fun i => place (parts.take i)

/-- The working directory after some files and directories, given by name, have been made in it. -/
def ofFiles (files : List (Text × Option (List UInt8))) : Disk :=
  ⟨files.flatMap fun (name, content) =>
    let parts := (Path.ofText name).parts
    (onTheWay parts).map (·, none) ++ [(place parts, content)]⟩

/-- What is at a place of the working directory. -/
def node? (d : Disk) (parts : List Text) : Option Node :=
  match d.entries.findRev? fun e => e.1 == parts with
  | some (_, some bytes) => some (.file bytes)
  | some (_, none) => some .directory
  | none => none

/-- How many bytes a text takes in UTF-8. -/
def byteCount (t : Text) : Nat :=
  t.foldl (fun n c => n + c.utf8Size) 0

/-- Whether a part of a path has more bytes than a name may have. -/
def isTooLong (part : Text) : Bool :=
  255 < byteCount part

/-- What reading comes to outside the working directory, where there are no files. -/
def outside : List Text → FileError
  | [] => .isADirectory
  | p :: rest =>
    if p = "..".toList then outside rest
    else if isTooLong p then .nameTooLong
    else .notFound

/-- Reads a file from a directory on. -/
def readFrom (d : Disk) (here : List Text) : List Text → Except FileError (List UInt8)
  | [] => .error .isADirectory
  | p :: rest =>
    if p = "..".toList then
      if here = [] then .error (outside rest) else readFrom d here.dropLast rest
    else if isTooLong p then .error .nameTooLong
    else match d.node? (here ++ [p]) with
      | none => .error .notFound
      | some .directory => readFrom d (here ++ [p]) rest
      | some (.file bytes) => if rest = [] then .ok bytes else .error .notADirectory

/-- Reads a file. A whole path may have more bytes than a name, but not any number of them. -/
def read (d : Disk) : Reader := fun path =>
  if 4095 < byteCount path.text then .error .nameTooLong
  else if path.root = [] then d.readFrom [] path.parts
  else .error (outside path.parts)

end Disk

end SyntaxReport
