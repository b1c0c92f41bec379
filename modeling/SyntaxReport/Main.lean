import SyntaxReport.Command.Run

/-! The command-line program. The files that a command line names are read first; everything else is
decided by `Command.run`. -/
namespace SyntaxReport.Main

/-- The error of the operating system behind an error of the system's interface. -/
def fileError : IO.Error → FileError
  | .alreadyExists _ code reason | .otherError code reason | .resourceBusy code reason
  | .resourceVanished code reason | .unsupportedOperation code reason
  | .hardwareFault code reason | .unsatisfiedConstraints code reason
  | .illegalOperation code reason | .protocolError code reason | .timeExpired code reason
  | .interrupted _ code reason | .noFileOrDirectory _ code reason
  | .invalidArgument _ code reason | .permissionDenied _ code reason
  | .resourceExhausted _ code reason | .inappropriateType _ code reason
  | .noSuchThing _ code reason => { number := code.toNat, reason := reason.toList }
  | .unexpectedEof => { number := 5, reason := "Input/output error".toList, isOpen := true }
  | .userError reason => { number := 5, reason := reason.toList, isOpen := true }

/-- Reads a file, or tells why it cannot be read. -/
def readFile (path : Path) : IO (Except FileError (List UInt8)) := do
  try
    return .ok (← IO.FS.readBinFile (String.ofList path.text)).toList
  catch e => return .error (fileError e)

/-- The home directories that the list of users gives, one user to a line. -/
def listedHome? (users : String) (name : Text) : Option Text :=
  (users.splitOn "\n").findSome? fun line =>
    match line.splitOn ":" with
    | user :: _ :: _ :: _ :: _ :: home :: _ => if user.toList = name then some home.toList else none
    | _ => none

/-- The home directories of users; that of the user who runs the program is a variable of the
environment. -/
def findHomes : IO Homes := do
  let own ← IO.getEnv "HOME"
  let users ← try IO.FS.readFile "/etc/passwd" catch _ => pure ""
  return fun name => if name = [] then own.map String.toList else listedHome? users name

/-- The files that a command line names. -/
def named (around : Surroundings) (words : List Text) : List Path :=
  match Arguments.parse around.keepsSeparator words with
  | .ok a =>
    let config := match a.given.config with
      | some (.value name) => [name]
      | _ => []
    (config ++ [a.file]).filterMap fun name =>
      ((Path.ofText name).expanded around.homes).toOption
  | .error _ => []

end SyntaxReport.Main

open SyntaxReport in
def main (argv : List String) : IO UInt32 := do
  let words := argv.map String.toList
  let empty : Surroundings := {
    read := fun _ => .error .notFound
    homes := ← Main.findHomes
    complaint := fun _ => "Invalid TOML document".toList
    mishap := fun _ => "--- Logging error ---\n".toList
    keepsSeparator := true }
  let files ← (Main.named empty words).mapM fun path => return (path, ← Main.readFile path)
  let around := { empty with read := fun path => (files.lookup path).getD (.error .notFound) }
  match Command.run around words with
  | .finished exit out err =>
    IO.eprint (String.ofList err)
    IO.print (String.ofList out)
    return exit.toUInt32
  | .usage complaint =>
    IO.eprintln (String.ofList complaint)
    return 2
  | .help =>
    IO.println "usage: parsediag [options] file --line LINE --column COLUMN"
    return 0
  | .crashed _ =>
    IO.eprintln "parsediag: the source or the configuration cannot be used"
    return 1
