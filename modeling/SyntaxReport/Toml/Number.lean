import SyntaxReport.Text.Numeral
import SyntaxReport.Toml.Quoted
import SyntaxReport.Value.Basic

/-! Numbers of configuration documents: integers in four bases and floating-point numbers, with
single underscores between digits. A number ends where no further character can belong to it. -/
namespace SyntaxReport.Toml

/-- Why a document cannot be read. -/
inductive Fault where
  | malformed
  /-- A decimal integer has more digits than can be read. -/
  | tooManyDigits (count : Nat)
  deriving DecidableEq, Repr

/-- What a reader has read, where to have read nothing is a fault. -/
def orMalformed {α : Type} (read : Option α) : Except Fault α :=
  read.elim (.error .malformed) .ok

/-- Further digits, each with at most one underscore before it. -/
def moreDigits (isDigit : Char → Bool) : Text → Text × Text
  | [] => ([], [])
  | '_' :: c :: rest =>
    if isDigit c then
      let (ds, r) := moreDigits isDigit rest
      (c :: ds, r)
    else ([], '_' :: c :: rest)
  | c :: rest =>
    if isDigit c then
      let (ds, r) := moreDigits isDigit rest
      (c :: ds, r)
    else ([], c :: rest)

/-- At least one digit. -/
def digits? (isDigit : Char → Bool) : Text → Option (Text × Text)
  | [] => none
  | c :: rest =>
    if isDigit c then
      let (ds, r) := moreDigits isDigit rest
      some (c :: ds, r)
    else none

def decimal? (cs : Text) : Option (Text × Text) :=
  digits? Char.isDigit cs

/-- The value of digits in a base. -/
def valueIn (base : Nat) (ds : Text) : Nat :=
  ds.foldl (fun n c => base * n + (hexValue? c).getD 0) 0

/-- An integer behind the mark of its base. -/
def based? : Text → Option (Nat × Text)
  | '0' :: 'x' :: rest =>
    (digits? (fun c => (hexValue? c).isSome) rest).map fun (ds, r) => (valueIn 16 ds, r)
  | '0' :: 'o' :: rest =>
    (digits? (fun c => '0' ≤ c && c ≤ '7') rest).map fun (ds, r) => (valueIn 8 ds, r)
  | '0' :: 'b' :: rest =>
    (digits? (fun c => c = '0' || c = '1') rest).map fun (ds, r) => (valueIn 2 ds, r)
  | _ => none

/-- Whether a minus stands here, and the text behind the sign. -/
def sign : Text → Bool × Text
  | '-' :: rest => (true, rest)
  | '+' :: rest => (false, rest)
  | cs => (false, cs)

/-- The digits before the point; a zero stands alone. -/
def whole? : Text → Option (Text × Text)
  | '0' :: rest => some (['0'], rest)
  | cs => decimal? cs

/-- The digits behind a point, if there are any. -/
def fraction? : Text → Option (Text × Text)
  | '.' :: rest => decimal? rest
  | _ => none

/-- The exponent, if there is one. -/
def exponent? : Text → Option (Int × Text)
  | c :: rest =>
    if c = 'e' ∨ c = 'E' then
      let (negative, cs) := sign rest
      (decimal? cs).map fun (ds, r) =>
        let n : Int := valueIn 10 ds
        (if negative then -n else n, r)
    else none
  | [] => none

/-- The integer with some decimal digits. -/
def integer (negative : Bool) (ds : Text) : Except Fault Value :=
  if Text.maxDigits < ds.length then .error (.tooManyDigits ds.length)
  else
    let n : Int := valueIn 10 ds
    .ok (.int (if negative then -n else n))

/-- An integer or a finite floating-point number, if one starts here. -/
def finite? (cs : Text) : Option (Except Fault Value × Text) := do
  match based? cs with
  | some (n, r) => return (.ok (.int n), r)
  | none =>
    let (negative, cs) := sign cs
    let (whole, cs) ← whole? cs
    let fraction := fraction? cs
    let cs := fraction.elim cs (·.2)
    let exponent := exponent? cs
    let cs := exponent.elim cs (·.2)
    if fraction.isNone ∧ exponent.isNone then
      return (integer negative whole, cs)
    else
      let behind := fraction.elim [] (·.1)
      let scale := exponent.elim 0 (·.1) - behind.length
      return (.ok (.float (Numeral.ofDecimal negative (valueIn 10 (whole ++ behind)) scale)), cs)

/-- The infinities and the number that is none. -/
def special? (cs : Text) : Option (Value × Text) :=
  let (negative, rest) := sign cs
  match rest with
  | 'i' :: 'n' :: 'f' :: r => some (.float ((if negative then ['-'] else []) ++ "inf".toList), r)
  | 'n' :: 'a' :: 'n' :: r => some (.float "nan".toList, r)
  | _ => none

def number (cs : Text) : Except Fault (Value × Text) :=
  match finite? cs with
  | some (v, r) => v.map (·, r)
  | none => orMalformed (special? cs)

end SyntaxReport.Toml
