import SyntaxReport.Sequence
import SyntaxReport.Text.Blank
import SyntaxReport.Text.Decimal

/-! Integers as users type them: decimal digits of any script, with a sign, single underscores
between digits and space around the whole. Numerals with too many digits are refused. The table
follows Unicode 14. -/
namespace SyntaxReport

/-- The code points of the digit zero in each script; the other digits follow it. -/
def digitZeros : List Nat :=
  [0x30, 0x660, 0x6F0, 0x7C0, 0x966, 0x9E6, 0xA66, 0xAE6, 0xB66, 0xBE6, 0xC66, 0xCE6, 0xD66,
   0xDE6, 0xE50, 0xED0, 0xF20, 0x1040, 0x1090, 0x17E0, 0x1810, 0x1946, 0x19D0, 0x1A80, 0x1A90,
   0x1B50, 0x1BB0, 0x1C40, 0x1C50, 0xA620, 0xA8D0, 0xA900, 0xA9D0, 0xA9F0, 0xAA50, 0xABF0, 0xFF10,
   0x104A0, 0x10D30, 0x11066, 0x110F0, 0x11136, 0x111D0, 0x112F0, 0x11450, 0x114D0, 0x11650,
   0x116C0, 0x11730, 0x118E0, 0x11950, 0x11C50, 0x11D50, 0x11DA0, 0x16A60, 0x16AC0, 0x16B50,
   0x1D7CE, 0x1D7D8, 0x1D7E2, 0x1D7EC, 0x1D7F6, 0x1E140, 0x1E2F0, 0x1E950, 0x1FBF0]

/-- The value of a decimal digit. -/
def digitValue? (c : Char) : Option Nat :=
  (digitZeros.find? fun z => z ≤ c.toNat && c.toNat < z + 10).map fun z => c.toNat - z

/-- Whether a character may surround an integer. -/
def isNumericSpace (c : Char) : Bool :=
  isBlank c || ('\t' ≤ c && c ≤ '\r') || c.toNat = 0x85

namespace Text

/-- The value of digits with single underscores between them, behind digits of value `n`. -/
def digitsFrom? (behindDigit : Bool) (n : Nat) : Text → Option Nat
  | [] => if behindDigit then some n else none
  | c :: rest =>
    if c = '_' then
      if behindDigit then digitsFrom? false n rest else none
    else (digitValue? c).bind fun d => digitsFrom? true (10 * n + d) rest

/-- The value of a numeral without sign. -/
def toNat? (digits : Text) : Option Nat :=
  if maxDigits < digits.countP (· ≠ '_') then none else digitsFrom? false 0 digits

/-- The integer that a text denotes. -/
def toInt? (t : Text) : Option Int :=
  match Sequence.dropTrailing isNumericSpace (t.dropWhile isNumericSpace) with
  | '-' :: digits => (toNat? digits).map fun n => -(n : Int)
  | '+' :: digits => (toNat? digits).map Int.ofNat
  | digits => (toNat? digits).map Int.ofNat

/-- Whether a text looks like a negative number: a minus and digits, with a point among or before
them at most. A line feed at the end does not count. -/
def isNegativeNumber : Text → Bool
  | '-' :: rest =>
    let isDigit (c : Char) : Bool := (digitValue? c).isSome
    let body := if rest.getLast? = some '\n' then rest.dropLast else rest
    match body.dropWhile isDigit with
    | [] => !body.isEmpty
    | '.' :: fraction => !fraction.isEmpty && fraction.all isDigit
    | _ => false
  | _ => false

end Text

end SyntaxReport
