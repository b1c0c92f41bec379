import SyntaxReport.Text.Basic
import SyntaxReport.Text.Printable

/-! Texts as quoted literals, for error messages that cite user input. Single quotes are used unless
the text has a single quote and no double quote; what cannot be shown is written by its code. -/
namespace SyntaxReport.Text

def hexDigit (n : Nat) : Char :=
  Nat.digitChar (n % 16)

/-- The last `count` hexadecimal digits of a number. -/
def hex : (count : Nat) → Nat → Text
  | 0, _ => []
  | count + 1, n => hex count (n / 16) ++ [hexDigit n]

/-- One character of a literal between the quotes `quote`. -/
def literalChar (quote c : Char) : Text :=
  if c = '\\' ∨ c = quote then ['\\', c]
  else if c = '\n' then ['\\', 'n']
  else if c = '\r' then ['\\', 'r']
  else if c = '\t' then ['\\', 't']
  else if isPrintable c then [c]
  else if c.toNat < 0x100 then '\\' :: 'x' :: hex 2 c.toNat
  else if c.toNat < 0x10000 then '\\' :: 'u' :: hex 4 c.toNat
  else '\\' :: 'U' :: hex 8 c.toNat

def literalQuote (t : Text) : Char :=
  if '\'' ∈ t ∧ '"' ∉ t then '"' else '\''

def literal (t : Text) : Text :=
  let q := literalQuote t
  [q] ++ t.flatMap (literalChar q) ++ [q]

example : literal "it's".toList = "\"it's\"".toList ∧ literal "a\nb".toList = "'a\\nb'".toList := by
  decide +kernel

end SyntaxReport.Text
