import SyntaxReport.Text.Digit
import SyntaxReport.Value.Basic

/-! Questions that rules ask about a value: whether it is below a bound, how long it is, and whether
it holds a character. A question that makes no sense for the kind of a value has no answer. -/
namespace SyntaxReport

namespace Numeral

/-- The digits of a finite numeral without sign, and the power of ten that they count. -/
def digitsAndScale (numeral : Text) : Nat × Int :=
  let mantissa := numeral.takeWhile (· ≠ 'e')
  let exponent := (Text.toInt? ((numeral.dropWhile (· ≠ 'e')).drop 1)).getD 0
  let whole := mantissa.takeWhile (· ≠ '.')
  let behind := (mantissa.dropWhile (· ≠ '.')).drop 1
  (((Text.toInt? (whole ++ behind)).getD 0).toNat, exponent - behind.length)

/-- Whether the number that a numeral stands for is below an integer. What is no number is below
nothing. -/
def isBelow (numeral : Text) (bound : Int) : Bool :=
  let negative := numeral.head? = some '-'
  let body := if negative then numeral.drop 1 else numeral
  if body = "nan".toList then false
  else if body = "inf".toList then negative
  else
    let (digits, scale) := digitsAndScale body
    let n : Int := if negative then -(digits : Int) else digits
    n * Nat.pow 10 scale.toNat < bound * Nat.pow 10 (-scale).toNat

example : isBelow "0.5".toList 1 = true ∧ isBelow "1e-05".toList 0 = false ∧
    isBelow "-0.0".toList 0 = false ∧ isBelow "1e+16".toList 1 = false := by decide +kernel

end Numeral

namespace Value

/-- Whether a number is below a bound. Truth values count as zero and one. -/
def isBelow? (bound : Int) : Value → Option Bool
  | int n => some (n < bound)
  | bool b => some ((b.toNat : Int) < bound)
  | float numeral => some (Numeral.isBelow numeral bound)
  | _ => none

/-- How many characters a text has, or how many items a list or table. -/
def length? : Value → Option Nat
  | text t => some t.length
  | list items => some items.length
  | table entries => some entries.length
  | _ => none

/-- Whether a value is a text of one given character. -/
def isChar (c : Char) : Value → Bool
  | text t => t = [c]
  | _ => false

/-- Whether a character is part of a text, or the text of it alone an item of a list or a key of a
table. -/
def holds? (c : Char) : Value → Option Bool
  | text t => some (t.contains c)
  | list items => some (items.any (isChar c))
  | table entries => some (entries.any fun e => e.1 = [c])
  | _ => none

end Value

end SyntaxReport
