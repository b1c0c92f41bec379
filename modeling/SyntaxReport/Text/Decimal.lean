import SyntaxReport.Text.Basic

/-! Decimal numerals: the text of an integer and the number of digits a line number needs. -/
namespace SyntaxReport.Text

def ofNat (n : Nat) : Text :=
  Nat.toDigits 10 n

/-- The sign stands directly before the digits of the absolute value. -/
def ofInt : Int → Text
  | .ofNat n => ofNat n
  | .negSucc n => '-' :: ofNat (n + 1)

/-- How many digits a decimal numeral may have to be read as an integer, or an integer to be written
as one; converting longer ones would take too long. -/
def maxDigits : Nat := 4300

/-- Whether an integer is short enough to be written. A description of a value has any length;
labels, messages and log entries are written, and what they show has to pass this first. -/
def isWritable (n : Int) : Bool :=
  n.natAbs < Nat.pow 10 maxDigits

/-- The complaint about an integer with too many digits, which names their number if it is known. -/
def tooManyDigits (count : Option Nat) : Text :=
  "Exceeds the limit (".toList ++ ofNat maxDigits ++
    " digits) for integer string conversion".toList ++
    count.elim [] (fun n => ": value has ".toList ++ ofNat n ++ " digits".toList) ++
    "; use sys.set_int_max_str_digits() to increase the limit".toList

/-- How many decimal digits a natural number has. -/
def digitCount (n : Nat) : Nat :=
  if n < 10 then 1 else digitCount (n / 10) + 1

/-- The least width, at least one, whose numerals reach beyond `highest`. -/
def digitWidth (highest : Int) : Nat :=
  digitCount highest.toNat

theorem digitCount_pos (n : Nat) : 0 < digitCount n := by
  rw [digitCount]
  split <;> omega

theorem lt_pow_digitCount (n : Nat) : n < Nat.pow 10 (digitCount n) := by
  induction n using Nat.strongRecOn with
  | _ n ih =>
    rw [digitCount]
    split
    · change n < 10
      omega
    · have h := ih (n / 10) (by omega)
      change n < Nat.pow 10 (digitCount (n / 10)) * 10
      omega

end SyntaxReport.Text
