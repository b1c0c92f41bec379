import SyntaxReport.Text.Decimal

/-! Binary floating-point numbers and their shortest numerals. A number is read by rounding to the
nearest multiple of a power of two, and shown with the fewest digits that read back as itself. All
arithmetic is exact. -/
namespace SyntaxReport.Numeral

/-- The number `mantissa * 2 ^ exponent`. -/
structure Binary where
  mantissa : Nat
  exponent : Int
  deriving DecidableEq, Repr

/-- The least exponent of a number with 64 bits. -/
def minExponent : Int := -1074

/-- The greatest exponent of a finite number with 64 bits. -/
def maxExponent : Int := 971

def zero : Binary :=
  ⟨0, minExponent⟩

/-- A quotient rounded to the nearest integer, a half to the even neighbour. -/
def roundQuotient (num den : Nat) : Nat :=
  let q := num / den
  let r := num % den
  if 2 * r < den then q
  else if den < 2 * r then q + 1
  else q + q % 2

/-- Numerator and denominator of `num / den / 2 ^ e`. -/
def scaleDown (num den : Nat) (e : Int) : Nat × Nat :=
  if e ≤ 0 then (num * Nat.pow 2 (-e).toNat, den) else (num, den * Nat.pow 2 e.toNat)

/-- The number nearest to a positive quotient, unless it is too large. -/
def nearest? (num den : Nat) : Option Binary :=
  let rough : Int := (Nat.log2 num : Int) - Nat.log2 den - 53
  let (n, d) := scaleDown num den rough
  let e := max (if n / d < Nat.pow 2 53 then rough else rough + 1) minExponent
  let (n, d) := scaleDown num den e
  let m := roundQuotient n d
  let b : Binary := if m = Nat.pow 2 53 then ⟨Nat.pow 2 52, e + 1⟩ else ⟨m, e⟩
  if maxExponent < b.exponent then none else some b

/-- The number nearest to `digits * 10 ^ exponent`, unless it is too large. -/
def ofDecimal? (digits : Nat) (exponent : Int) : Option Binary :=
  let magnitude := (Text.ofNat digits).length + exponent
  if digits = 0 ∨ magnitude < -400 then some zero
  else if 400 < magnitude then none
  else if exponent < 0 then nearest? digits (Nat.pow 10 (-exponent).toNat)
  else nearest? (digits * Nat.pow 10 exponent.toNat) 1

/-- Both sides of a comparison of `d * 10 ^ k` with `l * 2 ^ u`, scaled to natural numbers. -/
def scaleBoth (d : Nat) (k : Int) (l : Nat) (u : Int) : Nat × Nat :=
  let tens := (-k).toNat
  let twos := (-u).toNat
  (d * Nat.pow 10 k.toNat * Nat.pow 2 twos, l * Nat.pow 2 u.toNat * Nat.pow 10 tens)

/-- Whether `d * 10 ^ k` reads back as a number. -/
def readsBack (b : Binary) (d : Nat) (k : Int) : Bool :=
  let unit := b.exponent - 2
  let narrow := b.mantissa = Nat.pow 2 52 ∧ minExponent < b.exponent
  let (x, low) := scaleBoth d k (4 * b.mantissa - if narrow then 1 else 2) unit
  let (y, high) := scaleBoth d k (4 * b.mantissa + 2) unit
  if b.mantissa % 2 = 0 then low ≤ x && y ≤ high else low < x && y < high

/-- The multiple of `10 ^ k` that reads back as a number and is nearest to it, if there is one. -/
def onGrid? (b : Binary) (k : Int) : Option (Nat × Int) :=
  let (grid, value) := scaleBoth 1 k b.mantissa b.exponent
  let below := value / grid
  let above := below + 1
  let fits (d : Nat) : Bool := d ≠ 0 && readsBack b d k
  match fits below, fits above with
  | true, true => some (roundQuotient value grid, k)
  | true, false => some (below, k)
  | false, true => some (above, k)
  | false, false => none

/-- The shortest digits of a number and the power of ten they count, from the coarsest grid on. -/
def shortest (b : Binary) : Nat × Int :=
  if b.mantissa = 0 then (0, 0)
  else ((List.range 660).findSome? fun (i : Nat) => onGrid? b (320 - i)).getD (0, 0)

/-- Where a numeral changes from positional to exponent notation. -/
def positional (exponent : Int) : Bool :=
  -4 ≤ exponent && exponent < 16

/-- Digits that count a power of ten, as a numeral: positional for moderate numbers, with at least
one digit on each side of the point; otherwise one digit before the point and an exponent of at
least two digits with its sign. -/
def write (digits : Nat) (k : Int) : Text :=
  let ds := Text.ofNat digits
  let exponent := ds.length + k - 1
  if positional exponent then
    if 0 ≤ k then ds ++ List.replicate k.toNat '0' ++ ".0".toList
    else if 0 ≤ exponent then
      let whole := (exponent + 1).toNat
      ds.take whole ++ ['.'] ++ ds.drop whole
    else "0.".toList ++ List.replicate (-exponent - 1).toNat '0' ++ ds
  else
    let tail := if ds.length ≤ 1 then [] else '.' :: ds.drop 1
    let size := Text.ofNat exponent.natAbs
    ds.take 1 ++ tail ++ ['e', if exponent < 0 then '-' else '+'] ++
      (if size.length < 2 then '0' :: size else size)

/-- The numeral of a number; one that is too large is infinite. -/
def describe (negative : Bool) (b : Option Binary) : Text :=
  (if negative then ['-'] else []) ++ match b with
    | none => "inf".toList
    | some b => let (digits, k) := shortest b; write digits k

/-- The numeral that stands for `digits * 10 ^ exponent` once it is rounded. -/
def ofDecimal (negative : Bool) (digits : Nat) (exponent : Int) : Text :=
  describe negative (ofDecimal? digits exponent)

end SyntaxReport.Numeral
