import SyntaxReport.Text.Basic

/-! The Unicode separators: space, line and paragraph separators. A marker run may not begin under
one of them. Tabs and other control characters are not separators. -/
namespace SyntaxReport

/-- Whether a character is a space, line or paragraph separator. -/
def isBlank (c : Char) : Bool :=
  let n := c.toNat
  n == 0x20 || n == 0xA0 || n == 0x1680 || (0x2000 ≤ n && n ≤ 0x200A) || n == 0x2028 ||
    n == 0x2029 || n == 0x202F || n == 0x205F || n == 0x3000

example : isBlank ' ' = true ∧ isBlank '\t' = false ∧ isBlank 'x' = false := by decide

end SyntaxReport
