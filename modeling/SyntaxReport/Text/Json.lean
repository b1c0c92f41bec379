import SyntaxReport.Text.Literal

/-! JSON output in ASCII: what is not a printable ASCII character is escaped, and characters beyond
the first 65536 become pairs of surrogates. -/
namespace SyntaxReport.Json

def unicodeEscape (code : Nat) : Text :=
  '\\' :: 'u' :: Text.hex 4 code

def escapeChar (c : Char) : Text :=
  if c = '"' ∨ c = '\\' then ['\\', c]
  else if c = '\n' then ['\\', 'n']
  else if c = '\r' then ['\\', 'r']
  else if c = '\t' then ['\\', 't']
  else if c = '\x08' then ['\\', 'b']
  else if c = '\x0c' then ['\\', 'f']
  else if ' ' ≤ c ∧ c ≤ '~' then [c]
  else if c.toNat < 0x10000 then unicodeEscape c.toNat
  else
    let n := c.toNat - 0x10000
    unicodeEscape (0xD800 + n / 0x400) ++ unicodeEscape (0xDC00 + n % 0x400)

def string (t : Text) : Text :=
  ['"'] ++ t.flatMap escapeChar ++ ['"']

/-- An object whose values are already written, one field on each line. -/
def object (fields : List (Text × Text)) : Text :=
  let lines := fields.map fun (key, v) => "\n  ".toList ++ string key ++ ": ".toList ++ v
  ['\x7b'] ++ Text.joined [','] lines ++ ['\n', '\x7d']

end SyntaxReport.Json
