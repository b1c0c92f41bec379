import SyntaxReport.Text.Basic

/-! Texts from bytes in UTF-8. Every sequence has to be the shortest one for its character, and no
sequence stands for a surrogate. -/
namespace SyntaxReport.Text

/-- The low six bits of a continuation byte. -/
def continuation? (b : UInt8) : Option Nat :=
  if 0x80 ≤ b ∧ b < 0xC0 then some (b.toNat - 0x80) else none

/-- The character with a code, if the code is at least `least`. -/
def charFrom? (least code : Nat) : Option Char :=
  if least ≤ code ∧ code.isValidChar then some (Char.ofNat code) else none

/-- The text that bytes encode. -/
def ofUtf8? : List UInt8 → Option Text
  | [] => some []
  | a :: rest =>
    if a < 0x80 then (ofUtf8? rest).map (Char.ofNat a.toNat :: ·)
    else match a, rest with
      | a, b :: rest =>
        if 0xC0 ≤ a ∧ a < 0xE0 then do
          let c ← charFrom? 0x80 ((a.toNat - 0xC0) * 64 + (← continuation? b))
          return c :: (← ofUtf8? rest)
        else match b, rest with
          | b, d :: rest =>
            if 0xE0 ≤ a ∧ a < 0xF0 then do
              let low := (← continuation? b) * 64 + (← continuation? d)
              let c ← charFrom? 0x800 ((a.toNat - 0xE0) * 4096 + low)
              return c :: (← ofUtf8? rest)
            else match d, rest with
              | d, e :: rest =>
                if 0xF0 ≤ a ∧ a < 0xF8 then do
                  let low := ((← continuation? b) * 64 + (← continuation? d)) * 64 +
                    (← continuation? e)
                  let c ← charFrom? 0x10000 ((a.toNat - 0xF0) * 262144 + low)
                  return c :: (← ofUtf8? rest)
                else none
              | _, [] => none
          | _, [] => none
      | _, [] => none

end SyntaxReport.Text
