import SyntaxReport.Text.Decimal

/-! Dates and times: a day, a time of day, or both, perhaps with an offset from universal time. -/
namespace SyntaxReport

structure Day where
  year : Nat
  month : Nat
  day : Nat
  deriving DecidableEq, Repr

structure Clock where
  hour : Nat
  minute : Nat
  second : Nat
  /-- Millionths of a second. -/
  micro : Nat
  deriving DecidableEq, Repr

inductive Moment where
  | day (d : Day)
  | clock (c : Clock)
  /-- A time on a day; an offset counts minutes ahead of universal time. -/
  | both (d : Day) (c : Clock) (offset : Option Int)
  deriving DecidableEq, Repr

namespace Day

def isLeap (year : Nat) : Bool :=
  year % 4 = 0 && (year % 100 ≠ 0 || year % 400 = 0)

/-- How many days a month has. -/
def daysIn (year month : Nat) : Nat :=
  if month = 2 then if isLeap year then 29 else 28
  else if month = 4 ∨ month = 6 ∨ month = 9 ∨ month = 11 then 30
  else 31

/-- Whether the calendar has the day. Years count from one. -/
def isValid (d : Day) : Bool :=
  1 ≤ d.year && 1 ≤ d.month && d.month ≤ 12 && 1 ≤ d.day && d.day ≤ daysIn d.year d.month

example : isValid ⟨2000, 2, 29⟩ = true ∧ isValid ⟨1900, 2, 29⟩ = false := by decide

def parts (d : Day) : List Nat :=
  [d.year, d.month, d.day]

end Day

/-- Hour and minute, and the finer parts as far as they are needed. -/
def Clock.parts (c : Clock) : List Nat :=
  [c.hour, c.minute] ++
    if c.micro ≠ 0 then [c.second, c.micro]
    else if c.second ≠ 0 then [c.second]
    else []

namespace Moment

/-- Whether the calendar has the day of a moment. -/
def isValid : Moment → Bool
  | day d => d.isValid
  | clock _ => true
  | both d _ _ => d.isValid

/-- An offset in minutes, as a zone: offsets behind universal time are a day back and the seconds
from there on. -/
def describeZone (offset : Int) : Text :=
  if offset = 0 then "datetime.timezone.utc".toList
  else
    let (days, seconds) := if offset < 0 then ("days=-1, ", 86400 + 60 * offset)
      else ("", 60 * offset)
    "datetime.timezone(datetime.timedelta(".toList ++ days.toList ++ "seconds=".toList ++
      Text.ofInt seconds ++ "))".toList

/-- How a moment is cited in an error message. -/
def describe (m : Moment) : Text :=
  let call (kind : String) (parts : List Nat) (zone : Text) : Text :=
    "datetime.".toList ++ kind.toList ++ ['('] ++ Text.joined ", ".toList (parts.map Text.ofNat) ++
      zone ++ [')']
  match m with
  | day d => call "date" d.parts []
  | clock c => call "time" c.parts []
  | both d c offset => call "datetime" (d.parts ++ c.parts)
      (offset.elim [] fun o => ", tzinfo=".toList ++ describeZone o)

end Moment

end SyntaxReport
