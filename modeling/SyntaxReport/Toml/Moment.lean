import SyntaxReport.Toml.Number

/-! Dates and times of configuration documents. A date alone ends where no time follows it, and a
time has seconds, of which at most six decimals count. -/
namespace SyntaxReport.Toml

/-- A number of exactly `count` digits from `low` to `high`. -/
def fixed? (count low high : Nat) (cs : Text) : Option (Nat × Text) :=
  let ds := cs.take count
  let n := valueIn 10 ds
  if ds.length = count ∧ ds.all Char.isDigit ∧ low ≤ n ∧ n ≤ high then some (n, cs.drop count)
  else none

/-- The text behind a character that has to stand here. -/
def behind? (c : Char) : Text → Option Text
  | d :: rest => if d = c then some rest else none
  | [] => none

/-- A year, a month and a day, which the calendar need not have. -/
def day? (cs : Text) : Option (Day × Text) := do
  let (year, cs) ← fixed? 4 0 9999 cs
  let (month, cs) ← fixed? 2 1 12 (← behind? '-' cs)
  let (day, cs) ← fixed? 2 1 31 (← behind? '-' cs)
  return (⟨year, month, day⟩, cs)

/-- The millionths of a second behind a point, if there are decimals. -/
def micro (cs : Text) : Nat × Text :=
  match cs with
  | '.' :: rest =>
    let ds := rest.takeWhile Char.isDigit
    if ds.isEmpty then (0, cs)
    else (valueIn 10 ((ds ++ List.replicate 6 '0').take 6), rest.dropWhile Char.isDigit)
  | _ => (0, cs)

def clock? (cs : Text) : Option (Clock × Text) := do
  let (hour, cs) ← fixed? 2 0 23 cs
  let (minute, cs) ← fixed? 2 0 59 (← behind? ':' cs)
  let (second, cs) ← fixed? 2 0 59 (← behind? ':' cs)
  let (micro, cs) := micro cs
  return (⟨hour, minute, second, micro⟩, cs)

/-- The minutes of an offset behind its sign. -/
def offsetSize? (cs : Text) : Option (Nat × Text) := do
  let (hour, cs) ← fixed? 2 0 23 cs
  let (minute, cs) ← fixed? 2 0 59 (← behind? ':' cs)
  return (60 * hour + minute, cs)

/-- An offset in minutes, if there is one. -/
def offset? : Text → Option (Int × Text)
  | '+' :: rest => (offsetSize? rest).map fun (n, r) => (n, r)
  | '-' :: rest => (offsetSize? rest).map fun (n, r) => (-(n : Int), r)
  | c :: rest => if c = 'Z' ∨ c = 'z' then some (0, rest) else none
  | [] => none

/-- The time of day behind a date, if there is one. -/
def clockBehindDay? : Text → Option (Clock × Text)
  | c :: rest => if c = 'T' ∨ c = 't' ∨ c = ' ' then clock? rest else none
  | [] => none

/-- A date, a time, or a time on a date. -/
def moment? (cs : Text) : Option (Moment × Text) :=
  match day? cs with
  | none => (clock? cs).map fun (c, r) => (.clock c, r)
  | some (d, cs) =>
    match clockBehindDay? cs with
    | none => some (.day d, cs)
    | some (c, cs) =>
      match offset? cs with
      | none => some (.both d c none, cs)
      | some (o, cs) => some (.both d c (some o), cs)

/-- A date or time that the calendar has, or a number. -/
def momentOrNumber (cs : Text) : Except Fault (Value × Text) :=
  match moment? cs with
  | some (m, r) => if m.isValid then .ok (.moment m, r) else .error .malformed
  | none => number cs

end SyntaxReport.Toml
