import SyntaxReport.Text.Literal

/-! Blanks, comments and strings of configuration documents. A reader takes the text that is left
and gives what it read and the text behind it, or nothing if the document is malformed. Line breaks
are line feeds. -/
namespace SyntaxReport.Toml

def isBlankChar (c : Char) : Bool :=
  c = ' ' || c = '\t'

def skipBlanks (cs : Text) : Text :=
  cs.dropWhile isBlankChar

/-- The blanks and line breaks at the start of a text. -/
def skipSpace (cs : Text) : Text :=
  cs.dropWhile fun c => isBlankChar c || c = '\n'

theorem length_skipSpace_le (cs : Text) : (skipSpace cs).length ≤ cs.length :=
  (List.dropWhile_suffix _).length_le

/-- Whether a character may not stand in a comment or a string of one line. -/
def isIllegal (c : Char) : Bool :=
  (c.toNat < 0x20 && c ≠ '\t') || c.toNat = 0x7F

/-- Skips a comment, if one starts here, up to the end of its line. -/
def skipComment : Text → Option Text
  | '#' :: rest =>
    if (rest.takeWhile (· ≠ '\n')).any isIllegal then none else some (rest.dropWhile (· ≠ '\n'))
  | cs => some cs

/-- Skips blanks, line breaks and comments. -/
def skipFiller : (fuel : Nat) → Text → Option Text
  | 0, _ => none
  | fuel + 1, cs =>
    match skipSpace cs with
    | '#' :: rest => (skipComment ('#' :: rest)).bind (skipFiller fuel)
    | cs' => some cs'

def hexValue? (c : Char) : Option Nat :=
  if '0' ≤ c ∧ c ≤ '9' then some (c.toNat - '0'.toNat)
  else if 'a' ≤ c ∧ c ≤ 'f' then some (c.toNat - 'a'.toNat + 10)
  else if 'A' ≤ c ∧ c ≤ 'F' then some (c.toNat - 'A'.toNat + 10)
  else none

/-- The number that hexadecimal digits denote. -/
def hexNumber? (cs : Text) : Option Nat :=
  cs.foldlM (fun n c => (hexValue? c).map (16 * n + ·)) 0

/-- The character whose code has `count` hexadecimal digits here. -/
def hexChar? (count : Nat) (cs : Text) : Option Char := do
  if cs.length < count then none
  else
    let n ← hexNumber? (cs.take count)
    if n.isValidChar then some (Char.ofNat n) else none

/-- The character that a one-letter escape stands for. -/
def escape? : Char → Option Char
  | 'b' => some '\x08'
  | 't' => some '\t'
  | 'n' => some '\n'
  | 'f' => some '\x0c'
  | 'r' => some '\r'
  | '"' => some '"'
  | '\\' => some '\\'
  | _ => none

/-- The rest of a string in double quotes. In a string of several lines a backslash at the end of a
line skips the space up to the next character. -/
def basicBody (multiline : Bool) (cs : Text) : Option (Text × Text) :=
  match cs with
  | [] => none
  | '"' :: '"' :: '"' :: rest => some ([], if multiline then rest else '"' :: '"' :: rest)
  | '"' :: rest =>
    if multiline then (basicBody multiline rest).map fun (s, r) => ('"' :: s, r)
    else some ([], rest)
  | '\\' :: 'u' :: rest => do
    let c ← hexChar? 4 rest
    let (s, r) ← basicBody multiline (rest.drop 4)
    return (c :: s, r)
  | '\\' :: 'U' :: rest => do
    let c ← hexChar? 8 rest
    let (s, r) ← basicBody multiline (rest.drop 8)
    return (c :: s, r)
  | '\\' :: c :: rest =>
    match escape? c with
    | some e => (basicBody multiline rest).map fun (s, r) => (e :: s, r)
    | none =>
      if multiline ∧ (skipBlanks (c :: rest)).head? = some '\n' then
        basicBody multiline (skipSpace (c :: rest))
      else none
  | c :: rest =>
    if isIllegal c && !(multiline && c = '\n') then none
    else (basicBody multiline rest).map fun (s, r) => (c :: s, r)
termination_by cs.length
decreasing_by
  all_goals simp only [List.length_cons, List.length_drop]
  all_goals first
    | omega
    | exact Nat.lt_succ_of_le (length_skipSpace_le _)

/-- The rest of a string in single quotes, which has no escapes. -/
def literalBody (cs : Text) : Option (Text × Text) :=
  let body := cs.takeWhile (· ≠ '\'')
  match cs.dropWhile (· ≠ '\'') with
  | '\'' :: rest => if body.any isIllegal then none else some (body, rest)
  | _ => none

/-- The rest of a string of several lines in single quotes. -/
def literalLines : Text → Option (Text × Text)
  | [] => none
  | '\'' :: '\'' :: '\'' :: rest => some ([], rest)
  | c :: rest =>
    if isIllegal c && c ≠ '\n' then none
    else (literalLines rest).map fun (s, r) => (c :: s, r)

/-- Quotes directly behind a closing delimiter, of which up to two belong to the string. -/
def trailingQuotes (quote : Char) : Text × Text → Text × Text
  | (s, q :: r) =>
    if q ≠ quote then (s, q :: r)
    else match r with
      | q' :: r' => if q' = quote then (s ++ [quote, quote], r') else (s ++ [quote], r)
      | [] => (s ++ [quote], r)
  | (s, []) => (s, [])

/-- A line break directly behind an opening delimiter does not count. -/
def skipFirstBreak : Text → Text
  | '\n' :: rest => rest
  | cs => cs

/-- A string of one line. -/
def line? : Text → Option (Text × Text)
  | '"' :: rest => basicBody false rest
  | '\'' :: rest => literalBody rest
  | _ => none

/-- A string of either form. -/
def string? : Text → Option (Text × Text)
  | '"' :: '"' :: '"' :: rest =>
    (basicBody true (skipFirstBreak rest)).map (trailingQuotes '"')
  | '\'' :: '\'' :: '\'' :: rest =>
    (literalLines (skipFirstBreak rest)).map (trailingQuotes '\'')
  | cs => line? cs

end SyntaxReport.Toml
