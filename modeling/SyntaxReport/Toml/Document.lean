import SyntaxReport.Toml.Moment
import SyntaxReport.Toml.Table

/-! Configuration documents in TOML. A document is a sequence of statements: a key with its value, a
header that opens a table, or a header that starts an element of an array of tables. -/
namespace SyntaxReport.Toml

inductive Statement where
  | keyValue (key : List Text) (v : Value)
  | table (path : List Text)
  | element (path : List Text)

def isBareKeyChar (c : Char) : Bool :=
  c.isAlphanum || c = '-' || c = '_'

/-- One part of a key: bare, or a string of one line. -/
def keyPart? (cs : Text) : Option (Text × Text) :=
  match cs.takeWhile isBareKeyChar with
  | [] => line? cs
  | part => some (part, cs.dropWhile isBareKeyChar)

/-- A key: parts with points between them, and the blanks behind it. -/
def key? : (fuel : Nat) → Text → Option (List Text × Text)
  | 0, _ => none
  | fuel + 1, cs => do
    let (part, cs) ← keyPart? cs
    match skipBlanks cs with
    | '.' :: rest =>
      let (parts, cs) ← key? fuel (skipBlanks rest)
      return (part :: parts, cs)
    | cs => return ([part], cs)

mutual

def value : (fuel : Nat) → Text → Except Fault (Value × Text)
  | 0, _ => .error .malformed
  | _, 't' :: 'r' :: 'u' :: 'e' :: rest => .ok (.bool true, rest)
  | _, 'f' :: 'a' :: 'l' :: 's' :: 'e' :: rest => .ok (.bool false, rest)
  | fuel + 1, '[' :: rest => do
    let (items, cs) ← items fuel (← orMalformed (skipFiller fuel rest))
    return (.list items, cs)
  | fuel + 1, '\x7b' :: rest =>
    match skipBlanks rest with
    | '\x7d' :: cs => .ok (.table [], cs)
    | cs => do
      let (es, cs) ← inlineEntries fuel [] cs
      return (.table (entryValues es), cs)
  | _, cs =>
    match string? cs with
    | some (s, r) => .ok (.text s, r)
    | none => momentOrNumber cs

/-- The values of an array up to its closing bracket; a comma may follow the last one. -/
def items : (fuel : Nat) → Text → Except Fault (List Value × Text)
  | 0, _ => .error .malformed
  | _, ']' :: rest => .ok ([], rest)
  | fuel + 1, cs => do
    let (v, cs) ← value fuel cs
    match ← orMalformed (skipFiller fuel cs) with
    | ']' :: rest => return ([v], rest)
    | ',' :: rest =>
      let (vs, cs) ← items fuel (← orMalformed (skipFiller fuel rest))
      return (v :: vs, cs)
    | _ => .error .malformed

/-- The entries of an inline table up to its closing brace; no comma follows the last one. -/
def inlineEntries : (fuel : Nat) → Entries → Text → Except Fault (Entries × Text)
  | 0, _, _ => .error .malformed
  | fuel + 1, es, cs => do
    let (key, v, cs) ← keyValue fuel cs
    let es ← orMalformed (es.put 0 v key)
    match skipBlanks cs with
    | '\x7d' :: rest => return (es, rest)
    | ',' :: rest => inlineEntries fuel es (skipBlanks rest)
    | _ => .error .malformed

/-- A key, an equals sign and a value. -/
def keyValue : (fuel : Nat) → Text → Except Fault (List Text × Value × Text)
  | 0, _ => .error .malformed
  | fuel + 1, cs => do
    let (key, cs) ← orMalformed (key? fuel cs)
    match cs with
    | '=' :: rest =>
      let (v, cs) ← value fuel (skipBlanks rest)
      return (key, v, cs)
    | _ => .error .malformed

end

/-- One statement and the text behind it on its line. -/
def statement (fuel : Nat) : Text → Except Fault (Statement × Text)
  | '[' :: '[' :: rest => do
    match ← orMalformed (key? fuel (skipBlanks rest)) with
    | (path, ']' :: ']' :: cs) => return (.element path, cs)
    | _ => .error .malformed
  | '[' :: rest => do
    match ← orMalformed (key? fuel (skipBlanks rest)) with
    | (path, ']' :: cs) => return (.table path, cs)
    | _ => .error .malformed
  | cs => do
    let (key, v, cs) ← keyValue fuel cs
    return (.keyValue key v, cs)

/-- A document in the making: the path of the open table, the number of its section and the tables
so far. -/
structure Progress where
  path : List Text := []
  sectionNumber : Nat := 0
  entries : Entries := []

/-- Changes the table at a path, given its last key. -/
def Progress.open? (p : Progress) (path : List Text) (change : Text → Entries → Option Entries) :
    Option Progress := do
  let entries ← p.entries.under path.dropLast (change (← path.getLast?))
  return { path, sectionNumber := p.sectionNumber + 1, entries }

def Progress.add? (p : Progress) : Statement → Option Progress
  | .keyValue key v => do
    let entries ← p.entries.under p.path (Entries.put p.sectionNumber v key)
    return { p with entries }
  | .table path => p.open? path Entries.declare
  | .element path => p.open? path Entries.extend

/-- Reads one statement into a document. -/
def Progress.readOne (p : Progress) (cs : Text) : Except Fault (Progress × Text) := do
  let (s, cs) ← statement (2 * cs.length + 2) cs
  return (← orMalformed (p.add? s), cs)

/-- Reads statements into a document, at most one on each line. The first fault counts. -/
def Progress.read : (fuel : Nat) → Progress → Text → Except Fault Progress
  | 0, _, _ => .error .malformed
  | fuel + 1, p, cs => do
    let (p, cs) ← match skipBlanks cs with
      | [] => .ok (p, [])
      | '\n' :: rest => .ok (p, '\n' :: rest)
      | '#' :: rest => .ok (p, '#' :: rest)
      | cs => p.readOne cs
    match ← orMalformed (skipComment (skipBlanks cs)) with
    | [] => return p
    | '\n' :: rest => p.read fuel rest
    | _ => .error .malformed

/-- The top-level table of a document. -/
def parse (document : Text) : Except Fault (List (Text × Value)) := do
  let p ← Progress.read (document.length + 1) {} document
  return entryValues p.entries

end SyntaxReport.Toml
