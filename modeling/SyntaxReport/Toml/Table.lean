import SyntaxReport.Value.Basic

/-! Tables of a configuration document while it is read. A table remembers how it came about, since
a table that was declared once, or grown by dotted keys in an earlier section, is closed. -/
namespace SyntaxReport.Toml

/-- How a table came about. -/
inductive Origin where
  /-- It was needed on the way to another table. -/
  | implied
  /-- Dotted keys of the section with this number made or grew it. -/
  | dotted (sectionNumber : Nat)
  /-- A header of its own declared it. -/
  | declared
  deriving DecidableEq, Repr

inductive Item where
  | value (v : Value)
  | table (origin : Origin) (entries : List (Text × Item))
  /-- An array of tables, the last of which is the current one. -/
  | tables (elements : List (List (Text × Item)))

abbrev Entries := List (Text × Item)

namespace Entries

def replace (key : Text) (item : Item) (es : Entries) : Entries :=
  es.map fun e => if e.1 = key then (key, item) else e

/-- Changes the table under a key; one that is missing is implied. Of an array of tables the current
one is changed. -/
def within (key : Text) (change : Entries → Option Entries) (es : Entries) : Option Entries :=
  match es.lookup key with
  | none => (change []).map fun t => es ++ [(key, .table .implied t)]
  | some (.table origin t) => (change t).map fun t' => es.replace key (.table origin t')
  | some (.tables elements) =>
    (change (elements.getLastD [])).map fun t =>
      es.replace key (.tables (elements.dropLast ++ [t]))
  | some (.value _) => none

/-- Changes the table at the end of a path of keys. -/
def under (path : List Text) (change : Entries → Option Entries) (es : Entries) : Option Entries :=
  path.foldr within change es

/-- Adds a value under a dotted key. The tables on its way must be open in this section. -/
def put (sectionNumber : Nat) (v : Value) : (key : List Text) → Entries → Option Entries
  | [], _ => none
  | [k], es => if (es.lookup k).isSome then none else some (es ++ [(k, .value v)])
  | k :: rest, es =>
    match es.lookup k with
    | none => (put sectionNumber v rest []).map fun t =>
        es ++ [(k, .table (.dotted sectionNumber) t)]
    | some (.table origin t) =>
      if origin = .implied ∨ origin = .dotted sectionNumber then
        (put sectionNumber v rest t).map fun t' =>
          es.replace k (.table (.dotted sectionNumber) t')
      else none
    | some _ => none

/-- Declares the table under a key, which may so far be implied at most. -/
def declare (key : Text) (es : Entries) : Option Entries :=
  match es.lookup key with
  | none => some (es ++ [(key, .table .declared [])])
  | some (.table .implied t) => some (es.replace key (.table .declared t))
  | some _ => none

/-- Starts another element of the array of tables under a key. -/
def extend (key : Text) (es : Entries) : Option Entries :=
  match es.lookup key with
  | none => some (es ++ [(key, .tables [[]])])
  | some (.tables elements) => some (es.replace key (.tables (elements ++ [[]])))
  | some _ => none

end Entries

mutual

def Item.toValue : Item → Value
  | .value v => v
  | .table _ es => .table (entryValues es)
  | .tables elements => .list (elementValues elements)

def entryValues : List (Text × Item) → List (Text × Value)
  | [] => []
  | (k, item) :: rest => (k, item.toValue) :: entryValues rest

def elementValues : List (List (Text × Item)) → List Value
  | [] => []
  | es :: rest => .table (entryValues es) :: elementValues rest

end

end SyntaxReport.Toml
