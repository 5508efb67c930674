import GoalSearch.Decimal

/-!
# TOML values

A TOML document is a table: keys with values, in the order in which the keys came in. Tables differ
in how they were begun, which decides who may still add to them.
-/

namespace GoalSearch.Toml

/-- How a table was begun. -/
inductive TableKind where
  /-- By its own header, or as the document itself. -/
  | header
  /-- By the header of a table inside it. -/
  | implied
  | dotted
deriving DecidableEq, Repr

inductive Value where
  | string (text : String)
  | integer (value : Int)
  | float (value : Decimal.Binary64)
  | boolean (value : Bool)
  /-- A date, a time, or both. -/
  | dateTime
  | array (items : List Value)
  | inlineTable (entries : List (String × Value))
  | table (kind : TableKind) (entries : List (String × Value))
  /-- Tables with the same header between double brackets. -/
  | tables (elements : List (List (String × Value)))
deriving Repr, Inhabited

abbrev Entries := List (String × Value)

namespace Entries

/-- Entries with the value of a key replaced, or put last if the key is new. -/
def put (key : String) (value : Value) : Entries → Entries
  | [] => [(key, value)]
  | (k, v) :: rest => if k = key then (k, value) :: rest else (k, v) :: put key value rest

/-- Entries with one more at the end, if its key is new. -/
def add? (key : String) (value : Value) (entries : Entries) : Option Entries :=
  match entries.lookup key with
  | some _ => none
  | none => some (entries ++ [(key, value)])

def remove (key : String) (entries : Entries) : Entries := entries.filter fun e => e.1 ≠ key

/-- Entries in which the table at the end of a path has been changed, given how the tables begin
that are missing on the way. A path leads through the last of several tables with one header. A
dotted path does not lead through a table that has a header of its own, and no path leads through
a value that is no table. -/
def changeAt (missing : TableKind) (change : TableKind → Entries → Option Entries) :
    List String → TableKind → Entries → Option Entries
  | [], kind, entries => change kind entries
  | key :: path, _, entries =>
    match entries.lookup key with
    | none => do
      let inner ← changeAt missing change path missing []
      some (entries.put key (.table missing inner))
    | some (.table kind inner) =>
      if missing = .dotted && kind = .header then none
      else do
        let inner ← changeAt missing change path kind inner
        some (entries.put key (.table kind inner))
    | some (.tables elements) =>
      match elements.getLast? with
      | none => none
      | some last => do
        let last ← changeAt missing change path .header last
        some (entries.put key (.tables (elements.dropLast ++ [last])))
    | some _ => none

/-- Entries with a value under a dotted key: the keys before the last one, and the last one. A
dotted key ends in a table that was begun by a dotted key. -/
def addDotted? (path : List String) (key : String) (value : Value) (entries : Entries) :
    Option Entries :=
  entries.changeAt .dotted (fun kind inner =>
    if path ≠ [] && kind ≠ .dotted then none else inner.add? key value) path .header

def valueAt? : List String → String → Entries → Option Value
  | [], key, entries => entries.lookup key
  | k :: path, key, entries =>
    match entries.lookup k with
    | some (.table _ inner) => valueAt? path key inner
    | some (.tables elements) => (elements.getLast?).bind (valueAt? path key)
    | _ => none

end Entries

end GoalSearch.Toml
