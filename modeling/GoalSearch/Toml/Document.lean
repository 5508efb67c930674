import GoalSearch.Text.Part
import GoalSearch.Toml.Value

/-!
# TOML documents

A document is a sequence of sections. A section has a header, but for the first one, and pairs of
keys and values. The table of a document is put together section by section (`assemble`); a key or a
table that is defined twice makes the document invalid. Keys, values and headers know which part of
the text they are, and so `placeOf?` can tell where a key of the document's table stands.
-/

namespace GoalSearch.Toml

structure Key where
  /-- The keys before the last dot. -/
  path : List String
  last : String
  /-- The part of the text with the first of the keys. -/
  part : Text.Part
deriving Repr

def Key.first (k : Key) : String := k.path.headD k.last

structure Pair where
  key : Key
  value : Value
  /-- The part of the text with the value. -/
  part : Text.Part
deriving Repr

structure Header where
  /-- Whether it stands between double brackets, and adds a table to those of its name. -/
  repeats : Bool
  /-- The key between the brackets. -/
  key : Key
  /-- The part of the text with the key and the brackets. -/
  part : Text.Part
deriving Repr

structure Section where
  /-- The header, which the first section does not have. -/
  header : Option Header
  pairs : List Pair
deriving Repr

def addPairs (pairs : List Pair) (entries : Entries) : Option Entries :=
  pairs.foldlM (fun entries p => entries.addDotted? p.key.path p.key.last p.value) entries

/-- A document's table with one more section. A header names a new table, or one that only the
headers of tables inside it have named so far, which then moves to the end. -/
def addSection (document : Entries) (s : Section) : Option Entries :=
  match s.header with
  | none => addPairs s.pairs document
  | some ⟨false, ⟨path, key, _⟩, _⟩ => do
    let begun ←
      match document.valueAt? path key with
      | none => some []
      | some (.table .implied inner) => some inner
      | some _ => none
    let table ← addPairs s.pairs begun
    document.changeAt .implied (fun _ inner =>
      (inner.remove key).add? key (.table .header table)) path .header
  | some ⟨true, ⟨path, key, _⟩, _⟩ => do
    let table ← addPairs s.pairs []
    document.changeAt .implied (fun _ inner =>
      match inner.lookup key with
      | none => inner.add? key (.tables [table])
      | some (.tables elements) => some (inner.put key (.tables (elements ++ [table])))
      | some _ => none) path .header

def assemble (sections : List Section) : Option Entries := sections.foldlM addSection []

/-! ## Places -/

/-- Where a key of a document's table and its value stand. -/
structure Place where
  /-- The part of the text with the key. -/
  key : Text.Part
  /-- The part of the text with the value. -/
  value : Text.Part
deriving Repr

/-- Whether a section has the header of a table or of tables in the document's own table, with a
certain key. -/
def Section.isHeaded (key : String) (s : Section) : Bool :=
  match s.header with
  | none => false
  | some h => h.key.path = [] && h.key.last = key

/-- The first place of a key in a section that does not have it as its header. A table whose key has
dots behind it is not written down itself, and stands where its key does. -/
def Section.mention? (key : String) (s : Section) : Option Place :=
  match s.header with
  | none =>
    (s.pairs.find? fun p => p.key.first = key).map fun p =>
      ⟨p.key.part, if p.key.path = [] then p.part else p.key.part⟩
  | some h => if h.key.first = key then some ⟨h.key.part, h.key.part⟩ else none

/-- The part of the text with a section, from its header to its last value. -/
def Section.part? (s : Section) : Option Text.Part :=
  s.header.map fun h =>
    match s.pairs.getLast? with
    | none => h.part
    | some p => h.part.upTo p.part

/-- Where a key of the document's table stands. The value of a key that has headers reaches from the
first of them to the last value behind the last of them. -/
def placeOf? (key : String) (sections : List Section) : Option Place :=
  let headed := sections.filter (·.isHeaded key)
  match headed.head?, headed.getLast? with
  | some first, some last => do
    let h ← first.header
    return ⟨h.key.part, (← first.part?).upTo (← last.part?)⟩
  | _, _ => sections.findSome? (·.mention? key)

end GoalSearch.Toml
