import GoalSearch.Log
import GoalSearch.Text.Pattern.Mode
import GoalSearch.Text.Pattern.Reader

/-!
# Log filters

A filter says how detailed an entry may be to be kept. It is written as directives between commas.
Of the directives that speak of an entry the most special one counts, and of those the last. An
entry that no directive speaks of is dropped.

A directive is written `target=level`, `target`, or `level`, where a level is a name or a number and
is the most detailed one if it is left out. Brackets behind the target ask for more: `[span]` for a
span that the entry stands in, `[{field}]` for a field, which may be asked for with a value, and
`[span{field}]` for a span and a field.
-/

namespace GoalSearch

/-! ## Demands on fields

A directive may ask for a field of an entry. The demand is written `name` or `name=value`, where the
value is a number or a pattern that can be used.
-/

structure FieldDemand where
  name : String
  /-- What its value has to look like. -/
  value : Option String
deriving DecidableEq, Repr

namespace FieldDemand

open Text.Reader in
/-- A decimal number without a sign, with a point and an exponent or without them. -/
def decimal : Text.Reader Unit := do
  let units ← run Char.isDigit
  let places ← if ← taken '.' then run Char.isDigit else pure []
  if units.isEmpty && places.isEmpty then failure
  let _ ← optional do
    let _ ← charIn fun c => c = 'e' || c = 'E'
    let _ ← optional (charIn fun c => c = '+' || c = '-')
    let _ ← charIn Char.isDigit
    run Char.isDigit

def numberNames : List String := ["inf", "infinity", "nan"]

def isNumber (written : List Char) : Bool :=
  let unsigned := match written with
    | '+' :: rest => rest
    | '-' :: rest => rest
    | _ => written
  (decimal.whole unsigned).isSome
    || numberNames.contains (String.ofList (unsigned.map Char.toLower))

def isValue (written : List Char) : Bool :=
  isNumber written || (Text.Pattern.read? written).any Text.Pattern.isUsable

/-- The demand that a text writes. What follows a second `=` is not looked at. -/
def read? (written : List Char) : Option FieldDemand :=
  let isPlain (c : Char) := c ≠ '='
  let name := String.ofList (written.takeWhile isPlain)
  match written.dropWhile isPlain with
  | [] => some ⟨name, none⟩
  | _ :: rest =>
    let value := rest.takeWhile isPlain
    if isValue value then some ⟨name, some (String.ofList value)⟩ else none

end FieldDemand

/-! ## Directives -/

/-- The greatest level kept of some entries. -/
structure LogDirective where
  /-- The start of their targets. -/
  target : Option String
  span : Option String
  field : Option FieldDemand
  /-- The greatest rank of levels kept, none if it is zero. -/
  rank : Nat
deriving DecidableEq, Repr

namespace LogDirective

/-! ### Levels -/

/-- The number that digits write, behind a plus sign or not. -/
def number? (written : List Char) : Option Nat :=
  let ds := match written with
    | '+' :: ds => ds
    | ds => ds
  if ds ≠ [] && ds.all Char.isDigit then
    some (Text.numberIn 10 ds)
  else none

/-- The rank of a level's name in either case. -/
def namedRank? (written : List Char) : Option Nat :=
  match String.ofList (written.map Char.toLower) with
  | "off" => some 0
  | "error" => some LogLevel.error.rank
  | "warn" => some LogLevel.warn.rank
  | "info" => some LogLevel.info.rank
  | "debug" => some LogLevel.debug.rank
  | "trace" => some LogLevel.trace.rank
  | _ => none

def rank? (written : List Char) : Option Nat :=
  match number? written with
  | some n => if n ≤ LogLevel.trace.rank then some n else none
  | none => namedRank? written

/-! ### The parts of a directive -/

/-- A directive as it is written. -/
structure Written where
  /-- What stands in front of the brackets and the level. -/
  name : List Char
  /-- The name of a span between the brackets. -/
  span : Option (List Char)
  /-- The field between the braces. -/
  field : Option (List Char)
  /-- What stands behind `=`. -/
  level : Option (List Char)

/-- What stands behind brackets: a level or nothing. -/
def levelPart? : List Char → Option (Option (List Char))
  | '=' :: level => some (some level)
  | rest => if rest.all Text.isWhiteSpace then some none else none

/-- The parts of a directive with brackets, given what stands in front of them and what follows the
opening one. -/
def bracketed? (name rest : List Char) : Option Written :=
  let inSpan (c : Char) := c ≠ ']' && c ≠ '\x7b'
  let span := rest.takeWhile inSpan
  match rest.dropWhile inSpan with
  | ']' :: rest => do return ⟨name, some span, none, ← levelPart? rest⟩
  | '\x7b' :: rest =>
    let field := rest.takeWhile (· ≠ '\x7d')
    match rest.dropWhile (· ≠ '\x7d') with
    | '\x7d' :: ']' :: rest =>
      if field = [] then none
      else do
        let level ← levelPart? rest
        return ⟨name, if span = [] then none else some span, some field, level⟩
    | _ => none
  | _ => none

def isNameStart (c : Char) : Bool := Text.isAlphanumeric c || c = '-' || c = ':' || c = '_'

def written? (cs : List Char) : Option Written :=
  let inName (c : Char) := c ≠ '=' && c ≠ '['
  let name := cs.takeWhile inName
  match name.head?.map isNameStart, cs.dropWhile inName with
  | some false, _ => none
  | none, '[' :: rest => bracketed? [] rest
  | none, _ => none
  | some true, [] => some ⟨name, none, none, none⟩
  | some true, '[' :: rest => bracketed? name rest
  | some true, _ :: level => some ⟨name, none, none, some level⟩

/-- Whether a directive has only what stands in front of brackets and level. -/
def Written.isBare (w : Written) : Bool := w.span.isNone && w.field.isNone && w.level.isNone

/-- What stands in another text at the places of a directive's parts, counted in bytes. A part that
reaches to the end of its own text does so in the other, too. -/
def Written.placedIn? (own text : List Char) (w : Written) : Option Written := do
  let nameEnd := Text.byteLength w.name
  let spanEnd := nameEnd + 1 + Text.byteLength (w.span.getD [])
  let name ← if w.isBare then some text else Text.takeBytes nameEnd text
  let span ← w.span.mapM fun _ => Text.cutBytes (nameEnd + 1) spanEnd text
  let field ← w.field.mapM fun field =>
    Text.cutBytes (spanEnd + 1) (spanEnd + 1 + Text.byteLength field) text
  let level ← w.level.mapM fun level =>
    Text.dropBytes (Text.byteLength own - Text.byteLength level) text
  return ⟨name, span, field, level⟩

/-! ### Reading -/

/-- The directive with certain parts. A name that stands for itself is a level if it can be one. -/
def ofWritten? (w : Written) : Option LogDirective := do
  let target := if w.name = [] then none else some (String.ofList w.name)
  let field ← w.field.mapM FieldDemand.read?
  let whole (rank : Nat) : LogDirective := ⟨target, w.span.map String.ofList, field, rank⟩
  match w.level with
  | some [] => return whole LogLevel.trace.rank
  | some level => return whole (← rank? level)
  | none =>
    match if w.isBare then rank? w.name else none with
    | some rank => return ⟨none, none, none, rank⟩
    | none => return whole LogLevel.trace.rank

/-- The directive of a text that is not empty. White space in front does not count when the places
of its parts are looked for, but does when the parts are taken. -/
def read? (text : List Char) : Option LogDirective := do
  let own := text.dropWhile Text.isWhiteSpace
  ofWritten? (← (← written? own).placedIn? own text)

/-! ### Choosing -/

/-- Whether a directive speaks of an entry. Entries stand in no span, and no value of theirs is ever
compared. -/
def speaksOf (d : LogDirective) (e : LogEntry) : Bool :=
  let hasTarget := match d.target with
    | none => true
    | some target => e.target.startsWith target
  let hasField := match d.field with
    | none => true
    | some ⟨name, none⟩ => e.fields.contains name
    | some _ => false
  hasTarget && d.span.isNone && hasField

/-- The length of what a directive says about targets. -/
def targetSize (d : LogDirective) : Nat :=
  match d.target with
  | none => 0
  | some target => target.utf8ByteSize + 1

/-- Whether a directive says at least as much about entries as another one: it has the longer
target, or else the field, or else a field that is not before the other in the dictionary. -/
def isAsSpecial (d other : LogDirective) : Bool :=
  if d.targetSize ≠ other.targetSize then other.targetSize < d.targetSize
  else
    match d.field, other.field with
    | _, none => true
    | none, some _ => false
    | some f, some g => !(f.name < g.name)

end LogDirective

/-! ## Filters -/

/-- Which entries of a log are kept. -/
structure LogFilter where
  /-- The directives, those written first in front. -/
  directives : List LogDirective
deriving Repr

namespace LogFilter

/-- The directives of texts, if all of them are well formed. Empty texts say nothing. -/
def directives? : List (List Char) → Option (List LogDirective)
  | [] => some []
  | [] :: later => directives? later
  | written :: later => do
    let first ← LogDirective.read? written
    let rest ← directives? later
    some (first :: rest)

def splitAtCommas : List Char → List (List Char)
  | [] => [[]]
  | c :: rest =>
    match splitAtCommas rest with
    | [] => [[c]]
    | part :: later => if c = ',' then [] :: part :: later else (c :: part) :: later

def warnings : LogFilter := ⟨[⟨none, none, none, LogLevel.warn.rank⟩]⟩

/-- The filter of a text. Where no text is given, or it is malformed, warnings are kept. -/
def parse (written : Option String) : LogFilter :=
  match written with
  | none => warnings
  | some text =>
    match directives? (splitAtCommas text.toList) with
    | some directives => ⟨directives⟩
    | none => warnings

/-- The directive that counts: the one found so far, or the next. -/
def moreSpecial (best : Option LogDirective) (d : LogDirective) : Option LogDirective :=
  match best with
  | some b => if d.isAsSpecial b then some d else some b
  | none => some d

def keeps (f : LogFilter) (e : LogEntry) : Bool :=
  match (f.directives.filter (·.speaksOf e)).foldl moreSpecial none with
  | some d => e.level.rank ≤ d.rank
  | none => false

end LogFilter

end GoalSearch
