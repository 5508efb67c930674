/-!
# Patterns

A pattern describes texts: characters and sets of characters, one after the other, with repetitions,
choices and groups. Kept of a pattern is what decides whether it can be used. So a repetition does
not say how often, and a set with a name does not say which.
-/

namespace GoalSearch.Text

/-! ## Characters and sets -/

structure PatternChar where
  value : Char
  /-- Whether it is written by two digits of its number, which may be the number of a byte. -/
  isByte : Bool
deriving DecidableEq, Repr

/-- The character that stands for itself. -/
def PatternChar.plain (c : Char) : PatternChar := ⟨c, false⟩

inductive CharSet where
  | character (c : PatternChar)
  /-- The characters from one to another. -/
  | range (first last : PatternChar)
  /-- A set with a name, or the characters outside it. -/
  | named (negated : Bool)
  /-- The set that a letter stands for: digits, white space or the characters of words, or those
  outside it. -/
  | shorthand (negated : Bool)
  | union (sets : List CharSet)
  /-- The intersection, the difference or the symmetric difference of two sets. -/
  | combined (left right : CharSet)
  /-- A set between brackets, or the characters outside it. -/
  | bracketed (negated : Bool) (set : CharSet)
deriving Repr

namespace CharSet

/-- The union of sets. One set is its own union. -/
def unite : List CharSet → CharSet
  | [s] => s
  | sets => .union sets

mutual

/-- How deeply the parts of a set nest. -/
def depth : CharSet → Nat
  | .character _ | .range .. | .named _ | .shorthand _ | .union [] => 0
  | .union (s :: later) => max s.depth (depthOfAll later) + 1
  | .combined left right => max left.depth right.depth + 1
  | .bracketed _ s => s.depth + 1

def depthOfAll : List CharSet → Nat
  | [] => 0
  | s :: later => max s.depth (depthOfAll later)

end

end CharSet

/-! ## Flags -/

/-- A way of reading a pattern or of matching with it, which can be on or off. -/
inductive PatternFlag where
  /-- The case of letters does not matter. -/
  | ignoreCase
  /-- The edges of lines count as edges. -/
  | manyLines
  /-- Any character may be a line feed. -/
  | anyLineFeed
  /-- Repetitions take little where they would take much. -/
  | swapGreed
  /-- Characters are meant, not bytes. -/
  | unicode
  /-- A line may end in a carriage return and a line feed. -/
  | returnLineFeed
  /-- White space and comments stand in the pattern for the reader only. -/
  | verbose
deriving DecidableEq, Repr

def PatternFlag.ofLetter? : Char → Option PatternFlag
  | 'i' => some .ignoreCase
  | 'm' => some .manyLines
  | 's' => some .anyLineFeed
  | 'U' => some .swapGreed
  | 'u' => some .unicode
  | 'R' => some .returnLineFeed
  | 'x' => some .verbose
  | _ => none

structure FlagChange where
  on : List PatternFlag
  off : List PatternFlag
deriving DecidableEq, Repr

namespace FlagChange

def none : FlagChange := ⟨[], []⟩

/-- The state of a flag after a change, given its state before. -/
def state (change : FlagChange) (flag : PatternFlag) (before : Bool) : Bool :=
  if change.on.contains flag then true
  else if change.off.contains flag then false
  else before

/-- The change that letters write: flags to switch on, and behind a dash flags to switch off, of
which there is at least one. No flag is switched twice. -/
def ofLetters? (letters : List Char) : Option FlagChange := do
  let on ← (letters.takeWhile (· ≠ '-')).mapM PatternFlag.ofLetter?
  let off ←
    match letters.dropWhile (· ≠ '-') with
    | [] => some []
    | ['-'] => Option.none
    | _ :: later => later.mapM PatternFlag.ofLetter?
  if (on ++ off).Nodup then some ⟨on, off⟩ else Option.none

end FlagChange

/-! ## Patterns -/

inductive Pattern where
  | character (c : PatternChar)
  | any
  /-- An end of a line or of the text. -/
  | edge
  /-- An end of a word, or a place that is none. -/
  | wordEdge
  /-- The set that a letter stands for, or the characters outside it. -/
  | shorthand (negated : Bool)
  | set (s : CharSet)
  /-- A switching of flags, for the rest of the group. -/
  | flags (change : FlagChange)
  | repeated (p : Pattern)
  /-- A group, which may have a name, with flags of its own. -/
  | group (name : Option String) (change : FlagChange) (p : Pattern)
  | sequence (ps : List Pattern)
  | choice (ps : List Pattern)
deriving Repr

namespace Pattern

/-- One pattern after the other. One pattern is its own sequence. -/
def inSequence : List Pattern → Pattern
  | [p] => p
  | ps => .sequence ps

/-- The choice between patterns. One pattern is its own choice. -/
def oneOf : List Pattern → Pattern
  | [p] => p
  | ps => .choice ps

mutual

def depth : Pattern → Nat
  | .character _ | .any | .edge | .wordEdge | .shorthand _ | .flags _ => 0
  | .sequence [] | .choice [] => 0
  | .set s => s.depth
  | .repeated p | .group _ _ p => p.depth + 1
  | .sequence (p :: later) | .choice (p :: later) => max p.depth (depthOfAll later) + 1

def depthOfAll : List Pattern → Nat
  | [] => 0
  | p :: later => max p.depth (depthOfAll later)

end

mutual

def groupNames : Pattern → List String
  | .character _ | .any | .edge | .wordEdge | .shorthand _ | .set _ | .flags _ => []
  | .repeated p => p.groupNames
  | .group name _ p => name.toList ++ p.groupNames
  | .sequence ps | .choice ps => groupNamesOfAll ps

def groupNamesOfAll : List Pattern → List String
  | [] => []
  | p :: later => p.groupNames ++ groupNamesOfAll later

end

def maxDepth : Nat := 250

end Pattern

end GoalSearch.Text
