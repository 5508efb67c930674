import GoalSearch.Text.Pattern

/-!
# Modes of patterns

Whether a part of a pattern can be used depends on two of the flags that are on where it stands:
whether characters or bytes are meant, and whether case matters. No table of Unicode is at hand. So
where characters are meant case has to matter, and there are no digits, white space or words. Where
bytes are meant a set may only hold characters of ASCII, as other bytes are no characters.
-/

namespace GoalSearch.Text

/-- The flags that decide what can be used. -/
structure PatternMode where
  ignoresCase : Bool
  /-- Whether characters are meant, not bytes. -/
  unicode : Bool
deriving DecidableEq, Repr

namespace PatternMode

/-- The mode in which a pattern begins. -/
def standard : PatternMode := ⟨false, true⟩

def after (m : PatternMode) (change : FlagChange) : PatternMode :=
  ⟨change.state .ignoreCase m.ignoresCase, change.state .unicode m.unicode⟩

/-- Whether the set that a letter stands for, or what is outside it, can be used. -/
def allowsShorthand (m : PatternMode) (negated : Bool) : Bool := !m.unicode && !negated

end PatternMode

def isAscii (c : Char) : Bool := c.toNat ≤ 0x7F

/-- Whether a character can be used outside sets. -/
def PatternChar.suits (m : PatternMode) (c : PatternChar) : Bool :=
  if m.unicode then !m.ignoresCase else !c.isByte || isAscii c.value

def PatternChar.suitsSet (m : PatternMode) (c : PatternChar) : Bool :=
  if m.unicode then !m.ignoresCase else isAscii c.value

namespace CharSet

mutual

def suits (m : PatternMode) : CharSet → Bool
  | .character c => c.suitsSet m
  | .range first last => first.suitsSet m && last.suitsSet m
  | .named negated => if m.unicode then !m.ignoresCase else !negated
  | .shorthand negated => m.allowsShorthand negated
  | .union sets => allSuit m sets
  | .combined left right => left.suits m && right.suits m
  | .bracketed negated s => (m.unicode || !negated) && s.suits m

def allSuit (m : PatternMode) : List CharSet → Bool
  | [] => true
  | s :: later => s.suits m && allSuit m later

end

end CharSet

namespace Pattern

mutual

/-- The mode behind a pattern, if the pattern can be used in the mode before it. A switching of
flags ends with the group that it stands in. -/
def modeAfter? (m : PatternMode) : Pattern → Option PatternMode
  | .character c => if c.suits m then some m else none
  | .any => if m.unicode then some m else none
  | .edge => some m
  | .wordEdge => if m.unicode then none else some m
  | .shorthand negated => if m.allowsShorthand negated then some m else none
  | .set s => if s.suits m then some m else none
  | .flags change => some (m.after change)
  | .repeated p => modeAfter? m p
  | .group _ change p => (modeAfter? (m.after change) p).map fun _ => m
  | .sequence ps | .choice ps => modeAfterAll? m ps

/-- The mode behind patterns, if they can be used one after the other. -/
def modeAfterAll? (m : PatternMode) : List Pattern → Option PatternMode
  | [] => some m
  | p :: later =>
    match modeAfter? m p with
    | some m => modeAfterAll? m later
    | none => none

end

/-- Whether a pattern can be used: it nests no deeper than it may, no two groups have the same name,
and each part can be used in its mode. -/
def isUsable (p : Pattern) : Bool :=
  p.depth ≤ maxDepth && p.groupNames.Nodup && (p.modeAfter? .standard).isSome

end Pattern

end GoalSearch.Text
