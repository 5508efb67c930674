import GoalSearch.Text.Alphanumeric
import GoalSearch.Text.Reader
import GoalSearch.Text.Pattern
import GoalSearch.Text.Character

/-!
# Reading patterns

Readers for the parts of a pattern. What they read depends on whether the pattern is verbose, that
is, has white space and comments in it that mean nothing; this may change from part to part.
`read?` reads a whole text.
-/

namespace GoalSearch.Text.Pattern

open Text.Reader

namespace Reader

/-! ## White space and comments -/

/-- What is left of characters without white space and comments in front. A comment reaches from `#`
to the end of the line. -/
def dropBlanks : (inComment : Bool) → List Char → List Char
  | _, [] => []
  | true, c :: rest => dropBlanks (c ≠ '\n') rest
  | false, c :: rest =>
    if isWhiteSpace c then dropBlanks false rest
    else if c = '#' then dropBlanks true rest
    else c :: rest

/-- White space and comments in a verbose pattern. -/
def blanks (verbose : Bool) : Reader Unit := fun cs =>
  some ((), if verbose then dropBlanks false cs else cs)

/-! ## Escapes -/

/-- As many hexadecimal digits as said. -/
def hexDigits (verbose : Bool) : Nat → Reader (List Char)
  | 0 => return []
  | n + 1 => do
    blanks verbose
    let d ← charIn isHexDigit
    return d :: (← hexDigits verbose n)

/-- The character whose number is written in as many digits as said. -/
def numbered (verbose : Bool) (digits : Nat) : Reader Pattern := do
  let c ← liftM (ofCodePoint? (← hexDigits verbose digits))
  return .character ⟨c, digits = 2⟩

/-- The characters that stand for themselves behind a backslash. -/
def isEscapable (c : Char) : Bool :=
  c.toNat ≤ 0x7F && !c.isAlphanum && c ≠ '<' && c ≠ '>'

/-- What an escape stands for, after the backslash. -/
def escape (verbose : Bool) : Reader Pattern := do
  match ← next with
  | 'x' => numbered verbose 2
  | 'u' => numbered verbose 4
  | 'U' => numbered verbose 8
  | 'd' | 's' | 'w' => return .shorthand false
  | 'D' | 'S' | 'W' => return .shorthand true
  | 'a' => return .character (.plain '\x07')
  | 'f' => return .character (.plain '\x0c')
  | 't' => return .character (.plain '\t')
  | 'n' => return .character (.plain '\n')
  | 'r' => return .character (.plain '\r')
  | 'v' => return .character (.plain '\x0b')
  | 'A' | 'z' => return .edge
  | 'b' | 'B' | '<' | '>' => return .wordEdge
  | c => if isEscapable c then return .character (.plain c) else failure

/-! ## Sets -/

def setNames : List String :=
  ["alnum", "alpha", "ascii", "blank", "cntrl", "digit", "graph", "lower", "print", "punct",
    "space", "upper", "word", "xdigit"]

/-- A set with a name, after its bracket. -/
def namedSet : Reader CharSet := do
  char ':'
  let negated ← taken '^'
  let name ← run (· ≠ ':')
  word [':', ']']
  if setNames.contains (String.ofList name) then return .named negated else failure

/-- A character or an escape in a set. -/
def setCharacter (verbose : Bool) : Reader Pattern := do
  match ← next with
  | '\\' => escape verbose
  | c => return .character (.plain c)

/-- What a pattern stands for in a set. -/
def asSet? : Pattern → Option CharSet
  | .character c => some (.character c)
  | .shorthand negated => some (.shorthand negated)
  | _ => none

/-- The range from a pattern to another. Both are characters, and the last is not before the
first. -/
def range? : Pattern → Pattern → Option CharSet
  | .character first, .character last =>
    if first.value ≤ last.value then some (.range first last) else none
  | _, _ => none

/-- The character that is seen first of those behind a dash. In a verbose pattern it is looked for
behind white space, one `#`, and white space again. -/
def seenFirst (verbose : Bool) (cs : List Char) : Option Char :=
  let behindBlanks := cs.dropWhile isWhiteSpace
  let seen := match behindBlanks with
    | '#' :: rest => rest.dropWhile isWhiteSpace
    | _ => behindBlanks
  if verbose then seen.head?.or cs.head? else cs.head?

/-- Whether a dash comes next that makes a range. It does not in front of a bracket or another
dash. -/
def dashOfRange (verbose : Bool) : Reader Bool := fun cs =>
  match cs with
  | '-' :: rest =>
    let seen := seenFirst verbose rest
    some (seen ≠ some ']' && seen ≠ some '-', cs)
  | _ => some (false, cs)

def setPart (verbose : Bool) : Reader CharSet := do
  let first ← setCharacter verbose
  blanks verbose
  if ← dashOfRange verbose then
    char '-'
    blanks verbose
    liftM (range? first (← setCharacter verbose))
  else liftM (asSet? first)

/-- The parts of a set that may only stand at its beginning: dashes, or else a closing bracket. -/
def firstParts (verbose : Bool) : Reader (List CharSet) := do
  let plain (c : Char) : CharSet := .character (.plain c)
  let dashes ← loop (fun (read : List CharSet) => do
    if ← taken '-' then blanks verbose; return .inl (plain '-' :: read)
    else return .inr read) []
  if dashes.isEmpty then
    if ← taken ']' then return [plain ']']
  return dashes

/-- The mark of the intersection, the difference or the symmetric difference of sets. -/
def setOperator : Reader Unit :=
  word ['&', '&'] <|> word ['-', '-'] <|> word ['~', '~']

/-- A set so far: what stands in front of the last operator, and the parts behind it, last first. -/
abbrev SetProgress := Option CharSet × List CharSet

/-- The set that has been read. Operators group to the left. -/
def SetProgress.finish (progress : SetProgress) : CharSet :=
  let right := CharSet.unite progress.2.reverse
  match progress.1 with
  | none => right
  | some left => .combined left right

/-- A set, after its bracket, with sets in it nested at most as deeply as said. -/
def bracketed (verbose : Bool) : (nesting : Nat) → Reader CharSet
  | 0 => failure
  | nesting + 1 => do
    blanks verbose
    let negated ← taken '^'
    blanks verbose
    let first ← firstParts verbose
    loop (fun (progress : SetProgress) => do
      let (left, parts) := progress
      blanks verbose
      if ← taken ']' then return .inr (.bracketed negated progress.finish)
      else if (← optional setOperator).isSome then return .inl (some progress.finish, [])
      else if ← taken '[' then
        match ← optional namedSet with
        | some part => return .inl (left, part :: parts)
        | none => return .inl (left, (← bracketed verbose nesting) :: parts)
      else return .inl (left, (← setPart verbose) :: parts)) (none, first)

/-! ## Groups -/

/-- The name of a group, up to its closing bracket. -/
def groupName : Reader String := do
  let first ← charIn fun c => c = '_' || isAlphabetic c
  let rest ← run fun c => c = '_' || c = '.' || c = '[' || c = ']' || isAlphanumeric c
  char '>'
  return String.ofList (first :: rest)

/-- A group or a switching of flags, after the bracket, given how the inside of a group is read. -/
def group (inside : (verbose : Bool) → Reader Pattern) (verbose : Bool) : Reader Pattern := do
  let grouped (name : Option String) (change : FlagChange) : Reader Pattern := do
    let p ← inside (change.state .verbose verbose)
    char ')'
    return .group name change p
  blanks verbose
  if !(← taken '?') then grouped none .none
  else if (← optional (word ['P', '<'] <|> word ['<'])).isSome then
    grouped (some (← groupName)) .none
  else
    let letters ← run fun c => c ≠ ':' && c ≠ ')'
    let change ← liftM (FlagChange.ofLetters? letters)
    if ← taken ':' then grouped none change
    else
      char ')'
      if letters.isEmpty then failure else return .flags change

/-! ## Sequences and choices -/

/-- The inside of a group so far. -/
structure Progress where
  /-- Whether the pattern is verbose at this place. -/
  verbose : Bool
  /-- The choices that are complete, last first. -/
  choices : List Pattern
  /-- The parts of the choice that has begun, last first. -/
  parts : List Pattern

namespace Progress

def add (s : Progress) (p : Pattern) : Progress :=
  let verbose := match p with
    | .flags change => change.state .verbose s.verbose
    | _ => s.verbose
  ⟨verbose, s.choices, p :: s.parts⟩

/-- The last part repeated. A switching of flags cannot be repeated. -/
def repeatLast? (s : Progress) : Option Progress :=
  match s.parts with
  | [] | .flags _ :: _ => none
  | p :: earlier => some { s with parts := .repeated p :: earlier }

/-- The choices, with the one that has begun. -/
def allChoices (s : Progress) : List Pattern := inSequence s.parts.reverse :: s.choices

def nextChoice (s : Progress) : Progress := ⟨s.verbose, s.allChoices, []⟩

def finish (s : Progress) : Pattern := oneOf s.allChoices.reverse

end Progress

/-- The inside of a group, or a whole pattern, with groups and sets in it nested at most as deeply
as said. -/
def inside : (nesting : Nat) → (verbose : Bool) → Reader Pattern
  | 0, _ => failure
  | nesting + 1, verbose =>
    let extend (s : Progress) : Reader Progress := do
      match ← next with
      | '|' => return s.nextChoice
      | '*' | '+' | '?' => do
        let _ ← taken '?'
        liftM s.repeatLast?
      | '\x7b' => failure
      | '(' => return s.add (← group (inside nesting) s.verbose)
      | '[' => return s.add (.set (← bracketed s.verbose nesting))
      | '\\' => return s.add (← escape s.verbose)
      | '.' => return s.add .any
      | '^' | '$' => return s.add .edge
      | c => return s.add (.character (.plain c))
    loop (fun (s : Progress) => do
      blanks s.verbose
      match ← peek with
      | none | some ')' => return .inr s.finish
      | some _ => return .inl (← extend s)) ⟨verbose, [], []⟩

end Reader

/-- The pattern that a text writes. A repetition with a number of times is not known. -/
def read? (text : List Char) : Option Pattern :=
  (Reader.inside (maxDepth + 1) false).whole text

end GoalSearch.Text.Pattern
