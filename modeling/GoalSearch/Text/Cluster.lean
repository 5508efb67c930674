import GoalSearch.Text.Cluster.Runs
import GoalSearch.Text.Extender
import GoalSearch.Text.Part

/-!
# Clusters of characters

A cluster is what a reader of a text takes for one character: a letter with its marks, a syllable, a
flag, a picture that is put together from several. `clusters` splits a text into the extended
grapheme clusters of Unicode; nothing is lost (`flatten_clusters`).

The role of a character says which neighbours it can share a cluster with. `ClusterRole.isEndAfter`
tells from the roles of all characters before a place, and of the one behind it, whether a cluster
ends there.
-/

namespace GoalSearch.Text

/-- What a character is to its neighbours. -/
inductive ClusterRole where
  | carriageReturn
  | lineFeed
  /-- A control or format, which stands alone. -/
  | control
  /-- A mark that is drawn on the character before it. -/
  | extender
  /-- An extender that makes the consonants around it a conjunct. -/
  | linker
  /-- The extender that keeps consonants from becoming a conjunct. -/
  | nonJoiner
  /-- The extender that makes the pictographs around it one picture. -/
  | joiner
  /-- A mark that takes up room beside the character before it. -/
  | spacingMark
  /-- A sign that is drawn with the character behind it. -/
  | prepended
  /-- A letter of which two make a flag. -/
  | flagLetter
  | pictograph
  | consonant
  /-- A leading consonant of a Hangul syllable. -/
  | leading
  /-- A vowel of a Hangul syllable. -/
  | vowel
  /-- A trailing consonant of a Hangul syllable. -/
  | trailing
  /-- A Hangul syllable without trailing consonants. -/
  | openSyllable
  /-- A Hangul syllable with a trailing consonant. -/
  | closedSyllable
  | other
deriving DecidableEq, Repr

namespace ClusterRole

/-! ## Roles of characters -/

/-- The role in Hangul syllables of a code point. -/
def ofHangul? (n : Nat) : Option ClusterRole :=
  if (0x1100 ≤ n && n ≤ 0x115F) || (0xA960 ≤ n && n ≤ 0xA97C) then some .leading
  else if (0x1160 ≤ n && n ≤ 0x11A7) || (0xD7B0 ≤ n && n ≤ 0xD7C6) || n = 0x16D63
      || (0x16D67 ≤ n && n ≤ 0x16D6A) then some .vowel
  else if (0x11A8 ≤ n && n ≤ 0x11FF) || (0xD7CB ≤ n && n ≤ 0xD7FB) then some .trailing
  else if 0xAC00 ≤ n && n ≤ 0xD7A3 then
    some (if (n - 0xAC00) % 28 = 0 then .openSyllable else .closedSyllable)
  else none

/-- The role of a character outside of ASCII. -/
def ofWide (c : Char) : ClusterRole :=
  if isControl c then .control
  else if c = '\u200d' then .joiner
  else if c = '\u200c' then .nonJoiner
  else if isLinker c then .linker
  else if isExtender c || isSkinTone c then .extender
  else if isSpacingMark c then .spacingMark
  else if isPrepended c then .prepended
  else if isFlagLetter c then .flagLetter
  else if isPictograph c then .pictograph
  else if isConsonant c then .consonant
  else (ofHangul? c.toNat).getD .other

def ofChar (c : Char) : ClusterRole :=
  if c = '\r' then .carriageReturn
  else if c = '\n' then .lineFeed
  else if 0x20 ≤ c.toNat && c.toNat ≤ 0x7E then .other
  else ofWide c

/-! ## Ends of clusters -/

/-- Whether a character stands alone. -/
def isAlone (role : ClusterRole) : Bool :=
  role = .control || role = .carriageReturn || role = .lineFeed

/-- Whether a character is a mark on the one before it. -/
def isExtending (role : ClusterRole) : Bool :=
  role = .extender || role = .linker || role = .nonJoiner

/-- Whether two neighbours belong to the same Hangul syllable. -/
def isSyllable : ClusterRole → ClusterRole → Bool
  | .leading, next =>
    next = .leading || next = .vowel || next = .openSyllable || next = .closedSyllable
  | .openSyllable, next | .vowel, next => next = .vowel || next = .trailing
  | .closedSyllable, next | .trailing, next => next = .trailing
  | _, _ => false

/-- Whether a consonant completes a conjunct, given the roles before it, last first: marks, a linker
among them, and in front of them a consonant. -/
def isConjunct (before : List ClusterRole) : Bool :=
  let isTie (role : ClusterRole) := role = .extender || role = .linker || role = .joiner
  (before.takeWhile isTie).contains .linker && (before.dropWhile isTie).head? = some .consonant

/-- Whether a pictograph completes a picture, given the roles before it, last first: a joiner, marks
and in front of them a pictograph. -/
def isPicture : List ClusterRole → Bool
  | .joiner :: before => (before.dropWhile isExtending).head? = some .pictograph
  | _ => false

/-- Whether a flag letter completes a flag, given the roles before it, last first: an odd number of
such letters. -/
def isFlag (before : List ClusterRole) : Bool :=
  (before.takeWhile (· = .flagLetter)).length % 2 = 1

/-- Whether a cluster ends between two characters, given the roles of all characters before, last
first, and of the one behind. -/
def isEndAfter (before : List ClusterRole) (next : ClusterRole) : Bool :=
  match before with
  | [] => true
  | last :: _ =>
    if last = .carriageReturn && next = .lineFeed then false
    else if last.isAlone || next.isAlone then true
    else if next.isExtending || next = .joiner || next = .spacingMark then false
    else if last = .prepended || isSyllable last next then false
    else
      match next with
      | .consonant => !isConjunct before
      | .pictograph => !isPicture before
      | .flagLetter => !isFlag before
      | _ => true

end ClusterRole

/-! ## Clusters -/

/-- The clusters of characters, given the roles of those before them, last first. -/
def clustersAfter (before : List ClusterRole) : List Char → List (List Char)
  | [] => []
  | [c] => [[c]]
  | c :: d :: later =>
    let before := .ofChar c :: before
    match clustersAfter before (d :: later) with
    | [] => [[c]]
    | cluster :: rest =>
      if ClusterRole.isEndAfter before (.ofChar d) then [c] :: cluster :: rest
      else (c :: cluster) :: rest

def clusters (cs : List Char) : List (List Char) := clustersAfter [] cs

theorem flatten_clustersAfter (before : List ClusterRole) (cs : List Char) :
    (clustersAfter before cs).flatten = cs := by
  fun_induction clustersAfter before cs with
  | case1 => rfl
  | case2 => rfl
  | case3 before c d later before' h ih => simp [h] at ih
  | case4 before c d later before' cluster rest h hend ih => simpa [h] using ih
  | case5 before c d later before' cluster rest h hend ih => simpa [h] using ih

/-- The clusters of characters, one after the other, are these characters. -/
theorem flatten_clusters (cs : List Char) : (clusters cs).flatten = cs :=
  flatten_clustersAfter [] cs

/-! ## Rubouts

A rubout takes away the cluster before it. What is remembered of a cluster is how many bytes it has,
in one byte: of a cluster of 256 bytes or more a rubout takes away what is over a multiple of 256.
-/

def rubout : Char := '\x08'

/-- A line that is being typed. -/
structure Typing where
  /-- The characters, last first. -/
  characters : List Char
  /-- The numbers of bytes to rub out, last first. -/
  sizes : List Nat

namespace Typing

def start : Typing := ⟨[], []⟩

/-- A line with one more cluster, which may be a rubout. -/
def add (t : Typing) (cluster : List Char) : Option Typing :=
  if cluster = [rubout] then
    match t.sizes with
    | [] => some t
    | size :: earlier => do return ⟨← dropBytes size t.characters, earlier⟩
  else some ⟨cluster.reverse ++ t.characters, byteLength cluster % 256 :: t.sizes⟩

end Typing

/-- A text with its rubouts carried out. There is no result if a character would be cut. -/
def applyRubouts (text : String) : Option String := do
  let typed ← (clusters text.toList).foldlM Typing.add .start
  return String.ofList typed.characters.reverse

end GoalSearch.Text
