/-!
# Parts of a text

Characters are counted in bytes of UTF-8 where a place in a text is told to a user. A part of a text
is given by what is left of the text at its two ends, so that taking a part needs no counting.
`Part.excerpt` shows where a part is: it draws carets under the line in which the part begins.
-/

namespace GoalSearch.Text

/-! ## Lengths in bytes -/

/-- The number of bytes that characters take in UTF-8. -/
def byteLength : List Char → Nat
  | [] => 0
  | c :: rest => c.utf8Size + byteLength rest

theorem byteLength_append (cs ds : List Char) :
    byteLength (cs ++ ds) = byteLength cs + byteLength ds := by
  induction cs with
  | nil => simp [byteLength]
  | cons c cs ih => simp [byteLength, ih, Nat.add_assoc]

/-- The characters in front that take a number of bytes, or all of them if they take fewer. There is
no result if a character would be cut. -/
def takeBytes (bytes : Nat) : List Char → Option (List Char)
  | [] => some []
  | c :: rest =>
    if bytes = 0 then some []
    else if bytes < c.utf8Size then none
    else do return c :: (← takeBytes (bytes - c.utf8Size) rest)

/-- What is left of characters without a number of bytes in front. There is no result if a character
would be cut. -/
def dropBytes (bytes : Nat) : List Char → Option (List Char)
  | [] => some []
  | c :: rest =>
    if bytes = 0 then some (c :: rest)
    else if bytes < c.utf8Size then none
    else dropBytes (bytes - c.utf8Size) rest

/-- The characters from a number of bytes up to a greater one. There is no result if a character
would be cut. -/
def cutBytes (start stop : Nat) (cs : List Char) : Option (List Char) := do
  takeBytes (stop - start) (← dropBytes start cs)

/-! ## Parts -/

structure Part where
  /-- What is left of the text where the part begins. -/
  front : List Char
  /-- What is left of the text behind the part. -/
  back : List Char
deriving DecidableEq, Repr

namespace Part

/-- The part from the beginning of a part to the end of another. -/
def upTo (p q : Part) : Part := ⟨p.front, q.back⟩

def characters (p : Part) : List Char := p.front.take (p.front.length - p.back.length)

def before (text : List Char) (p : Part) : List Char := text.take (text.length - p.front.length)

/-- The number of the line in which a part begins. Lines count from one. -/
def line (text : List Char) (p : Part) : Nat := (p.before text).count '\n' + 1

/-- The number of characters before a part in its line. -/
def indent (text : List Char) (p : Part) : Nat :=
  ((p.before text).reverse.takeWhile (· ≠ '\n')).length

/-- The number of a part's first character in its line. Characters count from one. -/
def column (text : List Char) (p : Part) : Nat := p.indent text + 1

/-- The line in which a part begins. -/
def lineText (text : List Char) (p : Part) : List Char :=
  (text.drop (text.length - p.front.length - p.indent text)).takeWhile (· ≠ '\n')

/-- The number of carets that are drawn under a part: one for a byte, but no more than the bytes of
the line exceed the characters before the part, and at least one. -/
def width (text : List Char) (p : Part) : Nat :=
  max 1 (min (byteLength p.characters) (byteLength (p.lineText text) - p.indent text))

def stroke (c : Char) (length : Nat) : String := String.ofList (List.replicate length c)

/-- The line in which a part begins, with its number in front and carets below the part. -/
def excerpt (text : List Char) (p : Part) : String :=
  let number := toString (p.line text)
  let margin := stroke ' ' (number.length + 1) ++ "|"
  "\n".intercalate
    [margin,
      number ++ " | " ++ String.ofList (p.lineText text),
      margin ++ stroke ' ' (p.column text) ++ stroke '^' (p.width text)]

end Part

end GoalSearch.Text
