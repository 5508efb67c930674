import GoalSearch.Text.Reader
import GoalSearch.Toml.Document

/-!
# Reading TOML

Readers for the parts of a TOML document, from blanks and strings up to sections. `readDocument`
reads a whole text.
-/

namespace GoalSearch.Toml

open Text (Reader isHexDigit numberIn ofCodePoint?)
open Text.Reader

namespace Reader

/-! ## Blanks, comments and line ends -/

def blanks : Reader Unit := do let _ ← run fun c => c = ' ' || c = '\t'

def isCommentChar (c : Char) : Bool :=
  c = '\t' || (0x20 ≤ c.toNat && c.toNat ≠ 0x7F)

def comment : Reader Unit := do
  if ← taken '#' then
    let _ ← run isCommentChar

/-- The end of a line, which is a line feed with or without a carriage return in front. -/
def newline : Reader Unit := do
  let _ ← taken '\r'
  char '\n'

/-- The end of a line or of the text. -/
def lineEnd : Reader Unit := do
  match ← peek with
  | none => return
  | some _ => newline

/-- What may follow a statement on its line. -/
def trailing : Reader Unit := do
  blanks
  comment
  lineEnd

/-- Blanks, comments and line ends. -/
def blankLines : Reader Unit :=
  loop (fun () => do
    match ← peek with
    | some c =>
      if c = ' ' || c = '\t' then blanks; return .inl ()
      else if c = '#' then comment; lineEnd; return .inl ()
      else if c = '\r' || c = '\n' then newline; return .inl ()
      else return .inr ()
    | none => return .inr ()) ()

/-! ## Strings -/

/-- The character with a code point written in as many hexadecimal digits as said. -/
def codePoint (digits : Nat) : Reader Char := fun cs => do
  let ds := cs.take digits
  if ds.length = digits && ds.all isHexDigit then some (← ofCodePoint? ds, cs.drop digits)
  else none

/-- The character that an escape stands for, after the backslash. -/
def escaped : Reader Char := do
  match ← next with
  | 'b' => return '\x08'
  | 'f' => return '\x0c'
  | 'n' => return '\n'
  | 'r' => return '\r'
  | 't' => return '\t'
  | '"' => return '"'
  | '\\' => return '\\'
  | 'u' => codePoint 4
  | 'U' => codePoint 8
  | _ => failure

/-- The characters of strings that stand for themselves. -/
def isPlainChar (c : Char) : Bool := isCommentChar c

def textOfReversed (reversed : List Char) : String := String.ofList reversed.reverse

/-- The rest of a string with escapes, after its quote. -/
def basicString : Reader String :=
  loop (fun (read : List Char) => do
    match ← next with
    | '"' => return .inr (textOfReversed read)
    | '\\' => do let c ← escaped; return .inl (c :: read)
    | c => if isPlainChar c then return .inl (c :: read) else failure) []

/-- The rest of a string without escapes, after its quote. -/
def literalString : Reader String := do
  let cs ← run fun c => isPlainChar c && c ≠ '\''
  char '\''
  return String.ofList cs

/-- A line end, after a backslash and blanks, with all blanks and line ends that follow. -/
def lineContinuation : Reader Unit := do
  blanks
  newline
  loop (fun () => do
    match ← peek with
    | some c =>
      if c = ' ' || c = '\t' then blanks; return .inl ()
      else if c = '\r' || c = '\n' then newline; return .inl ()
      else return .inr ()
    | none => return .inr ()) ()

/-- The rest of a string over several lines, after its three quotes. Three to five quotes end it,
of which the last three are its end. -/
def multilineString (quote : Char) (escapes : Bool) : Reader String := do
  let _ ← optional newline
  loop (fun (read : List Char) => do
    let quotes ← run (· = quote)
    if 6 ≤ quotes.length then failure
    else if 3 ≤ quotes.length then return .inr (textOfReversed (quotes.drop 3 ++ read))
    else
      let read := quotes ++ read
      match ← next with
      | '\\' =>
        if escapes then
          match ← optional lineContinuation with
          | some () => return .inl read
          | none => do let c ← escaped; return .inl (c :: read)
        else return .inl ('\\' :: read)
      | '\n' => return .inl ('\n' :: read)
      | '\r' => do char '\n'; return .inl ('\n' :: read)
      | c => if isPlainChar c then return .inl (c :: read) else failure) []

/-- A string, after its first quote. -/
def stringAfter (quote : Char) (escapes : Bool) : Reader String := do
  if (← optional (word [quote, quote])).isSome then multilineString quote escapes
  else if escapes then basicString
  else literalString

/-! ## Numbers -/

/-- Digits, with single underscores between them. -/
def digits (isDigit : Char → Bool) : Reader (List Char) := do
  let first ← charIn isDigit
  loop (fun (read : List Char) => do
    match ← optional (do let _ ← taken '_'; charIn isDigit) with
    | some c => return .inl (c :: read)
    | none => return .inr read.reverse) [first]

/-- Whether a minus sign comes next. Either sign is taken. -/
def sign : Reader Bool := do
  if ← taken '-' then return true
  let _ ← taken '+'
  return false

/-- Decimal digits of which the first is zero only if it is the only one. -/
def wholeDigits : Reader (List Char) := do
  if ← taken '0' then return ['0']
  else digits Char.isDigit

/-- The natural that the digits of a class write in a base. -/
def based (base : Nat) (isDigit : Char → Bool) : Reader Int := do
  return numberIn base (← digits isDigit)

def decimalInteger : Reader Int := do
  let negative ← sign
  let n : Int := numberIn 10 (← wholeDigits)
  return if negative then -n else n

def leastInteger : Int := -9223372036854775808

def greatestInteger : Int := 9223372036854775807

def integer : Reader Value := do
  let n ←
    if (← optional (word ['0', 'x'])).isSome then based 16 isHexDigit
    else if (← optional (word ['0', 'o'])).isSome then based 8 fun c => '0' ≤ c && c ≤ '7'
    else if (← optional (word ['0', 'b'])).isSome then based 2 fun c => c = '0' || c = '1'
    else decimalInteger
  if leastInteger ≤ n && n ≤ greatestInteger then return .integer n else failure

def exponent : Reader Int := do
  let _ ← charIn fun c => c = 'e' || c = 'E'
  let negative ← sign
  let n : Int := numberIn 10 (← digits Char.isDigit)
  return if negative then -n else n

/-- The digits after the point of a float. -/
def fraction : Reader (List Char) := do
  char '.'
  digits Char.isDigit

/-- A float written with a fraction or an exponent. It is below infinity. -/
def decimalFloat : Reader Value := do
  let negative ← sign
  let whole ← wholeDigits
  let places ← optional fraction
  let power ← optional exponent
  if places.isNone && power.isNone then failure
  let places := places.getD []
  let x := Decimal.Binary64.ofDecimal negative (numberIn 10 (whole ++ places))
    (power.getD 0 - places.length)
  if x = .infinite false then failure else return .float x

def specialFloat : Reader Value := do
  let negative ← sign
  (do word ['i', 'n', 'f']; return .float (.infinite negative))
    <|> (do word ['n', 'a', 'n']; return .float .nan)

/-! ## Dates and times -/

/-- As many decimal digits as said, whose number lies between two bounds. -/
def fixedNumber (count least greatest : Nat) : Reader Nat := fun cs =>
  let ds := cs.take count
  let n := numberIn 10 ds
  if ds.length = count && ds.all Char.isDigit && least ≤ n && n ≤ greatest then
    some (n, cs.drop count)
  else none

def daysIn (year month : Nat) : Nat :=
  if month = 2 then
    if year % 4 = 0 && (year % 100 ≠ 0 || year % 400 = 0) then 29 else 28
  else if month = 4 || month = 6 || month = 9 || month = 11 then 30
  else 31

def date : Reader Unit := do
  let year ← fixedNumber 4 0 9999
  char '-'
  let month ← fixedNumber 2 1 12
  char '-'
  let _ ← fixedNumber 2 1 (daysIn year month)

def time : Reader Unit := do
  let _ ← fixedNumber 2 0 23
  char ':'
  let _ ← fixedNumber 2 0 59
  char ':'
  let _ ← fixedNumber 2 0 60
  let _ ← optional do
    char '.'
    let _ ← charIn Char.isDigit
    run Char.isDigit

/-- A distance from universal time. -/
def offset : Reader Unit := do
  let mark ← charIn fun c => c = 'Z' || c = 'z' || c = '+' || c = '-'
  if mark = '+' || mark = '-' then
    let _ ← fixedNumber 2 0 23
    char ':'
    let _ ← fixedNumber 2 0 59

/-- A date, a time, or a date and a time with or without an offset. -/
def dateTime : Reader Value := do
  let dated := do
    date
    let _ ← optional do
      let _ ← charIn fun c => c = 'T' || c = 't' || c = ' '
      time
      optional offset
  dated <|> time
  return .dateTime

/-! ## Keys -/

def isKeyChar (c : Char) : Bool := c.isAlphanum || c = '-' || c = '_'

/-- A key between dots. -/
def simpleKey : Reader String := do
  if ← taken '"' then basicString
  else if ← taken '\'' then literalString
  else
    let first ← charIn isKeyChar
    let rest ← run isKeyChar
    return String.ofList (first :: rest)

def maxKeys : Nat := 79

/-- A key, which may have dots in it. -/
def dottedKey : Reader Key := do
  blanks
  let (first, part) ← located simpleKey
  blanks
  let (path, key) ← loop (fun ((path, key) : List String × String) => do
    if ← taken '.' then
      blanks
      let last ← simpleKey
      blanks
      return .inl (path ++ [key], last)
    else return .inr (path, key)) ([], first)
  if path.length < maxKeys then return ⟨path, key, part⟩ else failure

/-! ## Values -/

/-- A pair, given how values are read. -/
def pair (value : Reader Value) : Reader Pair := do
  let key ← dottedKey
  char '='
  blanks
  let (value, part) ← located value
  return ⟨key, value, part⟩

/-- The items of an array, after its bracket. -/
def arrayItems (value : Reader Value) : Reader (List Value) :=
  loop (fun (read : List Value) => do
    blankLines
    if ← taken ']' then return .inr read.reverse
    let v ← value
    blankLines
    if ← taken ',' then return .inl (v :: read)
    char ']'
    return .inr (v :: read).reverse) []

/-- The pairs of a table between braces, after its brace. -/
def inlinePairs (value : Reader Value) : Reader (List Pair) := do
  blanks
  if ← taken '\x7d' then return []
  loop (fun (read : List Pair) => do
    let p ← pair value
    blanks
    if ← taken ',' then return .inl (p :: read)
    char '\x7d'
    return .inr (p :: read).reverse) []

/-- A value, with arrays and tables nested at most as deeply as said. -/
def value : (nesting : Nat) → Reader Value
  | 0 => scalar
  | nesting + 1 => do
    if ← taken '[' then return .array (← arrayItems (value nesting))
    else if ← taken '\x7b' then
      let pairs ← inlinePairs (value nesting)
      let entries ← liftM (addPairs pairs [])
      return .inlineTable entries
    else scalar
where
  scalar : Reader Value := do
    if ← taken '"' then return .string (← stringAfter '"' true)
    else if ← taken '\'' then return .string (← stringAfter '\'' false)
    else
      (do word ['t', 'r', 'u', 'e']; return .boolean true)
        <|> (do word ['f', 'a', 'l', 's', 'e']; return .boolean false)
        <|> dateTime <|> decimalFloat <|> specialFloat <|> integer

/-- How deeply arrays and tables may nest in a value. -/
def maxNesting : Nat := 79

/-! ## Documents -/

def header : Reader Header := do
  let ((repeats, key), part) ← located do
    char '['
    let repeats ← taken '['
    let key ← dottedKey
    char ']'
    if repeats then char ']'
    return (repeats, key)
  trailing
  return ⟨repeats, key, part⟩

def sections : Reader (List Section) :=
  loop (fun ((closed, current) : List Section × Section) => do
    blankLines
    match ← peek with
    | none => return .inr (current :: closed).reverse
    | some '[' => do
      let h ← header
      return .inl (current :: closed, ⟨some h, []⟩)
    | some _ => do
      let p ← pair (value maxNesting)
      trailing
      return .inl (closed, { current with pairs := current.pairs ++ [p] })) ([], ⟨none, []⟩)

end Reader

/-- The sections of a TOML text, which may begin with a byte order mark. -/
def readSections (text : String) : Option (List Section) := do
  let cs := match text.toList with
    | c :: rest => if c = '\ufeff' then rest else c :: rest
    | [] => []
  let (sections, _) ← Reader.sections cs
  return sections

def readDocument (text : String) : Option Entries := do assemble (← readSections text)

end GoalSearch.Toml
