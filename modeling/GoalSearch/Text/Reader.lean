import GoalSearch.Text.Part

/-!
# Readers

A reader takes what it reads from the front of a text, or fails. After a failure another reader may
begin where the one that failed did.
-/

namespace GoalSearch.Text

/-! ## Digits

Naturals and characters that are written in digits. A letter is a digit in either case.
-/

def isHexDigit (c : Char) : Bool :=
  c.isDigit || ('a' ≤ c && c ≤ 'f') || ('A' ≤ c && c ≤ 'F')

def digitValue (c : Char) : Nat :=
  if c.isDigit then c.toNat - '0'.toNat
  else if 'a' ≤ c then c.toNat - 'a'.toNat + 10
  else c.toNat - 'A'.toNat + 10

/-- The natural that digits write in a base. -/
def numberIn (base : Nat) (ds : List Char) : Nat :=
  ds.foldl (fun n c => base * n + digitValue c) 0

/-- The character with a code point in hexadecimal digits, if there is one. -/
def ofCodePoint? (ds : List Char) : Option Char :=
  let n := numberIn 16 ds
  if n.isValidChar then some (Char.ofNat n) else none

/-! ## Reading -/

/-- Takes a value from the front of a text, if it can. -/
abbrev Reader := StateT (List Char) Option

namespace Reader

/-! ### Characters -/

/-- The next character, which stays. -/
def peek : Reader (Option Char) := fun cs => some (cs.head?, cs)

def next : Reader Char := fun cs =>
  match cs with
  | [] => none
  | c :: rest => some (c, rest)

/-- The next character, if it belongs to a class. -/
def charIn (p : Char → Bool) : Reader Char := fun cs =>
  match cs with
  | [] => none
  | c :: rest => if p c then some (c, rest) else none

def char (c : Char) : Reader Unit := fun cs =>
  match cs with
  | [] => none
  | d :: rest => if d = c then some ((), rest) else none

def word (w : List Char) : Reader Unit := w.forM char

/-- Whether a certain character comes next, which is taken if it does. -/
def taken (c : Char) : Reader Bool := fun cs =>
  match cs with
  | [] => some (false, cs)
  | d :: rest => if d = c then some (true, rest) else some (false, cs)

/-- The longest run of characters of a class. -/
def run (p : Char → Bool) : Reader (List Char) := fun cs =>
  some (cs.takeWhile p, cs.dropWhile p)

/-! ### Readers from readers -/

/-- What a reader reads, with the part of the text that it takes. -/
def located {α : Type} (r : Reader α) : Reader (α × Part) := fun cs =>
  match r cs with
  | some (a, rest) => some ((a, ⟨cs, rest⟩), rest)
  | none => none

/-- Repeats a step until it gives a result, at most as many times as said. -/
def rounds {σ α : Type} (step : σ → Reader (σ ⊕ α)) : Nat → σ → Reader α
  | 0, _ => failure
  | n + 1, state => do
    match ← step state with
    | .inl state => rounds step n state
    | .inr result => return result

/-- Repeats a step until it gives a result. A step that goes on takes a character, so the length of
the text bounds the number of steps. -/
def loop {σ α : Type} (step : σ → Reader (σ ⊕ α)) (start : σ) : Reader α := fun cs =>
  rounds step (cs.length + 1) start cs

/-- What a reader reads of a text, if it takes all of it. -/
def whole {α : Type} (r : Reader α) (cs : List Char) : Option α :=
  match r cs with
  | some (a, []) => some a
  | _ => none

end Reader

end GoalSearch.Text
