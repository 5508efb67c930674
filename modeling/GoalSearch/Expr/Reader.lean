import GoalSearch.Expr
import GoalSearch.Text.Part
import GoalSearch.Text.Character

/-!
# Reading expressions

`Expr.readAll` reads a text as a sequence of expressions. Between expressions stand blanks and
comments; an atom is a longest run of characters that are no white space, no parenthesis and no
`;`. A list that never closes is given up as a whole, and reading stops where it starts: what is
left then tells which error it is.

Every reading step hands on the part of the text that it leaves, with the proof that this part is
shorter, and so reading ends.
-/

namespace GoalSearch

inductive ReadError where
  | unexpectedClose (offset : Nat)
  | unclosed (offset : Nat)
  /-- Another number of expressions than one. -/
  | expectedOne (found : Nat)
deriving DecidableEq, Repr

def ReadError.message : ReadError → String
  | .unexpectedClose offset => s!"unexpected `)` at byte {offset}"
  | .unclosed offset => s!"unclosed `(` starting at byte {offset}"
  | .expectedOne found => s!"expected exactly one expression, found {found}"

namespace Expr

/-! ## Blanks and comments -/

/-- The characters that may stand between expressions. -/
def isBlank (c : Char) : Bool := c = ' ' || c = '\t' || c = '\r' || c = '\n'

def isAtomChar (c : Char) : Bool := !Text.isWhiteSpace c && c ≠ '(' && c ≠ ')' && c ≠ ';'

mutual

/-- What follows the leading blanks and comments. -/
def skipBlanks : List Char → List Char
  | [] => []
  | c :: rest =>
    if isBlank c then skipBlanks rest
    else if c = ';' then skipComment rest
    else c :: rest

/-- What follows a comment, up to its line's end, and the blanks after it. -/
def skipComment : List Char → List Char
  | [] => []
  | c :: rest => if c = '\n' then skipBlanks rest else skipComment rest

end

mutual

theorem length_skipBlanks_le : ∀ cs : List Char, (skipBlanks cs).length ≤ cs.length
  | [] => by simp [skipBlanks]
  | c :: rest => by
    have hb := length_skipBlanks_le rest
    have hc := length_skipComment_le rest
    rw [skipBlanks]
    split
    · simp; omega
    · split
      · simp; omega
      · simp

theorem length_skipComment_le : ∀ cs : List Char, (skipComment cs).length ≤ cs.length
  | [] => by simp [skipComment]
  | c :: rest => by
    have hb := length_skipBlanks_le rest
    have hc := length_skipComment_le rest
    rw [skipComment]
    split <;> simp <;> omega

end

theorem length_lt_of_skipBlanks {cs rest : List Char} {c : Char}
    (h : skipBlanks cs = c :: rest) : rest.length < cs.length := by
  have := length_skipBlanks_le cs
  rw [h] at this
  exact this

/-! ## Expressions -/

/-- A value read from a text, and the shorter text that is left. -/
structure Reading (α : Type) (text : List Char) where
  value : α
  /-- What is left. -/
  rest : List Char
  /-- Reading took at least one character. -/
  shorter : rest.length < text.length

/-- The expressions read from a text, perhaps none, and the text that is left. -/
structure Readings (text : List Char) where
  values : List Expr
  rest : List Char
  /-- Nothing was added to the text. -/
  notLonger : rest.length ≤ text.length

def readMark (cs : List Char) : Option (Reading Char cs) :=
  match h : skipBlanks cs with
  | [] => none
  | c :: rest => some ⟨c, rest, length_lt_of_skipBlanks h⟩

mutual

/-- The first expression after blanks: an atom, which is a longest run of atom characters, or a
list that closes. -/
def readOne (cs : List Char) : Option (Reading Expr cs) :=
  match readMark cs with
  | none => none
  | some mark =>
    if mark.value = '(' then
      let items := readMany mark.rest
      match readMark items.rest with
      | none => none
      | some close =>
        if close.value = ')' then
          some ⟨.list items.values, close.rest, by
            have := mark.shorter
            have := items.notLonger
            have := close.shorter
            omega⟩
        else none
    else if isAtomChar mark.value then
      some ⟨.atom (String.ofList (mark.value :: mark.rest.takeWhile isAtomChar)),
        mark.rest.dropWhile isAtomChar, by
          have := mark.shorter
          have := (List.dropWhile_suffix isAtomChar (l := mark.rest)).length_le
          omega⟩
    else none
termination_by 2 * cs.length
decreasing_by
  have := mark.shorter
  omega

/-- As many expressions as can be read one after the other. -/
def readMany (cs : List Char) : Readings cs :=
  match readOne cs with
  | none => ⟨[], cs, Nat.le_refl _⟩
  | some first =>
    let later := readMany first.rest
    ⟨first.value :: later.values, later.rest, by
      have := first.shorter
      have := later.notLonger
      omega⟩
termination_by 2 * cs.length + 1
decreasing_by
  · omega
  · have := first.shorter
    omega

end

/-! ## What the readers read -/

theorem skipBlanks_eq_nil_iff (cs : List Char) : skipBlanks cs = [] ↔ readMark cs = none := by
  unfold readMark
  split
  · next h => simp [h]
  · next c rest h => simp [h]

theorem skipBlanks_of_readMark {cs : List Char} {mark : Reading Char cs}
    (h : readMark cs = some mark) : skipBlanks cs = mark.value :: mark.rest := by
  unfold readMark at h
  split at h
  · cases h
  · next hs =>
    rw [← Option.some.inj h]
    exact hs

def Reading.parts {α : Type} {text : List Char} (r : Reading α text) : α × List Char :=
  (r.value, r.rest)

/-- The first expression, without the lengths. -/
theorem map_parts_readOne (cs : List Char) :
    (readOne cs).map Reading.parts =
      match skipBlanks cs with
      | [] => none
      | c :: rest =>
        if c = '(' then
          match skipBlanks (readMany rest).rest with
          | [] => none
          | d :: after => if d = ')' then some (.list (readMany rest).values, after) else none
        else if isAtomChar c then
          some (.atom (String.ofList (c :: rest.takeWhile isAtomChar)), rest.dropWhile isAtomChar)
        else none := by
  rw [readOne]
  cases hmark : readMark cs with
  | none =>
    rw [(skipBlanks_eq_nil_iff cs).mpr hmark]
    rfl
  | some mark =>
    rw [skipBlanks_of_readMark hmark]
    simp only []
    split
    · cases hclose : readMark (readMany mark.rest).rest with
      | none =>
        rw [(skipBlanks_eq_nil_iff _).mpr hclose]
        rfl
      | some close =>
        rw [skipBlanks_of_readMark hclose]
        simp only []
        split <;> rfl
    · split <;> rfl

mutual

/-- Behind blanks and comments stands neither a blank nor a comment. -/
theorem skipBlanks_head : ∀ {cs : List Char} {c : Char} {rest : List Char},
    skipBlanks cs = c :: rest → isBlank c = false ∧ c ≠ ';'
  | [], c, rest, h => by simp [skipBlanks] at h
  | d :: ds, c, rest, h => by
    rw [skipBlanks] at h
    split at h
    · exact skipBlanks_head h
    · next hblank =>
      split at h
      · exact skipComment_head h
      · next hsemicolon =>
        obtain ⟨rfl, -⟩ := List.cons.inj h
        exact ⟨by simpa using hblank, hsemicolon⟩

theorem skipComment_head : ∀ {cs : List Char} {c : Char} {rest : List Char},
    skipComment cs = c :: rest → isBlank c = false ∧ c ≠ ';'
  | [], c, rest, h => by simp [skipComment] at h
  | d :: ds, c, rest, h => by
    rw [skipComment] at h
    split at h
    · exact skipBlanks_head h
    · exact skipComment_head h

end

theorem readMany_of_none {cs : List Char} (h : readOne cs = none) :
    (readMany cs).values = [] ∧ (readMany cs).rest = cs := by
  rw [readMany, h]
  exact ⟨rfl, rfl⟩

theorem readMany_of_some {cs : List Char} {first : Reading Expr cs} (h : readOne cs = some first) :
    (readMany cs).values = first.value :: (readMany first.rest).values ∧
      (readMany cs).rest = (readMany first.rest).rest := by
  rw [readMany, h]
  exact ⟨rfl, rfl⟩

/-- Behind as many expressions as can be read there is none. -/
theorem readOne_readMany_rest (cs : List Char) : readOne (readMany cs).rest = none := by
  cases h : readOne cs with
  | none =>
    rw [(readMany_of_none h).2]
    exact h
  | some first =>
    have := first.shorter
    rw [(readMany_of_some h).2]
    exact readOne_readMany_rest first.rest
termination_by cs.length

/-- An expression that was read is a list that closes or an atom. -/
theorem readOne_some_cases {cs : List Char} {r : Reading Expr cs} (h : readOne cs = some r) :
    (∃ body, skipBlanks cs = '(' :: body ∧ skipBlanks (readMany body).rest = ')' :: r.rest ∧
      r.value = .list (readMany body).values) ∨
    (∃ c rest, skipBlanks cs = c :: rest ∧ isAtomChar c = true ∧
      r.value = .atom (String.ofList (c :: rest.takeWhile isAtomChar)) ∧
      r.rest = rest.dropWhile isAtomChar) := by
  have hparts := map_parts_readOne cs
  rw [h, Option.map_some] at hparts
  cases hs : skipBlanks cs with
  | nil => simp [hs] at hparts
  | cons c rest =>
    simp only [hs] at hparts
    split at hparts
    · next hc =>
      left
      cases hclose : skipBlanks (readMany rest).rest with
      | nil => simp [hclose] at hparts
      | cons d after =>
        simp only [hclose] at hparts
        split at hparts
        · next hd =>
          obtain ⟨hvalue, hrest⟩ := Prod.mk.inj (Option.some.inj hparts)
          exact ⟨rest, by rw [hc], by rw [hclose, hd, hrest], hvalue⟩
        · cases hparts
    · right
      split at hparts
      · next hatom =>
        obtain ⟨hvalue, hrest⟩ := Prod.mk.inj (Option.some.inj hparts)
        exact ⟨c, rest, rfl, hatom, hvalue, hrest⟩
      · cases hparts

/-- Where no expression can be read, the text ends, or a list begins that does not close, or there
is a character that begins nothing. -/
theorem readOne_none_cases {cs : List Char} (h : readOne cs = none) :
    skipBlanks cs = [] ∨
    (∃ body, skipBlanks cs = '(' :: body ∧
      ∀ after, skipBlanks (readMany body).rest ≠ ')' :: after) ∨
    (∃ c rest, skipBlanks cs = c :: rest ∧ c ≠ '(' ∧ isAtomChar c = false) := by
  have hparts := map_parts_readOne cs
  rw [h, Option.map_none] at hparts
  cases hs : skipBlanks cs with
  | nil => exact .inl rfl
  | cons c rest =>
    right
    simp only [hs] at hparts
    split at hparts
    · next hc =>
      refine .inl ⟨rest, by rw [hc], ?_⟩
      intro after hclose
      simp [hclose] at hparts
    · next hc =>
      split at hparts
      · cases hparts
      · next hatom => exact .inr ⟨c, rest, rfl, hc, by simpa using hatom⟩

/-! ## Texts -/

/-- The expressions of a sequence of characters, or what is wrong at the first character that
belongs to no expression. -/
def readChars (cs : List Char) : Except ReadError (List Expr) :=
  let read := readMany cs
  let rest := skipBlanks read.rest
  let offset := Text.byteLength cs - Text.byteLength rest
  match rest with
  | [] => .ok read.values
  | c :: _ => if c = ')' then .error (.unexpectedClose offset) else .error (.unclosed offset)

def readAll (text : String) : Except ReadError (List Expr) := readChars text.toList

/-- The expression of a text that holds exactly one. -/
def readSingle (text : String) : Except ReadError Expr :=
  match readAll text with
  | .error e => .error e
  | .ok [e] => .ok e
  | .ok es => .error (.expectedOne es.length)

end Expr

end GoalSearch
