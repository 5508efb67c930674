import GoalSearch.Expr.Reader

/-!
# Reading in one pass

`Expr.readAll` tries lists and gives them up. Here a text is scanned once from left to right with a
stack of the lists that are open, and the first of three things decides what is wrong with it: a
`)` without an open list, white space that is no blank, or the end of the text inside a list. The two
ways of reading agree on every text:

    Expr.readAll text = Scan.readText text                                  (readAll_eq_readText)

A state of the scan between two expressions is given by the offset in bytes, the open lists and the
items before. The lemmas say how the scan goes on from such a state over what the reader reads, and
that it ends with an error where the reader is stuck.
-/

namespace GoalSearch

/-- A list whose end has not been reached. -/
structure OpenList where
  /-- Where its parenthesis stands, in bytes. -/
  offset : Nat
  /-- What was read before the list in the same place, latest first. -/
  before : List Expr

/-- What the character before belongs to. -/
inductive ScanMode where
  /-- No atom and no comment. -/
  | between
  | comment
  /-- An atom with these letters, latest first. -/
  | atom (letters : List Char)

structure Scan where
  /-- The number of bytes read. -/
  offset : Nat
  mode : ScanMode
  /-- The open lists, innermost first. -/
  opened : List OpenList
  /-- What was read in the innermost open list, or outside of all lists, latest first. -/
  items : List Expr

namespace Scan

open GoalSearch.Expr

def start : Scan := ⟨0, .between, [], []⟩

/-- The offset of the outermost open list, or another one if there is none. -/
def outermost (offset : Nat) : List OpenList → Nat
  | [] => offset
  | l :: enclosing => outermost l.offset enclosing

/-- An atom that ends here becomes an item. -/
def endAtom (s : Scan) : Scan :=
  match s.mode with
  | .atom letters =>
    { s with mode := .between, items := .atom (String.ofList letters.reverse) :: s.items }
  | _ => s

/-- A character that belongs to no atom and no comment. -/
def delimiter (s : Scan) (c : Char) : Except ReadError Scan :=
  let offset := s.offset + c.utf8Size
  if isBlank c then .ok { s with offset }
  else if c = ';' then .ok { s with offset, mode := .comment }
  else if c = '(' then
    .ok { s with offset, opened := ⟨s.offset, s.items⟩ :: s.opened, items := [] }
  else if c = ')' then
    match s.opened with
    | [] => .error (.unexpectedClose s.offset)
    | l :: enclosing =>
      .ok { s with offset, opened := enclosing, items := .list s.items.reverse :: l.before }
  else .error (.unclosed (outermost s.offset s.opened))

def step (s : Scan) (c : Char) : Except ReadError Scan :=
  let offset := s.offset + c.utf8Size
  match s.mode, isAtomChar c with
  | .comment, _ => .ok { s with offset, mode := if c = '\n' then .between else .comment }
  | .between, true => .ok { s with offset, mode := .atom [c] }
  | .atom letters, true => .ok { s with offset, mode := .atom (c :: letters) }
  | _, false => s.endAtom.delimiter c

def finish (s : Scan) : Except ReadError (List Expr) :=
  match s.opened with
  | [] => .ok s.endAtom.items.reverse
  | l :: enclosing => .error (.unclosed (outermost l.offset enclosing))

/-- Reads the characters that are left, up to the first error. -/
def run (s : Scan) : List Char → Except ReadError (List Expr)
  | [] => s.finish
  | c :: rest =>
    match s.step c with
    | .ok t => t.run rest
    | .error e => .error e

/-- The expressions of a text, read in one pass. -/
def readText (text : String) : Except ReadError (List Expr) := start.run text.toList

/-! ## Single characters -/

variable {opened : List OpenList} {items : List Expr}

theorem run_of_step_ok {s t : Scan} {c : Char} {rest : List Char} (h : s.step c = .ok t) :
    s.run (c :: rest) = t.run rest := by
  rw [run, h]

theorem run_of_step_error {s : Scan} {c : Char} {rest : List Char} {e : ReadError}
    (h : s.step c = .error e) : s.run (c :: rest) = .error e := by
  rw [run, h]

/-- Between expressions, a character that is no letter of an atom is a delimiter. -/
theorem step_between {p : Nat} {c : Char} (h : isAtomChar c = false) :
    step ⟨p, .between, opened, items⟩ c = delimiter ⟨p, .between, opened, items⟩ c := by
  simp only [step, h, endAtom]

theorem isAtomChar_of_isBlank {c : Char} (h : isBlank c = true) : isAtomChar c = false := by
  simp only [isBlank, Bool.or_eq_true, decide_eq_true_eq] at h
  rcases h with ((rfl | rfl) | rfl) | rfl <;> rfl

theorem run_blank {p : Nat} {c : Char} {rest : List Char} (h : isBlank c = true) :
    run ⟨p, .between, opened, items⟩ (c :: rest) =
      run ⟨p + c.utf8Size, .between, opened, items⟩ rest := by
  refine run_of_step_ok ?_
  rw [step_between (isAtomChar_of_isBlank h), delimiter, if_pos h]

theorem run_semicolon {p : Nat} {rest : List Char} :
    run ⟨p, .between, opened, items⟩ (';' :: rest) =
      run ⟨p + ';'.utf8Size, .comment, opened, items⟩ rest := rfl

theorem run_open {p : Nat} {rest : List Char} :
    run ⟨p, .between, opened, items⟩ ('(' :: rest) =
      run ⟨p + '('.utf8Size, .between, ⟨p, items⟩ :: opened, []⟩ rest := rfl

theorem run_close {p q : Nat} {before : List Expr} {rest : List Char} :
    run ⟨p, .between, ⟨q, before⟩ :: opened, items⟩ (')' :: rest) =
      run ⟨p + ')'.utf8Size, .between, opened, .list items.reverse :: before⟩ rest := rfl

theorem run_letter {p : Nat} {c : Char} {rest : List Char} (h : isAtomChar c = true) :
    run ⟨p, .between, opened, items⟩ (c :: rest) =
      run ⟨p + c.utf8Size, .atom [c], opened, items⟩ rest := by
  refine run_of_step_ok ?_
  simp only [step, h]

theorem run_comment {p : Nat} {c : Char} {rest : List Char} :
    run ⟨p, .comment, opened, items⟩ (c :: rest) =
      run ⟨p + c.utf8Size, if c = '\n' then .between else .comment, opened, items⟩ rest := by
  refine run_of_step_ok ?_
  simp only [step]

/-! ## Blanks and atoms -/

variable (opened items)

mutual

/-- The scan passes over blanks and comments. -/
theorem run_skipBlanks : ∀ (cs : List Char) (p : Nat),
    ∃ q, p + Text.byteLength cs = q + Text.byteLength (skipBlanks cs) ∧
      run ⟨p, .between, opened, items⟩ cs = run ⟨q, .between, opened, items⟩ (skipBlanks cs)
  | [], p => ⟨p, rfl, rfl⟩
  | c :: rest, p => by
    rw [skipBlanks]
    split
    · next hblank =>
      obtain ⟨q, hq, hrun⟩ := run_skipBlanks rest (p + c.utf8Size)
      refine ⟨q, ?_, ?_⟩
      · rw [Text.byteLength]
        omega
      · rw [run_blank hblank, hrun]
    · split
      · next hsemicolon =>
        subst hsemicolon
        obtain ⟨q, hq, hrun⟩ := run_skipComment rest (p + ';'.utf8Size)
        refine ⟨q, ?_, ?_⟩
        · rw [Text.byteLength]
          omega
        · rw [run_semicolon, hrun]
      · exact ⟨p, rfl, rfl⟩

theorem run_skipComment : ∀ (cs : List Char) (p : Nat),
    ∃ q, p + Text.byteLength cs = q + Text.byteLength (skipComment cs) ∧
      run ⟨p, .comment, opened, items⟩ cs = run ⟨q, .between, opened, items⟩ (skipComment cs)
  | [], p => ⟨p, rfl, rfl⟩
  | c :: rest, p => by
    rw [skipComment, run_comment]
    split
    · obtain ⟨q, hq, hrun⟩ := run_skipBlanks rest (p + c.utf8Size)
      refine ⟨q, ?_, hrun⟩
      rw [Text.byteLength]
      omega
    · obtain ⟨q, hq, hrun⟩ := run_skipComment rest (p + c.utf8Size)
      refine ⟨q, ?_, hrun⟩
      rw [Text.byteLength]
      omega

end

/-- The scan reads an atom to the end of its letters. Whatever comes then, the atom is an item. -/
theorem run_letters (cs letters : List Char) (p : Nat) :
    ∃ q, p + Text.byteLength cs = q + Text.byteLength (cs.dropWhile isAtomChar) ∧
      run ⟨p, .atom letters, opened, items⟩ cs =
        run ⟨q, .between, opened,
          .atom (String.ofList (letters.reverse ++ cs.takeWhile isAtomChar)) :: items⟩
          (cs.dropWhile isAtomChar) := by
  induction cs generalizing letters p with
  | nil =>
    refine ⟨p, rfl, ?_⟩
    rw [List.takeWhile_nil, List.append_nil]
    rfl
  | cons c rest ih =>
    cases hc : isAtomChar c with
    | true =>
      obtain ⟨q, hq, hrun⟩ := ih (c :: letters) (p + c.utf8Size)
      rw [List.takeWhile_cons_of_pos hc, List.dropWhile_cons_of_pos hc]
      refine ⟨q, ?_, ?_⟩
      · rw [Text.byteLength]
        omega
      · rw [List.reverse_cons, List.append_assoc, List.singleton_append] at hrun
        rw [← hrun]
        refine run_of_step_ok ?_
        simp only [step, hc]
    | false =>
      rw [List.takeWhile_cons_of_neg (by simp [hc]), List.dropWhile_cons_of_neg (by simp [hc]),
        List.append_nil]
      refine ⟨p, rfl, ?_⟩
      simp only [run, step, hc, endAtom]

/-! ## Expressions -/

mutual

/-- The scan goes on over an expression that the reader reads. -/
theorem run_readOne (cs : List Char) {r : Reading Expr cs} (h : readOne cs = some r)
    (opened : List OpenList) (items : List Expr) (p : Nat) :
    ∃ q, p + Text.byteLength cs = q + Text.byteLength r.rest ∧
      run ⟨p, .between, opened, items⟩ cs =
        run ⟨q, .between, opened, r.value :: items⟩ r.rest := by
  obtain ⟨p', hp', hblanks⟩ := run_skipBlanks opened items cs p
  rcases readOne_some_cases h with ⟨body, hs, hclose, hvalue⟩ | ⟨c, rest, hs, hc, hvalue, hrest⟩
  · have hbody := length_lt_of_skipBlanks hs
    rw [hs] at hp' hblanks
    obtain ⟨q, hq, hmany⟩ := run_readMany body (⟨p', items⟩ :: opened) [] (p' + '('.utf8Size)
    obtain ⟨q', hq', hblanks'⟩ := run_skipBlanks (⟨p', items⟩ :: opened)
      ((readMany body).values.reverse ++ []) (readMany body).rest q
    rw [hclose] at hq' hblanks'
    refine ⟨q' + ')'.utf8Size, ?_, ?_⟩
    · rw [Text.byteLength] at hp' hq'
      omega
    · rw [hblanks, run_open, hmany, hblanks', run_close, hvalue, List.append_nil,
        List.reverse_reverse]
  · rw [hs] at hp' hblanks
    obtain ⟨q, hq, hletters⟩ := run_letters opened items rest [c] (p' + c.utf8Size)
    refine ⟨q, ?_, ?_⟩
    · rw [Text.byteLength] at hp'
      rw [hrest]
      omega
    · rw [hblanks, run_letter hc, hletters, hvalue, hrest]
      rfl
termination_by 2 * cs.length
decreasing_by omega

/-- Where the reader is stuck and no list ends, the scan has an error. -/
theorem run_of_readOne_none (cs : List Char) (h : readOne cs = none)
    (opened : List OpenList) (items : List Expr) (p : Nat)
    (hend : skipBlanks cs ≠ []) (hclose : ∀ after, skipBlanks cs ≠ ')' :: after) :
    ∃ q, p + Text.byteLength cs = q + Text.byteLength (skipBlanks cs) ∧
      run ⟨p, .between, opened, items⟩ cs = .error (.unclosed (outermost q opened)) := by
  obtain ⟨p', hp', hblanks⟩ := run_skipBlanks opened items cs p
  refine ⟨p', hp', ?_⟩
  rw [hblanks]
  rcases readOne_none_cases h with hs | ⟨body, hs, hopen⟩ | ⟨c, rest, hs, hc, hatom⟩
  · exact absurd hs hend
  · have hbody := length_lt_of_skipBlanks hs
    rw [hs]
    obtain ⟨q, hq, hmany⟩ := run_readMany body (⟨p', items⟩ :: opened) [] (p' + '('.utf8Size)
    have hnone := readOne_readMany_rest body
    have hlonger := (readMany body).notLonger
    rw [run_open, hmany]
    by_cases hs' : skipBlanks (readMany body).rest = []
    · obtain ⟨q', -, hblanks'⟩ := run_skipBlanks (⟨p', items⟩ :: opened)
        ((readMany body).values.reverse ++ []) (readMany body).rest q
      rw [hblanks', hs']
      rfl
    · obtain ⟨q', -, herror⟩ := run_of_readOne_none (readMany body).rest hnone
        (⟨p', items⟩ :: opened) ((readMany body).values.reverse ++ []) q hs' hopen
      rw [herror]
      rfl
  · rw [hs]
    obtain ⟨hblank, hsemicolon⟩ := skipBlanks_head hs
    have hc' : c ≠ ')' := by
      rintro rfl
      exact hclose rest hs
    refine run_of_step_error ?_
    rw [step_between hatom, delimiter, if_neg (by simp [hblank]), if_neg hsemicolon, if_neg hc,
      if_neg hc']
termination_by 2 * cs.length
decreasing_by all_goals omega

/-- The scan goes on over all expressions that the reader reads. -/
theorem run_readMany (cs : List Char) (opened : List OpenList) (items : List Expr) (p : Nat) :
    ∃ q, p + Text.byteLength cs = q + Text.byteLength (readMany cs).rest ∧
      run ⟨p, .between, opened, items⟩ cs =
        run ⟨q, .between, opened, (readMany cs).values.reverse ++ items⟩ (readMany cs).rest := by
  cases h : readOne cs with
  | none =>
    obtain ⟨hvalues, hrest⟩ := readMany_of_none h
    rw [hvalues, hrest]
    exact ⟨p, rfl, rfl⟩
  | some first =>
    have hshorter := first.shorter
    obtain ⟨hvalues, hrest⟩ := readMany_of_some h
    obtain ⟨q, hq, hone⟩ := run_readOne cs h opened items p
    obtain ⟨q', hq', hmany⟩ := run_readMany first.rest opened (first.value :: items) q
    rw [hvalues, hrest, hone, hmany, List.reverse_cons, List.append_assoc, List.singleton_append]
    exact ⟨q', by omega, rfl⟩
termination_by 2 * cs.length + 1

end

/-! ## Texts -/

/-- **One pass is enough.** Reading expressions by trying lists and giving them up comes to the same
as scanning the text once with a stack of the open lists, in the expressions as in the errors and
their offsets. -/
theorem readAll_eq_readText (text : String) : readAll text = readText text := by
  obtain ⟨p, hp, hmany⟩ := run_readMany text.toList [] [] 0
  have hnone := readOne_readMany_rest text.toList
  obtain ⟨q, hq, hblanks⟩ := run_skipBlanks []
    ((readMany text.toList).values.reverse ++ []) (readMany text.toList).rest p
  unfold readAll readChars readText start
  rw [hmany]
  cases hs : skipBlanks (readMany text.toList).rest with
  | nil =>
    simp only [hs]
    rw [hblanks, hs]
    simp [run, finish, endAtom]
  | cons c rest =>
    rw [hs] at hq
    have hoffset : Text.byteLength text.toList - Text.byteLength (c :: rest) = q := by omega
    simp only [hs, hoffset]
    split
    · next hc =>
      rw [hblanks, hs, hc]
      rfl
    · next hc =>
      obtain ⟨q', hq', herror⟩ := run_of_readOne_none _ hnone []
        ((readMany text.toList).values.reverse ++ []) p (by simp [hs]) (by simp [hs, hc])
      rw [hs] at hq'
      have heq : q' = q := by omega
      rw [herror, heq]
      rfl

end Scan

end GoalSearch
