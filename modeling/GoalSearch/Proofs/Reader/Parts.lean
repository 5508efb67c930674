import GoalSearch.Proofs.Reader.Scan
import Mathlib.Data.List.Induction

/-!
# Reading a text in parts

A scan that has come to the end of one part of a text goes on over the next part from the state that
it has reached (`run_append_of_ok`). Outside of all lists it reads the next part as a text of its own
(`run_outside`), so that a text can be cut behind a line in which no list is open:

    readChars (cs ++ '\n' :: later) = ((readChars later).map (es ++ ·)).mapError (·.moved n)

where `es` are the expressions of the first part, and `n` is the number of bytes before the cut
(`readChars_append_of_ok`). What is read does not depend on where in a text it stands (`run_congr`), nor
on how the lines end (`exists_reach_lineEnd`).
-/

namespace GoalSearch

/-- The error of a text that stands behind a number of bytes. -/
def ReadError.moved (bytes : Nat) : ReadError → ReadError
  | .unexpectedClose offset => .unexpectedClose (bytes + offset)
  | .unclosed offset => .unclosed (bytes + offset)
  | .expectedOne found => .expectedOne found

namespace Scan

open GoalSearch.Expr

/-- The state behind characters, or the first error among them. -/
def reach (s : Scan) (cs : List Char) : Except ReadError Scan := cs.foldlM step s

variable {s t u : Scan} {c : Char} {front back cs : List Char} {e : ReadError}

/-! ## What a character does -/

@[simp] theorem offset_endAtom (s : Scan) : s.endAtom.offset = s.offset := by
  obtain ⟨p, mode, opened, items⟩ := s
  cases mode <;> rfl

@[simp] theorem opened_endAtom (s : Scan) : s.endAtom.opened = s.opened := by
  obtain ⟨p, mode, opened, items⟩ := s
  cases mode <;> rfl

theorem mode_endAtom (h : s.mode ≠ .comment) : s.endAtom.mode = .between := by
  obtain ⟨p, mode, opened, items⟩ := s
  cases mode with
  | between => rfl
  | comment => exact absurd rfl h
  | atom letters => rfl

/-- White space that is no blank belongs to no atom and ends no list. -/
def isStray (c : Char) : Bool := Text.isWhiteSpace c && !isBlank c

/-- What reading a character can come to. -/
inductive StepCase (s : Scan) (c : Char) : Except ReadError Scan → Prop where
  | inComment (hmode : s.mode = .comment) :
      StepCase s c (.ok { s with
        offset := s.offset + c.utf8Size, mode := if c = '\n' then .between else .comment })
  | firstLetter (hmode : s.mode = .between) (hc : isAtomChar c = true) :
      StepCase s c (.ok { s with offset := s.offset + c.utf8Size, mode := .atom [c] })
  | laterLetter {letters : List Char} (hmode : s.mode = .atom letters) (hc : isAtomChar c = true) :
      StepCase s c (.ok { s with offset := s.offset + c.utf8Size, mode := .atom (c :: letters) })
  | blank (hmode : s.mode ≠ .comment) (hc : isBlank c = true) :
      StepCase s c (.ok ⟨s.offset + c.utf8Size, .between, s.opened, s.endAtom.items⟩)
  | semicolon (hmode : s.mode ≠ .comment) (hc : c = ';') :
      StepCase s c (.ok ⟨s.offset + c.utf8Size, .comment, s.opened, s.endAtom.items⟩)
  | opens (hmode : s.mode ≠ .comment) (hc : c = '(') :
      StepCase s c
        (.ok ⟨s.offset + c.utf8Size, .between, ⟨s.offset, s.endAtom.items⟩ :: s.opened, []⟩)
  | closes (hmode : s.mode ≠ .comment) (hc : c = ')') {l : OpenList} {enclosing : List OpenList}
      (hopened : s.opened = l :: enclosing) :
      StepCase s c (.ok ⟨s.offset + c.utf8Size, .between, enclosing,
        .list s.endAtom.items.reverse :: l.before⟩)
  | unexpectedClose (hmode : s.mode ≠ .comment) (hc : c = ')') (hopened : s.opened = []) :
      StepCase s c (.error (.unexpectedClose s.offset))
  | stray (hmode : s.mode ≠ .comment) (hc : isStray c = true) :
      StepCase s c (.error (.unclosed (outermost s.offset s.opened)))

theorem delimiter_case (hmode : s.mode ≠ .comment) (hc : isAtomChar c = false) :
    StepCase s c (s.endAtom.delimiter c) := by
  unfold delimiter
  simp only [offset_endAtom, opened_endAtom, mode_endAtom hmode]
  split
  · next hb => exact .blank hmode hb
  · next hb =>
    split
    · next h => exact .semicolon hmode h
    · next hsemicolon =>
      split
      · next h => exact .opens hmode h
      · next hopen =>
        split
        · next h =>
          split
          · next hnil => exact .unexpectedClose hmode h hnil
          · next l enclosing hcons => exact .closes hmode h hcons
        · next hclose =>
          refine .stray hmode ?_
          simp_all [isAtomChar, isStray]

theorem step_case (s : Scan) (c : Char) : StepCase s c (s.step c) := by
  unfold step
  simp only []
  split
  · next hmode => exact .inComment hmode
  · next hmode hc => exact .firstLetter hmode hc
  · next letters hmode hc => exact .laterLetter hmode hc
  · next hc hmode => exact delimiter_case hmode hc

theorem offset_of_step (h : s.step c = .ok t) : t.offset = s.offset + c.utf8Size := by
  have hcase := s.step_case c
  rw [h] at hcase
  cases hcase <;> rfl

/-! ## One part after the other -/

theorem reach_cons_of_ok (h : s.step c = .ok t) : s.reach (c :: cs) = t.reach cs := by
  rw [reach, List.foldlM_cons, h]
  rfl

theorem reach_cons_of_error (h : s.step c = .error e) : s.reach (c :: cs) = .error e := by
  rw [reach, List.foldlM_cons, h]
  rfl

theorem reach_append_of_ok (h : s.reach front = .ok t) :
    s.reach (front ++ back) = t.reach back := by
  rw [reach] at h
  rw [reach, List.foldlM_append, h]
  rfl

theorem reach_append_of_error (h : s.reach front = .error e) :
    s.reach (front ++ back) = .error e := by
  rw [reach] at h
  rw [reach, List.foldlM_append, h]
  rfl

/-- A state is reached by way of the state behind the first character. -/
theorem exists_step_of_reach (h : s.reach (c :: cs) = .ok u) :
    ∃ t, s.step c = .ok t ∧ t.reach cs = .ok u := by
  cases hstep : s.step c with
  | ok t => exact ⟨t, rfl, (reach_cons_of_ok hstep).symm.trans h⟩
  | error e =>
    rw [reach_cons_of_error hstep] at h
    cases h

/-- A state is reached by way of the state behind the first part. -/
theorem exists_reach_of_append (h : s.reach (front ++ back) = .ok u) :
    ∃ t, s.reach front = .ok t ∧ t.reach back = .ok u := by
  cases hfront : s.reach front with
  | ok t => exact ⟨t, rfl, (reach_append_of_ok hfront).symm.trans h⟩
  | error e =>
    rw [reach_append_of_error hfront] at h
    cases h

/-- A run begins by reaching a state, and goes on from there. -/
theorem run_append_of_ok (h : s.reach front = .ok t) : s.run (front ++ back) = t.run back := by
  induction front generalizing s with
  | nil =>
    rw [Except.ok.inj h]
    rfl
  | cons c rest ih =>
    obtain ⟨u, hstep, hrest⟩ := exists_step_of_reach h
    rw [List.cons_append, run_of_step_ok hstep, ih hrest]

/-- An error is not undone by what follows. -/
theorem run_append_of_error (h : s.reach front = .error e) : s.run (front ++ back) = .error e := by
  induction front generalizing s with
  | nil => cases h
  | cons c rest ih =>
    cases hstep : s.step c with
    | ok u =>
      rw [reach_cons_of_ok hstep] at h
      rw [List.cons_append, run_of_step_ok hstep, ih h]
    | error e' =>
      rw [reach_cons_of_error hstep] at h
      rw [List.cons_append, run_of_step_error hstep, Except.error.inj h]

theorem run_of_reach_ok (h : s.reach cs = .ok t) : s.run cs = t.finish := by
  have hrun : s.run (cs ++ []) = t.run [] := run_append_of_ok h
  rw [List.append_nil] at hrun
  exact hrun

theorem run_of_reach_error (h : s.reach cs = .error e) : s.run cs = .error e := by
  have hrun : s.run (cs ++ []) = .error e := run_append_of_error h
  rw [List.append_nil] at hrun
  exact hrun

/-- What holds at the start and is kept by each character holds of every state that is reached. -/
theorem reach_invariant {motive : List Char → Scan → Prop} (hstart : motive [] s)
    (hstep : ∀ {cs t c u}, s.reach cs = .ok t → motive cs t → t.step c = .ok u →
      motive (cs ++ [c]) u)
    (h : s.reach cs = .ok t) : motive cs t := by
  induction cs using List.reverseRec generalizing t with
  | nil =>
    rw [← Except.ok.inj h]
    exact hstart
  | append_singleton front c ih =>
    obtain ⟨u, hfront, hlast⟩ := exists_reach_of_append h
    obtain ⟨v, hc, hv⟩ := exists_step_of_reach hlast
    rw [← Except.ok.inj hv]
    exact hstep hfront (ih hfront) hc

/-! ## Parts outside of all lists -/

/-- What the reader leaves behind blanks is not longer than the text. -/
theorem byteLength_skipBlanks_readMany_le (cs : List Char) :
    Text.byteLength (skipBlanks (readMany cs).rest) ≤ Text.byteLength cs := by
  obtain ⟨q, hq, -⟩ := run_readMany cs [] [] 0
  obtain ⟨q', hq', -⟩ := run_skipBlanks [] [] (readMany cs).rest q
  omega

/-- A part outside of all lists is read as a text of its own. -/
theorem run_outside (p : Nat) (items : List Expr) (cs : List Char) :
    run ⟨p, .between, [], items⟩ cs =
      ((readChars cs).map (items.reverse ++ ·)).mapError (·.moved p) := by
  obtain ⟨q, hq, hmany⟩ := run_readMany cs [] items p
  have hnone := readOne_readMany_rest cs
  have hle := byteLength_skipBlanks_readMany_le cs
  obtain ⟨q', hq', hblanks⟩ := run_skipBlanks [] ((readMany cs).values.reverse ++ items)
    (readMany cs).rest q
  unfold readChars
  rw [hmany]
  cases hs : skipBlanks (readMany cs).rest with
  | nil =>
    rw [hblanks, hs]
    simp [hs, run, finish, endAtom, Except.map, Except.mapError]
  | cons c rest =>
    -- the run has got to the same character, so `q'` is its offset in a text that begins at `p`
    rw [hs] at hq' hle
    have hoffset : q' = p + (Text.byteLength cs - Text.byteLength (c :: rest)) := by omega
    simp only [hs]
    split
    · next hc =>
      rw [hblanks, hs, hoffset, hc]
      rfl
    · next hc =>
      obtain ⟨q'', hq'', herror⟩ := run_of_readOne_none _ hnone []
        ((readMany cs).values.reverse ++ items) q (by simp [hs]) (by simp [hs, hc])
      rw [hs] at hq''
      have heq : q'' = q' := by omega
      rw [herror, heq, hoffset]
      rfl

theorem moved_zero (e : ReadError) : e.moved 0 = e := by
  cases e <;> simp [ReadError.moved]

theorem run_start (cs : List Char) : start.run cs = readChars cs := by
  rw [start, run_outside]
  cases readChars cs with
  | ok es => rfl
  | error e =>
    show Except.error (e.moved 0) = _
    rw [moved_zero]

/-- The offset of a state is the number of bytes read. -/
theorem offset_of_reach (h : start.reach cs = .ok t) : t.offset = Text.byteLength cs := by
  refine reach_invariant (motive := fun cs t => t.offset = Text.byteLength cs) rfl ?_ h
  intro cs t c u _ ht hc
  rw [offset_of_step hc, ht, Text.byteLength_append]
  rfl

/-! ## Lines -/

def breakLine (s : Scan) : Scan := ⟨s.offset + '\n'.utf8Size, .between, s.opened, s.endAtom.items⟩

theorem step_lineFeed (s : Scan) : s.step '\n' = .ok s.breakLine := by
  obtain ⟨p, mode, opened, items⟩ := s
  cases mode <;> rfl

theorem finish_breakLine (s : Scan) : s.breakLine.finish = s.finish := by
  obtain ⟨p, mode, opened, items⟩ := s
  cases opened <;> rfl

/-- A line feed at the end changes nothing. -/
theorem run_append_lineFeed (s : Scan) (cs : List Char) : s.run (cs ++ ['\n']) = s.run cs := by
  cases h : s.reach cs with
  | error e => rw [run_append_of_error h, run_of_reach_error h]
  | ok t =>
    rw [run_append_of_ok h, run_of_reach_ok h, run_of_step_ok t.step_lineFeed]
    exact t.finish_breakLine

theorem readChars_append_lineFeed (cs : List Char) : readChars (cs ++ ['\n']) = readChars cs := by
  rw [← run_start, run_append_lineFeed, run_start]

/-- A text that is read has no open list at its end. -/
theorem exists_reach_of_readChars {es : List Expr} (h : readChars cs = .ok es) :
    ∃ t, start.reach cs = .ok t ∧ t.opened = [] ∧ t.endAtom.items.reverse = es := by
  rw [← run_start] at h
  cases hreach : start.reach cs with
  | error e =>
    rw [run_of_reach_error hreach] at h
    cases h
  | ok t =>
    rw [run_of_reach_ok hreach, finish] at h
    split at h
    · next hopened => exact ⟨t, rfl, hopened, Except.ok.inj h⟩
    · cases h

/-- **A text can be cut behind a line in which no list is open.** -/
theorem readChars_append_of_ok {es : List Expr} (h : readChars cs = .ok es) (later : List Char) :
    readChars (cs ++ '\n' :: later) =
      ((readChars later).map (es ++ ·)).mapError (·.moved (Text.byteLength cs + '\n'.utf8Size)) := by
  obtain ⟨t, hreach, hopened, hitems⟩ := exists_reach_of_readChars h
  have hline : t.breakLine =
      ⟨Text.byteLength cs + '\n'.utf8Size, .between, [], t.endAtom.items⟩ := by
    rw [breakLine, offset_of_reach hreach, hopened]
  rw [← run_start, run_append_of_ok hreach, run_of_step_ok t.step_lineFeed, hline, run_outside, hitems]

/-- What is wrong at a character is wrong whatever follows. -/
theorem readChars_append_of_unexpectedClose {p : Nat}
    (h : readChars cs = .error (.unexpectedClose p)) (later : List Char) :
    readChars (cs ++ later) = .error (.unexpectedClose p) := by
  rw [← run_start] at h ⊢
  cases hreach : start.reach cs with
  | error e =>
    rw [run_of_reach_error hreach] at h
    rw [run_append_of_error hreach, h]
  | ok t =>
    rw [run_of_reach_ok hreach, finish] at h
    split at h <;> cases h

/-! ## Offsets -/

def erase (s : Scan) : Scan :=
  { s with offset := 0, opened := s.opened.map fun l => { l with offset := 0 } }

theorem erase_endAtom (s : Scan) : s.endAtom.erase = s.erase.endAtom := by
  obtain ⟨p, mode, opened, items⟩ := s
  cases mode <;> rfl

theorem map_erase_delimiter (s : Scan) (c : Char) :
    (s.erase.delimiter c).toOption.map erase = (s.delimiter c).toOption.map erase := by
  obtain ⟨p, mode, opened, items⟩ := s
  unfold delimiter
  split
  · simp [erase, Except.toOption]
  · split
    · simp [erase, Except.toOption]
    · split
      · simp [erase, Except.toOption]
      · split
        · cases opened <;> simp [erase, Except.toOption]
        · rfl

theorem map_erase_step (s : Scan) (c : Char) :
    (s.erase.step c).toOption.map erase = (s.step c).toOption.map erase := by
  have hend := s.endAtom.map_erase_delimiter c
  rw [erase_endAtom] at hend
  obtain ⟨p, mode, opened, items⟩ := s
  unfold step
  cases mode with
  | comment => simp [erase, Except.toOption]
  | between =>
    cases isAtomChar c with
    | true => simp [erase, Except.toOption]
    | false => exact hend
  | atom letters =>
    cases isAtomChar c with
    | true => simp [erase, Except.toOption]
    | false => exact hend

/-- **Offsets play no part in what is read.** -/
theorem run_erase (s : Scan) (cs : List Char) : (s.erase.run cs).toOption = (s.run cs).toOption := by
  induction cs generalizing s with
  | nil =>
    obtain ⟨p, mode, opened, items⟩ := s
    cases opened <;> cases mode <;> rfl
  | cons c rest ih =>
    have hstep := s.map_erase_step c
    cases hs : s.step c with
    | error e =>
      cases he : s.erase.step c with
      | error e' => rw [run_of_step_error hs, run_of_step_error he]; rfl
      | ok u => simp [hs, he, Except.toOption] at hstep
    | ok t =>
      cases he : s.erase.step c with
      | error e' => simp [hs, he, Except.toOption] at hstep
      | ok u =>
        rw [hs, he] at hstep
        have heq : u.erase = t.erase := Option.some.inj hstep
        rw [run_of_step_ok hs, run_of_step_ok he, ← ih t, ← ih u, heq]

theorem run_congr (h : s.erase = t.erase) (cs : List Char) :
    (s.run cs).toOption = (t.run cs).toOption := by
  rw [← run_erase s, h, run_erase]

/-- A carriage return before a line feed makes no difference. -/
theorem exists_reach_lineEnd (s : Scan) :
    ∃ t, s.reach ['\r', '\n'] = .ok t ∧ t.erase = s.breakLine.erase := by
  obtain ⟨p, mode, opened, items⟩ := s
  cases mode with
  | between => exact ⟨_, rfl, rfl⟩
  | comment => exact ⟨_, rfl, rfl⟩
  | atom letters => exact ⟨_, rfl, rfl⟩

end Scan

end GoalSearch
