import GoalSearch.Proofs.Reader.Parts

/-!
# Texts that are cut off

A text with a list that never closes is cut off: the offset of the error is that of a parenthesis,
and as many closing parentheses as there are open lists make the text readable. The same error is
given for white space that is no blank (`HasStray`), and then nothing that follows makes the text
readable:

    readAll text = .error (.unclosed offset) → (CutOff text offset ↔ ¬HasStray text)   (cutOff_iff)
-/

namespace GoalSearch

namespace Scan

open GoalSearch.Expr

variable {s t : Scan} {c : Char} {cs rest : List Char} {p : Nat}

/-! ## Stray white space -/

def inComment (s : Scan) : Bool :=
  match s.mode with
  | .comment => true
  | _ => false

/-- Whether characters hold white space that is no blank outside of comments, given whether they begin
inside of one. -/
def hasStrayFrom (commented : Bool) : List Char → Bool
  | [] => false
  | c :: rest =>
    if commented then hasStrayFrom (c ≠ '\n') rest
    else isStray c || hasStrayFrom (c = ';') rest

theorem inComment_of_mode (h : s.mode ≠ .comment) : s.inComment = false := by
  unfold inComment
  split
  · next hmode => exact absurd hmode h
  · rfl

theorem hasStrayFrom_of_outside (h : s.mode ≠ .comment) :
    hasStrayFrom s.inComment (c :: rest) = (isStray c || hasStrayFrom (c = ';') rest) := by
  rw [inComment_of_mode h, hasStrayFrom, if_neg Bool.false_ne_true]

/-- A character that is neither white space to be reported nor a `;` leaves the question open. -/
theorem hasStrayFrom_of_plain (h : s.mode ≠ .comment) (hstray : isStray c = false) (hc : c ≠ ';')
    (ht : t.mode ≠ .comment) :
    hasStrayFrom s.inComment (c :: rest) = hasStrayFrom t.inComment rest := by
  rw [hasStrayFrom_of_outside h, hstray, Bool.false_or, decide_eq_false hc, inComment_of_mode ht]

theorem plain_of_isAtomChar (h : isAtomChar c = true) : isStray c = false ∧ c ≠ ';' := by
  simp only [isAtomChar, Bool.and_eq_true, Bool.not_eq_true', decide_eq_true_eq] at h
  exact ⟨by simp [isStray, h], h.2⟩

theorem plain_of_isBlank (h : isBlank c = true) : isStray c = false ∧ c ≠ ';' := by
  refine ⟨by simp [isStray, h], ?_⟩
  rintro rfl
  cases h

/-- A character that is read leaves the question to the characters after it. -/
theorem hasStrayFrom_of_step (h : s.step c = .ok t) :
    hasStrayFrom s.inComment (c :: rest) = hasStrayFrom t.inComment rest := by
  have hcase := s.step_case c
  rw [h] at hcase
  cases hcase with
  | inComment hmode =>
    have hs : s.inComment = true := by rw [inComment, hmode]
    rw [hs, hasStrayFrom, if_pos rfl]
    by_cases hc : c = '\n' <;> simp [inComment, hc]
  | firstLetter hmode hc =>
    obtain ⟨hstray, hsemicolon⟩ := plain_of_isAtomChar hc
    exact hasStrayFrom_of_plain (by simp [hmode]) hstray hsemicolon (by simp)
  | laterLetter hmode hc =>
    obtain ⟨hstray, hsemicolon⟩ := plain_of_isAtomChar hc
    exact hasStrayFrom_of_plain (by simp [hmode]) hstray hsemicolon (by simp)
  | blank hmode hc =>
    obtain ⟨hstray, hsemicolon⟩ := plain_of_isBlank hc
    exact hasStrayFrom_of_plain hmode hstray hsemicolon (by simp)
  | semicolon hmode hc =>
    subst hc
    exact hasStrayFrom_of_outside hmode
  | opens hmode hc =>
    subst hc
    exact hasStrayFrom_of_plain hmode (by decide) (by decide) (by simp)
  | closes hmode hc hopened =>
    subst hc
    exact hasStrayFrom_of_plain hmode (by decide) (by decide) (by simp)

theorem hasStrayFrom_of_step_unclosed (h : s.step c = .error (.unclosed p)) :
    hasStrayFrom s.inComment (c :: rest) = true := by
  have hcase := s.step_case c
  rw [h] at hcase
  cases hcase with
  | stray hmode hc => rw [hasStrayFrom_of_outside hmode, hc, Bool.true_or]

/-- A scan that gets behind characters has met no stray white space. -/
theorem hasStrayFrom_of_reach (h : s.reach cs = .ok t) : hasStrayFrom s.inComment cs = false := by
  induction cs generalizing s with
  | nil => rfl
  | cons c rest ih =>
    obtain ⟨u, hc, hrest⟩ := exists_step_of_reach h
    rw [hasStrayFrom_of_step hc, ih hrest]

/-- Among characters only stray white space is taken for a list that never closes. -/
theorem hasStrayFrom_of_reach_unclosed (h : s.reach cs = .error (.unclosed p)) :
    hasStrayFrom s.inComment cs = true := by
  induction cs generalizing s with
  | nil => cases h
  | cons c rest ih =>
    cases hc : s.step c with
    | error e =>
      rw [reach_cons_of_error hc] at h
      rw [Except.error.inj h] at hc
      exact hasStrayFrom_of_step_unclosed hc
    | ok u =>
      rw [reach_cons_of_ok hc] at h
      rw [hasStrayFrom_of_step hc, ih h]

/-! ## Open lists -/

/-- A list stands in a text at its parenthesis. -/
def StandsIn (cs : List Char) (l : OpenList) : Prop :=
  ∃ front back, cs = front ++ '(' :: back ∧ Text.byteLength front = l.offset

theorem StandsIn.append {l : OpenList} (h : StandsIn cs l) (later : List Char) :
    StandsIn (cs ++ later) l := by
  obtain ⟨front, back, hcs, hoffset⟩ := h
  refine ⟨front, back ++ later, ?_, hoffset⟩
  rw [hcs, List.append_assoc, List.cons_append]

/-- A list that is open behind a character was open before it, or the character opens it. -/
theorem mem_opened_of_step {l : OpenList} (h : s.step c = .ok t) (hl : l ∈ t.opened) :
    l ∈ s.opened ∨ c = '(' ∧ l.offset = s.offset := by
  have hcase := s.step_case c
  rw [h] at hcase
  cases hcase with
  | inComment _ => exact .inl hl
  | firstLetter _ _ => exact .inl hl
  | laterLetter _ _ => exact .inl hl
  | blank _ _ => exact .inl hl
  | semicolon _ _ => exact .inl hl
  | opens _ hc =>
    rcases List.mem_cons.mp hl with rfl | hl
    · exact .inr ⟨hc, rfl⟩
    · exact .inl hl
  | closes _ _ hopened =>
    rw [hopened]
    exact .inl (List.mem_cons_of_mem _ hl)

/-- The open lists of a state stand in the text. -/
theorem standsIn_of_reach (h : start.reach cs = .ok t) : ∀ l ∈ t.opened, StandsIn cs l := by
  refine reach_invariant (motive := fun cs t => ∀ l ∈ t.opened, StandsIn cs l)
    (fun l hl => absurd hl List.not_mem_nil) ?_ h
  intro cs t c u hreach hstands hc l hl
  rcases mem_opened_of_step hc hl with hl | ⟨rfl, hoffset⟩
  · exact (hstands l hl).append [c]
  · exact ⟨cs, [], rfl, by rw [hoffset, offset_of_reach hreach]⟩

/-- The outermost open list is one of the open lists. -/
theorem exists_mem_outermost (l : OpenList) (enclosing : List OpenList) :
    ∃ k ∈ l :: enclosing, outermost l.offset enclosing = k.offset := by
  induction enclosing generalizing l with
  | nil => exact ⟨l, List.mem_cons_self, rfl⟩
  | cons k enclosing ih =>
    obtain ⟨k', hk', heq⟩ := ih k
    exact ⟨k', List.mem_cons_of_mem l hk', heq⟩

/-- Between expressions, as many closing parentheses as there are open lists end the text. -/
theorem exists_run_closing (p : Nat) (opened : List OpenList) (items : List Expr) :
    ∃ es, run ⟨p, .between, opened, items⟩ (List.replicate opened.length ')') = .ok es := by
  induction opened generalizing p items with
  | nil => exact ⟨items.reverse, rfl⟩
  | cons l enclosing ih =>
    rw [List.length_cons, List.replicate_succ, run_close]
    exact ih _ _

end Scan

namespace Expr

/-! ## Texts -/

/-- Whether white space that is no blank stands in a text outside of comments. -/
def HasStray (text : String) : Prop := Scan.hasStrayFrom false text.toList = true

/-- A text is cut off in a list that begins at an offset: there is its parenthesis, and closing
parentheses in another line make the text readable. -/
structure CutOff (text : String) (offset : Nat) : Prop where
  /-- The list begins there. -/
  paren : ∃ front back, text.toList = front ++ '(' :: back ∧ Text.byteLength front = offset
  completable : ∃ n es,
    readAll (text ++ "\n" ++ String.ofList (List.replicate n ')')) = .ok es

variable {text : String} {offset : Nat}

/-- What is readable with more behind it has no stray white space. -/
theorem not_hasStray_of_readAll_append {later : String} {es : List Expr}
    (h : readAll (text ++ later) = .ok es) : ¬HasStray text := by
  intro hstray
  rw [readAll, String.toList_append] at h
  obtain ⟨t, hreach, -, -⟩ := Scan.exists_reach_of_readChars h
  obtain ⟨u, hfront, -⟩ := Scan.exists_reach_of_append hreach
  have hnone : Scan.hasStrayFrom false text.toList = false := Scan.hasStrayFrom_of_reach hfront
  rw [HasStray, hnone] at hstray
  cases hstray

/-- The error of a list that never closes comes from stray white space, or from the end of the text. -/
theorem unclosed_cases (h : readAll text = .error (.unclosed offset)) :
    (HasStray text ∧ Scan.start.reach text.toList = .error (.unclosed offset)) ∨
    (¬HasStray text ∧ ∃ t, Scan.start.reach text.toList = .ok t ∧
      t.finish = .error (.unclosed offset)) := by
  rw [readAll, ← Scan.run_start] at h
  cases hreach : Scan.start.reach text.toList with
  | error e =>
    rw [Scan.run_of_reach_error hreach] at h
    rw [Except.error.inj h] at hreach ⊢
    exact .inl ⟨Scan.hasStrayFrom_of_reach_unclosed hreach, rfl⟩
  | ok t =>
    rw [Scan.run_of_reach_ok hreach] at h
    have hnone : Scan.hasStrayFrom false text.toList = false := Scan.hasStrayFrom_of_reach hreach
    exact .inr ⟨by simp [HasStray, hnone], t, rfl, h⟩

/-- Stray white space is reported whatever follows. -/
theorem readAll_append_of_hasStray (h : readAll text = .error (.unclosed offset))
    (hstray : HasStray text) (later : String) :
    readAll (text ++ later) = .error (.unclosed offset) := by
  obtain ⟨-, hreach⟩ | ⟨hnone, -⟩ := unclosed_cases h
  · rw [readAll, String.toList_append, ← Scan.run_start, Scan.run_append_of_error hreach]
  · exact absurd hstray hnone

theorem cutOff_of_not_hasStray (h : readAll text = .error (.unclosed offset))
    (hstray : ¬HasStray text) : CutOff text offset := by
  obtain ⟨hsome, -⟩ | ⟨-, t, hreach, hfinish⟩ := unclosed_cases h
  · exact absurd hsome hstray
  · rw [Scan.finish] at hfinish
    split at hfinish
    · cases hfinish
    · next l enclosing hopened =>
      obtain ⟨k, hk, hoffset⟩ := Scan.exists_mem_outermost l enclosing
      rw [hoffset] at hfinish
      obtain ⟨es, hes⟩ := Scan.exists_run_closing t.breakLine.offset t.opened t.breakLine.items
      refine ⟨?_, t.opened.length, es, ?_⟩
      -- the error gives the outermost open list, and all open lists stand in the text
      · rw [← ReadError.unclosed.inj (Except.error.inj hfinish)]
        exact Scan.standsIn_of_reach hreach k (hopened ▸ hk)
      · have htoList : (text ++ "\n" ++ String.ofList (List.replicate t.opened.length ')')).toList =
            text.toList ++ '\n' :: List.replicate t.opened.length ')' := by simp
        rw [readAll, htoList, ← Scan.run_start, Scan.run_append_of_ok hreach,
          Scan.run_of_step_ok t.step_lineFeed]
        exact hes

/-- **Stray white space alone is taken for a list that never closes.** Every other text with this error
is cut off where the error says. -/
theorem cutOff_iff (h : readAll text = .error (.unclosed offset)) :
    CutOff text offset ↔ ¬HasStray text := by
  constructor
  · rintro ⟨-, n, es, hes⟩
    rw [String.append_assoc] at hes
    exact not_hasStray_of_readAll_append hes
  · exact cutOff_of_not_hasStray h

end Expr

end GoalSearch
