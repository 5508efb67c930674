import GoalSearch.Proofs.Command.Lines
import GoalSearch.Proofs.Reader.Unclosed

/-!
# Lists that stay open

A console keeps a text that is reported as a list which never closes, and goes on with it. A text that is
cut off in a list is completed by further lines, and then evaluated. But white space that is no blank is
reported in the same way, and then the console takes in all further lines without ever reading a form
again (`completable_iff_not_hasStray`).
-/

namespace GoalSearch

open Command Command.Console

namespace Expr

variable {text : String} {offset : Nat}

/-- A text that is cut off can be completed by lines. -/
theorem CutOff.exists_lines (h : CutOff text offset) :
    ∃ typed forms, readAll (text ++ source typed) = .ok forms := by
  obtain ⟨-, n, forms, hforms⟩ := h
  refine ⟨["", String.ofList (List.replicate n ')')], forms, ?_⟩
  have htoList : (text ++ source ["", String.ofList (List.replicate n ')')]).toList =
      (text ++ "\n" ++ String.ofList (List.replicate n ')')).toList ++ ['\n'] := by
    simp [source]
  rw [readAll, htoList, Scan.readChars_append_lineFeed]
  exact hforms

end Expr

namespace Command.Console

open GoalSearch.Expr

variable {text : String} {offset : Nat}

/-- A console whose text no line completes waits for ever. -/
theorem feedAll_of_unclosed (h : ∀ later, readAll (text ++ later) = .error (.unclosed offset))
    (w : Worker) (typed : List String) :
    (⟨w, text⟩ : Console).feedAll typed = ([], ⟨w, text ++ source typed⟩) := by
  induction typed generalizing text with
  | nil => simp [feedAll, source]
  | cons line later ih =>
    have hline : readAll (text ++ line ++ "\n") = .error (.unclosed offset) := by
      rw [String.append_assoc]
      exact h _
    have hlater : ∀ more, readAll (text ++ line ++ "\n" ++ more) = .error (.unclosed offset) := by
      intro more
      rw [String.append_assoc, String.append_assoc]
      exact h _
    rw [feedAll, feed_of_unclosed (c := ⟨w, text⟩) hline, ih hlater, append_source_cons,
      List.nil_append]

/-- **White space that is no blank is taken for a list that never closes.** If there is none, a list
begins at the reported offset, closing parentheses complete the text, and a console that holds the text
evaluates its forms once it is given the right lines. If there is some, no line completes the text, and
a console that holds it only waits for more. -/
theorem completable_iff_not_hasStray (h : readAll text = .error (.unclosed offset)) (w : Worker) :
    (CutOff text offset ↔ ¬HasStray text) ∧
    (¬HasStray text → ∃ typed forms, readAll (text ++ source typed) = .ok forms ∧
      (⟨w, text⟩ : Console).feedAll typed =
        ((w.evalEach forms).1, ⟨(w.evalEach forms).2, ""⟩)) ∧
    (HasStray text → ∀ typed,
      (⟨w, text⟩ : Console).feedAll typed = ([], ⟨w, text ++ source typed⟩)) := by
  refine ⟨cutOff_iff h, fun hstray => ?_, fun hstray => ?_⟩
  · obtain ⟨typed, forms, hforms⟩ := (cutOff_of_not_hasStray h hstray).exists_lines
    exact ⟨typed, forms, hforms, feedAll_of_readAll (c := ⟨w, text⟩) (.inr ⟨offset, h⟩) hforms⟩
  · exact feedAll_of_unclosed (readAll_append_of_hasStray h hstray) w

/-- The second list of a text is cut off in a list inside of it. -/
theorem completable_iff_not_hasStray_query :
    readAll "(query X)\n(query (and" = .error (.unclosed 10) ∧
      CutOff "(query X)\n(query (and" 10 := by
  have h : readAll "(query X)\n(query (and" = .error (.unclosed 10) := by
    rw [readAll, ← Scan.run_start]
    rfl
  have hstray : ¬HasStray "(query X)\n(query (and" := by
    unfold HasStray
    decide
  obtain ⟨hcutOff, -, -⟩ :=
    completable_iff_not_hasStray h ⟨Engine.new Settings.standard, .parse none⟩
  exact ⟨h, hcutOff.mpr hstray⟩

/-- A no-break space alone is reported as a list, and there is none. -/
theorem noBreakSpace_not_cutOff :
    readAll "\u00a0" = .error (.unclosed 0) ∧ ¬CutOff "\u00a0" 0 := by
  have h : readAll "\u00a0" = .error (.unclosed 0) := by
    rw [readAll, ← Scan.run_start]
    rfl
  refine ⟨h, ?_⟩
  rintro ⟨⟨front, back, htext, -⟩, -⟩
  have hmem : '(' ∈ "\u00a0".toList := by
    rw [htext]
    simp
  revert hmem
  decide

end Command.Console

end GoalSearch
