import GoalSearch.Proofs.Command.Lines
import Mathlib.Data.List.TakeWhile

/-!
# One program in several forms

A program can be given in files that are run in order, in one file that holds their texts one after the
other, or as the input of the console. In each case the same forms are evaluated in the same order,
beginning with an engine without rules; files stop before the first form that is refused, and the
console does not (`run_sources`).
-/

namespace GoalSearch.Command

/-! ## Sources -/

/-- A program file with its text and its forms. -/
structure Source (read : FileReader) where
  path : String
  text : String
  forms : List Expr
  text_eq : read.text path = .ok text
  forms_eq : Expr.readAll text = .ok forms

namespace Source

variable {read : FileReader}

/-- The texts of files one after the other, each of them on a new line. -/
def joined (sources : List (Source read)) : String := "\n".intercalate (sources.map text)

theorem joined_singleton (s : Source read) : joined [s] = s.text := by
  rw [joined, List.map_singleton, String.intercalate_singleton]

theorem joined_cons (s : Source read) {later : List (Source read)} (h : later ≠ []) :
    joined (s :: later) = s.text ++ "\n" ++ joined later := by
  rw [joined, List.map_cons, String.intercalate_cons_of_ne_nil (by simpa using h), joined]

def allForms (sources : List (Source read)) : List Expr := sources.flatMap forms

theorem allForms_cons (s : Source read) (later : List (Source read)) :
    allForms (s :: later) = s.forms ++ allForms later :=
  List.flatMap_cons

/-- **The joined text of files holds the forms of all of them.** -/
theorem readAll_joined (sources : List (Source read)) :
    Expr.readAll (joined sources) = .ok (allForms sources) := by
  induction sources with
  | nil =>
    rw [Expr.readAll, ← Scan.run_start]
    rfl
  | cons s later ih =>
    by_cases hlater : later = []
    · rw [hlater, joined_singleton, s.forms_eq, allForms, List.flatMap_singleton]
    · have htoList : (joined (s :: later)).toList = s.text.toList ++ '\n' :: (joined later).toList := by
        simp [joined_cons s hlater]
      have hs : Expr.readChars s.text.toList = .ok s.forms := s.forms_eq
      have hrest : Expr.readChars (joined later).toList = .ok (allForms later) := ih
      rw [Expr.readAll, htoList, Scan.readChars_append_of_ok hs, hrest]
      rfl

theorem rubout_not_mem_joined {sources : List (Source read)}
    (h : ∀ s ∈ sources, Text.rubout ∉ s.text.toList) : Text.rubout ∉ (joined sources).toList := by
  induction sources with
  | nil => exact List.not_mem_nil
  | cons s later ih =>
    obtain ⟨hs, hlater⟩ := List.forall_mem_cons.mp h
    by_cases hnil : later = []
    · rw [hnil, joined_singleton]
      exact hs
    · rw [joined_cons s hnil, String.toList_append, String.toList_append]
      simp only [List.mem_append, not_or]
      exact ⟨⟨hs, by decide⟩, ih hlater⟩

end Source

/-! ## Files -/

variable {read : FileReader} {log : Option String} {arguments : List String} {config : Option String}
  {settings : Settings}

theorem runFile_source (s : Source read) (w : Worker) :
    runFile read w s.path = runForms s.path w s.forms := by
  rw [runFile, s.text_eq]
  simp only [s.forms_eq]

theorem takeWhile_append_of_all_false {α : Type} {p : α → Bool} {front : List α}
    (h : front.all p = false) (back : List α) : (front ++ back).takeWhile p = front.takeWhile p := by
  induction front with
  | nil => cases h
  | cons a front ih =>
    rw [List.all_cons] at h
    cases ha : p a with
    | false => simp [ha]
    | true =>
      rw [ha, Bool.true_and] at h
      simp [ha, ih h]

/-- **Files write the output of the evaluations before the first that is refused.** They end with the
worker that their forms leave, if none is refused. -/
theorem runFiles_sources (w : Worker) (sources : List (Source read)) :
    (runFiles read w (sources.map Source.path)).1.textOn .output =
        output ((w.evaluations (Source.allForms sources)).takeWhile Evaluation.accepted) ∧
      (runFiles read w (sources.map Source.path)).2.toOption =
        if (w.evaluations (Source.allForms sources)).all Evaluation.accepted then
          some (w.after (Source.allForms sources))
        else none := by
  induction sources generalizing w with
  | nil => exact ⟨rfl, rfl⟩
  | cons s later ih =>
    have houtput := output_runForms s.path w s.forms
    have hending := ending_runForms s.path w s.forms
    rw [List.map_cons, runFiles, runFile_source, Source.allForms_cons, Worker.evaluations_append,
      Worker.after_append, List.all_append]
    rcases hrun : runForms s.path w s.forms with ⟨written, failure | w'⟩ <;>
      rw [hrun] at houtput hending
    · -- a form of this file is refused, and no later file is read
      have hrefused : (w.evaluations s.forms).all Evaluation.accepted = false := by
        by_contra hall
        rw [Bool.not_eq_false] at hall
        rw [if_pos hall] at hending
        cases hending
      rw [takeWhile_append_of_all_false hrefused, hrefused]
      exact ⟨houtput, rfl⟩
    · have hall : (w.evaluations s.forms).all Evaluation.accepted = true := by
        by_contra hrefused
        rw [if_neg hrefused] at hending
        cases hending
      rw [if_pos hall] at hending
      obtain rfl : w' = w.after s.forms := Option.some.inj hending
      have haccepted := List.all_eq_true.mp hall
      obtain ⟨houtput', hending'⟩ := ih (w.after s.forms)
      rw [List.takeWhile_eq_self_iff.mpr haccepted] at houtput
      rw [hall, Bool.true_and, List.takeWhile_append_of_pos haccepted, output_append, ← houtput,
        ← houtput', ← Transcript.textOn_append]
      exact ⟨rfl, hending'⟩

/-! ## Runs -/

theorem textOn_giveUp (failure : Failure) : (giveUp failure).1.textOn .output = "" := rfl

theorem output_run_files {paths : List String} (hsettings : loadSettings read config = .ok settings)
    (hpaths : paths ≠ [])
    (harguments : Request.ofArguments arguments = .run ⟨paths, config, false⟩) (input : List UInt8) :
    (run read log arguments input).1.textOn .output =
      (runFiles read ⟨Engine.new settings, .parse log⟩ paths).1.textOn .output := by
  rw [run, start, harguments]
  simp only [runInvocation, hsettings]
  rcases runFiles read ⟨Engine.new settings, .parse log⟩ paths with ⟨written, failure | w⟩
  · show (written ++ (giveUp failure).1).textOn .output = _
    rw [Transcript.textOn_append, textOn_giveUp, String.append_empty]
  · simp [hpaths]

theorem start_console (hsettings : loadSettings read config = .ok settings)
    (harguments : Request.ofArguments arguments = .run ⟨[], config, false⟩) :
    start read log arguments =
      ((Console.start ⟨Engine.new settings, .parse log⟩).await,
        .console (Console.start ⟨Engine.new settings, .parse log⟩)) := by
  rw [start, harguments]
  simp [runInvocation, hsettings, runFiles]

theorem output_run_console (hsettings : loadSettings read config = .ok settings)
    (harguments : Request.ofArguments arguments = .run ⟨[], config, false⟩) (input : List UInt8) :
    (run read log arguments input).1.textOn .output =
      ((Console.start ⟨Engine.new settings, .parse log⟩).run (Console.lines input)).1.textOn
        .output := by
  rw [run, start_console hsettings harguments]
  simp only []
  rcases (Console.start ⟨Engine.new settings, .parse log⟩).run (Console.lines input) with
    ⟨written, failure | c⟩
  · show (_ ++ written ++ (giveUp failure).1).textOn .output = _
    rw [Transcript.textOn_append, textOn_giveUp, String.append_empty, Transcript.textOn_append,
      Console.textOn_await, String.empty_append]
  · rw [Transcript.textOn_append, Console.textOn_await, String.empty_append]

theorem exists_output_eq_append (evaluations : List Evaluation) (p : Evaluation → Bool) :
    ∃ rest, output evaluations = output (evaluations.takeWhile p) ++ rest := by
  refine ⟨output (evaluations.dropWhile p), ?_⟩
  rw [← output_append, List.takeWhile_append_dropWhile]

/-- **A program is the same in files, in one file and on the console.** Its forms are evaluated in order,
beginning with a new engine. Files stop at the first form that is refused, and the console goes on; so
the outputs are the same if no form is refused, and otherwise the output of the console begins with that
of the files. -/
theorem run_sources {sources : List (Source read)} (hsources : sources ≠ [])
    (hrubout : ∀ s ∈ sources, Text.rubout ∉ s.text.toList)
    (hsettings : loadSettings read config = .ok settings)
    {path : String} (hpath : read.text path = .ok (Source.joined sources))
    {input : List UInt8} (hinput : textOfBytes input = .ok (Source.joined sources))
    {several single console : List String}
    (hseveral : Request.ofArguments several = .run ⟨sources.map Source.path, config, false⟩)
    (hsingle : Request.ofArguments single = .run ⟨[path], config, false⟩)
    (hconsole : Request.ofArguments console = .run ⟨[], config, false⟩)
    (log : Option String) (unread : List UInt8) :
    let w : Worker := ⟨Engine.new settings, .parse log⟩
    let forms := Source.allForms sources
    let evaluations := w.evaluations forms
    let ending := if evaluations.all Evaluation.accepted then some (w.after forms) else none
    let outputOf (arguments : List String) (input : List UInt8) :=
      (run read log arguments input).1.textOn .output
    evaluations.map Evaluation.form = forms ∧
    ((runFiles read w (sources.map Source.path)).2.toOption = ending ∧
      (runFiles read w [path]).2.toOption = ending ∧
      ((Console.start w).run (Console.lines input)).2 = .ok ⟨w.after forms, ""⟩) ∧
    (outputOf several unread = output (evaluations.takeWhile Evaluation.accepted) ∧
      outputOf single unread = output (evaluations.takeWhile Evaluation.accepted) ∧
      outputOf console input = output evaluations) ∧
    (outputOf several unread = outputOf single unread ∧
      ((∀ e ∈ evaluations, e.accepted = true) →
        outputOf several unread = outputOf console input) ∧
      ∃ rest, outputOf console input = outputOf several unread ++ rest) := by
  intro w forms evaluations ending outputOf
  -- the single file is one more source, and it has the forms of all the others
  let file : Source read := ⟨path, _, _, hpath, Source.readAll_joined sources⟩
  have hforms : Source.allForms [file] = forms := List.flatMap_singleton _ _
  obtain ⟨hfiles, hfilesEnd⟩ := runFiles_sources w sources
  obtain ⟨hfile, hfileEnd⟩ := runFiles_sources w [file]
  rw [hforms] at hfile hfileEnd
  obtain ⟨hall, hallEnd⟩ := Console.run_of_readAll w (Source.readAll_joined sources)
    (Source.rubout_not_mem_joined hrubout)
  rw [← Text.textOfBytes_eq_ok_iff.mp hinput] at hall hallEnd
  have hseveral' : outputOf several unread = output (evaluations.takeWhile Evaluation.accepted) :=
    (output_run_files hsettings (by simpa using hsources) hseveral unread).trans hfiles
  have hsingle' : outputOf single unread = output (evaluations.takeWhile Evaluation.accepted) :=
    (output_run_files hsettings (List.cons_ne_nil _ _) hsingle unread).trans hfile
  have hconsole' : outputOf console input = output evaluations :=
    (output_run_console hsettings hconsole input).trans hall
  refine ⟨w.map_form_evaluations forms, ⟨hfilesEnd, hfileEnd, hallEnd⟩,
    ⟨hseveral', hsingle', hconsole'⟩, hseveral'.trans hsingle'.symm, fun haccepted => ?_, ?_⟩
  · rw [hseveral', hconsole', List.takeWhile_eq_self_iff.mpr haccepted]
  · rw [hseveral', hconsole']
    exact exists_output_eq_append evaluations _

/-- The first file has a carriage return and ends in a comment, and a form of the second is refused. -/
theorem run_sources_refused :
    let rules := "(define p (X)\r\n  (:=: X ann)) ; one"
    let queries := "(query (and (p Y)\n  (print Y)))\n(bad)\n(query (p ben))"
    let program := "\n".intercalate [rules, queries]
    let read : FileReader := fun path =>
      if path = "rules" then .ok (Text.encode rules.toList)
      else if path = "queries" then .ok (Text.encode queries.toList)
      else .ok (Text.encode program.toList)
    let outputOf (arguments : List String) (input : List UInt8) :=
      (run read none arguments input).1.textOn .output
    outputOf ["rules", "queries"] [] = "ann\nok\n" ∧ outputOf ["program"] [] = "ann\nok\n" ∧
      outputOf [] (Text.encode program.toList) = "ann\nok\nnot ok\n" := by
  let rulesForms : List Expr := [.list [.atom "define", .atom "p", .list [.atom "X"],
    .list [.atom ":=:", .atom "X", .atom "ann"]]]
  let queriesForms : List Expr := [.list [.atom "query", .list [.atom "and",
    .list [.atom "p", .atom "Y"], .list [.atom "print", .atom "Y"]]], .list [.atom "bad"],
    .list [.atom "query", .list [.atom "p", .atom "ben"]]]
  have hrules : Expr.readAll "(define p (X)\r\n  (:=: X ann)) ; one" = .ok rulesForms := by
    rw [Expr.readAll, ← Scan.run_start]
    rfl
  have hqueries : Expr.readAll "(query (and (p Y)\n  (print Y)))\n(bad)\n(query (p ben))" =
      .ok queriesForms := by
    rw [Expr.readAll, ← Scan.run_start]
    rfl
  intro rules queries program read outputOf
  have hreadRules : read "rules" = .ok (Text.encode rules.toList) := if_pos rfl
  have hreadQueries : read "queries" = .ok (Text.encode queries.toList) := by simp [read]
  have hreadProgram : read "program" = .ok (Text.encode program.toList) := by simp [read]
  let sources : List (Source read) :=
    [⟨"rules", rules, _, Text.text_of_read hreadRules, hrules⟩,
      ⟨"queries", queries, _, Text.text_of_read hreadQueries, hqueries⟩]
  have hrubout : ∀ s ∈ sources, Text.rubout ∉ s.text.toList := by
    simp only [sources, List.forall_mem_cons, List.not_mem_nil, false_imp_iff, implies_true, and_true]
    exact ⟨by decide, by decide⟩
  let evaluations := Worker.evaluations ⟨Engine.new .standard, .parse none⟩
    (rulesForms ++ queriesForms)
  have hfiles : output (evaluations.takeWhile Evaluation.accepted) = "ann\nok\n" := by
    decide +kernel
  have hconsole : output evaluations = "ann\nok\nnot ok\n" := by
    decide +kernel
  have hpath : read.text "program" = .ok (Source.joined sources) := Text.text_of_read hreadProgram
  have hinput : textOfBytes (Text.encode program.toList) = .ok (Source.joined sources) :=
    Text.textOfBytes_eq_ok_iff.mpr rfl
  have hsettings : loadSettings read none = .ok Settings.standard := rfl
  have hseveral : Request.ofArguments ["rules", "queries"] =
      .run ⟨sources.map Source.path, none, false⟩ := rfl
  have hsingle : Request.ofArguments ["program"] = .run ⟨["program"], none, false⟩ := rfl
  have hnone : Request.ofArguments [] = .run ⟨[], none, false⟩ := rfl
  obtain ⟨-, -, ⟨hseveral', hsingle', hconsole'⟩, -⟩ := run_sources (List.cons_ne_nil _ _) hrubout
    hsettings hpath hinput hseveral hsingle hnone none []
  exact ⟨hseveral'.trans hfiles, hsingle'.trans hfiles, hconsole'.trans hconsole⟩

end GoalSearch.Command
