import GoalSearch.Command.Program

/-!
# Evaluations

A file and the console evaluate forms one after the other, each in the engine that the forms before it
have left. They differ in what they do about a form that is refused: the console complains and goes on,
and a file ends. A refused form writes nothing to the output, so that the console writes the output of
all evaluations (`output_evalEach`), and files write the output of the evaluations before the first
that is refused (`output_runForms`).
-/

namespace GoalSearch

namespace Command

/-! ## Streams -/

namespace Transcript

@[simp] theorem textOn_append (t u : Transcript) (channel : Channel) :
    textOn (t ++ u) channel = textOn t channel ++ textOn u channel := by
  rw [textOn, List.filter_append, List.map_append, String.join_append, textOn, textOn]

@[simp] theorem textOn_errorLine_cons (text : String) (t : Transcript) :
    textOn (errorLine text :: t) .output = textOn t .output := by
  simp [textOn, errorLine]

/-- What goes to the error stream is no output. -/
theorem textOn_of_error {t : Transcript} (h : ∀ piece ∈ t, piece.1 = .error) :
    t.textOn .output = "" := by
  have hnone : t.filter (fun piece => piece.1 = .output) = [] := by
    refine List.filter_eq_nil_iff.mpr fun piece hpiece => ?_
    simp [h piece hpiece]
  rw [textOn, hnone]
  rfl

end Transcript

/-! ## Forms in order -/

structure Evaluation where
  form : Expr
  written : Transcript
  outcome : Except BuildError Outcome

/-- Whether the form was not refused. -/
def Evaluation.accepted (e : Evaluation) : Bool := e.outcome.isOk

def output (evaluations : List Evaluation) : String :=
  Transcript.textOn (evaluations.flatMap Evaluation.written) .output

theorem output_append (front back : List Evaluation) :
    output (front ++ back) = output front ++ output back := by
  rw [output, List.flatMap_append, Transcript.textOn_append, output, output]

theorem output_cons (e : Evaluation) (later : List Evaluation) :
    output (e :: later) = e.written.textOn .output ++ output later := by
  rw [output, List.flatMap_cons, Transcript.textOn_append, output]

namespace Worker

def next (w : Worker) (form : Expr) : Worker := (w.eval form).2.2

/-- The evaluations of forms in order, whether or not they are refused. -/
def evaluations (w : Worker) : List Expr → List Evaluation
  | [] => []
  | form :: later => ⟨form, (w.eval form).1, (w.eval form).2.1⟩ :: evaluations (w.next form) later

def after (w : Worker) (forms : List Expr) : Worker := forms.foldl next w

variable {w : Worker} {form : Expr}

theorem evaluations_append (w : Worker) (front back : List Expr) :
    w.evaluations (front ++ back) = w.evaluations front ++ (w.after front).evaluations back := by
  induction front generalizing w with
  | nil => rfl
  | cons form later ih =>
    rw [List.cons_append, evaluations, ih, evaluations, List.cons_append]
    rfl

theorem after_append (w : Worker) (front back : List Expr) :
    w.after (front ++ back) = (w.after front).after back :=
  List.foldl_append

/-- Every form is evaluated, in order. -/
theorem map_form_evaluations (w : Worker) (forms : List Expr) :
    (w.evaluations forms).map Evaluation.form = forms := by
  induction forms generalizing w with
  | nil => rfl
  | cons form later ih => rw [evaluations, List.map_cons, ih]

/-! ## Refused forms -/

theorem printed_query_of_refused {engine : Engine} {goal : Expr} {e : BuildError}
    (h : (engine.query goal).1.outcome = .error e) : (engine.query goal).1.printed = [] := by
  unfold Engine.query at h ⊢
  simp only [] at h ⊢
  generalize (buildGoal Engine.rulesScope engine.settings.maxRuleDepth Engine.queryScope goal).run
    engine.workspace = built at h ⊢
  cases built with
  | error e' w => rfl
  | ok tree w => cases h

/-- A refused form prints nothing. -/
theorem printed_of_refused {engine : Engine} {e : BuildError}
    (h : (engine.eval form).1.outcome = .error e) : (engine.eval form).1.printed = [] := by
  unfold Engine.eval at h ⊢
  generalize Form.ofExpr form = read at h ⊢
  cases read with
  | error e' => rfl
  | ok f =>
    cases f with
    | define name params body =>
      show (engine.define name params body).1.printed = []
      unfold Engine.define
      cases Rule.make name params body <;> rfl
    | query goal =>
      show (engine.query goal).1.printed = []
      cases hquery : (engine.query goal).1.outcome with
      | error e' => exact printed_query_of_refused hquery
      | ok report =>
        simp only [hquery] at h
        cases h

theorem textOn_logLines (filter : LogFilter) (log : List LogEntry) :
    (logLines filter log).textOn .output = "" := by
  refine Transcript.textOn_of_error fun piece hpiece => ?_
  obtain ⟨entry, -, rfl⟩ := List.mem_map.mp hpiece
  rfl

/-- A refused form writes nothing to the output. -/
theorem textOn_eval_of_refused {e : BuildError} (h : (w.eval form).2.1 = .error e) :
    (w.eval form).1.textOn .output = "" := by
  have hprinted : (w.engine.eval form).1.printed = [] := printed_of_refused h
  have houtcome : (w.engine.eval form).1.outcome = .error e := h
  show (transcript w.filter (w.engine.eval form).1).textOn .output = ""
  rw [transcript, hprinted, houtcome]
  simpa using textOn_logLines w.filter (w.engine.eval form).1.log

/-! ## The console -/

theorem evalEach_cons (w : Worker) (form : Expr) (later : List Expr) :
    w.evalEach (form :: later) =
      ((w.eval form).1 ++ (match (w.eval form).2.1 with
        | .ok _ => []
        | .error e => [Transcript.errorLine e.message]) ++ ((w.next form).evalEach later).1,
        ((w.next form).evalEach later).2) :=
  rfl

theorem evalEach_append (w : Worker) (front back : List Expr) :
    w.evalEach (front ++ back) =
      ((w.evalEach front).1 ++ ((w.evalEach front).2.evalEach back).1,
        ((w.evalEach front).2.evalEach back).2) := by
  induction front generalizing w with
  | nil => rfl
  | cons form later ih =>
    rw [List.cons_append, evalEach_cons, evalEach_cons, ih, ← List.append_assoc]

theorem worker_evalEach (w : Worker) (forms : List Expr) : (w.evalEach forms).2 = w.after forms := by
  induction forms generalizing w with
  | nil => rfl
  | cons form later ih =>
    rw [evalEach_cons, after, List.foldl_cons]
    exact ih (w.next form)

/-- **The console writes the output of all evaluations.** -/
theorem output_evalEach (w : Worker) (forms : List Expr) :
    (w.evalEach forms).1.textOn .output = output (w.evaluations forms) := by
  induction forms generalizing w with
  | nil => rfl
  | cons form later ih =>
    rw [evalEach_cons, evaluations, output_cons, ← ih]
    cases (w.eval form).2.1 with
    | ok outcome => simp
    | error e => simp

end Worker

/-! ## Files -/

open Worker

theorem runForms_cons_of_ok (path : String) {w : Worker} {form : Expr} {outcome : Outcome}
    (h : (w.eval form).2.1 = .ok outcome) (later : List Expr) :
    runForms path w (form :: later) =
      ((w.eval form).1 ++ (runForms path (w.next form) later).1,
        (runForms path (w.next form) later).2) := by
  rcases heval : w.eval form with ⟨written, result, w'⟩
  simp only [heval] at h
  simp only [runForms, next, heval, h]

theorem runForms_cons_of_error (path : String) {w : Worker} {form : Expr} {e : BuildError}
    (h : (w.eval form).2.1 = .error e) (later : List Expr) :
    runForms path w (form :: later) =
      ((w.eval form).1, .error (.of ("in " ++ path ++ ": " ++ form.text) [e.message])) := by
  rcases heval : w.eval form with ⟨written, result, w'⟩
  simp only [heval] at h
  simp only [runForms, heval, h]

/-- **A file writes the output of the evaluations before the first that is refused.** -/
theorem output_runForms (path : String) (w : Worker) (forms : List Expr) :
    (runForms path w forms).1.textOn .output =
      output ((w.evaluations forms).takeWhile Evaluation.accepted) := by
  induction forms generalizing w with
  | nil => rfl
  | cons form later ih =>
    rw [evaluations]
    cases h : (w.eval form).2.1 with
    | ok outcome =>
      rw [runForms_cons_of_ok path h, List.takeWhile_cons_of_pos rfl, output_cons, ← ih,
        Transcript.textOn_append]
    | error e =>
      rw [runForms_cons_of_error path h, List.takeWhile_cons_of_neg Bool.false_ne_true]
      exact textOn_eval_of_refused h

/-- A file ends with the worker that its forms leave, if none is refused. -/
theorem ending_runForms (path : String) (w : Worker) (forms : List Expr) :
    (runForms path w forms).2.toOption =
      if (w.evaluations forms).all Evaluation.accepted then some (w.after forms) else none := by
  induction forms generalizing w with
  | nil => rfl
  | cons form later ih =>
    rw [evaluations, List.all_cons]
    cases h : (w.eval form).2.1 with
    | ok outcome =>
      rw [runForms_cons_of_ok path h]
      exact ih (w.next form)
    | error e =>
      rw [runForms_cons_of_error path h]
      rfl

end Command

end GoalSearch
