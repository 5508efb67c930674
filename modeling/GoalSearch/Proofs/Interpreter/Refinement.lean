import GoalSearch.Proofs.Engine.Workspace
import GoalSearch.Proofs.Interpreter.Query

/-!
# The global scope is a table of rules

Whatever calls an interpreter has gone through, its global scope is the table of the rules that were
accepted, in order, and holds no cells:

    ((new settings).after calls).Refines (NameTable.empty.insertAll (acceptedBy (new settings) calls))

(`refines_after`). A call that ends in an error has printed nothing and left the global scope as it was
(`Atomic`). A text is the exception: it is evaluated form by form, and what its forms have done before
the error stays done.
-/

namespace GoalSearch

open Build Store Workspace

/-- A table with rules stored under their names, in order. -/
def NameTable.insertAll (t : NameTable Rule) (rules : List Rule) : NameTable Rule :=
  rules.foldl (fun t r => t.insert r.name r) t

theorem NameTable.insertAll_append (t : NameTable Rule) (rules later : List Rule) :
    t.insertAll (rules ++ later) = (t.insertAll rules).insertAll later :=
  List.foldl_append

namespace Interpreter

variable {p : Interpreter} {rules : NameTable Rule}

/-! ## Accepted rules -/

/-- The rule of a definition, if it is accepted. -/
def acceptedRule (name : String) (params : List Expr) (body : Expr) : List Rule :=
  match Rule.make name params body with
  | .error _ => []
  | .ok r => [r]

def acceptedForm (form : Expr) : List Rule :=
  match Form.ofExpr form with
  | .ok (.define name params body) => acceptedRule name params body
  | _ => []

/-- The rules that forms define up to the first error. -/
def acceptedForms (p : Interpreter) : List Expr → List Rule
  | [] => []
  | form :: later =>
    match (p.eval form).1.outcome with
    | .error _ => []
    | .ok _ => acceptedForm form ++ acceptedForms (p.eval form).2 later

def acceptedSource (p : Interpreter) (source : String) : List Rule :=
  match Expr.readAll source with
  | .error _ => []
  | .ok forms => p.acceptedForms forms

def acceptedCall (p : Interpreter) : Call → List Rule
  | .eval form => acceptedForm form
  | .define name params body => acceptedRule name params body
  | .query _ => []
  | .runSource source => p.acceptedSource source

def acceptedBy (p : Interpreter) : List Call → List Rule
  | [] => []
  | c :: later => p.acceptedCall c ++ acceptedBy (p.call c) later

/-! ## Definitions -/

/-- A rule in the root of a workspace. -/
theorem ready_bind {root : ScopeId} {w : Workspace} (h : w.Ready root rules) (name : String)
    (r : Rule) :
    Ready root (rules.insert name r)
      { w with scopes := w.scopes.bind root name (.rule r) } := by
  refine ⟨⟨Scopes.has_bind.mpr h.has_root, ?_, ?_, ?_, ?_⟩, h.acyclic⟩
  · intro n
    rw [Scopes.find?_bind h.has_root, NameTable.find?_insert, h.root_names]
    by_cases hn : n = name
    · simp [hn]
    · simp [hn]
  · rw [Scopes.enclosing_bind]
    exact h.root_enclosing
  · intro i hi hne
    rw [Scopes.enclosing_bind]
    exact h.enclosing (Scopes.has_bind.mp hi) hne
  · intro i n m hne hm
    rw [Scopes.names_bind_ne w.scopes name (.rule r) hne] at hm
    exact h.named hne hm

theorem Refines.define (h : p.Refines rules) (name : String) (params : List Expr) (body : Expr) :
    (p.define name params body).2.Refines (rules.insertAll (acceptedRule name params body)) := by
  unfold Interpreter.define acceptedRule
  cases hmake : Rule.make name params body with
  | error e => exact h
  | ok r =>
    have hlegal := (Rule.legal_of_make hmake).1
    show Refines _ (rules.insert r.name r)
    rw [hlegal.name_eq]
    refine ⟨ready_bind h.ready name r, ?_, h.legal.insert hlegal⟩
    rw [NameTable.mapValues_insert, ← h.global_eq]
    exact Scopes.names_bind_self name (.rule r) h.ready.has_root

/-! ## Calls -/

theorem Refines.eval (h : p.Refines rules) (form : Expr) :
    (p.eval form).2.Refines (rules.insertAll (acceptedForm form)) := by
  unfold Interpreter.eval acceptedForm
  cases Form.ofExpr form with
  | error e => exact h
  | ok f =>
    cases f with
    | define name params body => exact h.define name params body
    | query goal => exact h.query goal

/-- A form that is not evaluated defines nothing. -/
theorem acceptedForm_of_error {form : Expr} {e : BuildError}
    (he : (p.eval form).1.outcome = .error e) : acceptedForm form = [] := by
  unfold Interpreter.eval at he
  unfold acceptedForm
  cases hform : Form.ofExpr form with
  | error e' => rfl
  | ok f =>
    cases f with
    | query goal => rfl
    | define name params body =>
      rw [hform] at he
      unfold Interpreter.define at he
      show acceptedRule name params body = []
      unfold acceptedRule
      cases hmake : Rule.make name params body with
      | error e' => rfl
      | ok r =>
        simp only [hmake] at he
        cases he

theorem Refines.evalAll (h : p.Refines rules) (forms : List Expr) :
    (p.evalAll forms).2.Refines (rules.insertAll (p.acceptedForms forms)) := by
  induction forms generalizing p rules with
  | nil => exact h
  | cons form later ih =>
    have hfirst := h.eval form
    rw [Interpreter.evalAll, acceptedForms]
    dsimp only
    cases houtcome : (p.eval form).1.outcome with
    | error e =>
      rw [acceptedForm_of_error houtcome] at hfirst
      exact hfirst
    | ok outcome =>
      dsimp only
      rw [NameTable.insertAll_append]
      exact ih hfirst

theorem Refines.runSource (h : p.Refines rules) (source : String) :
    (p.runSource source).2.Refines (rules.insertAll (p.acceptedSource source)) := by
  unfold Interpreter.runSource acceptedSource
  cases Expr.readAll source with
  | error e => exact h
  | ok forms => exact h.evalAll forms

theorem Refines.call (h : p.Refines rules) (c : Call) :
    (p.call c).Refines (rules.insertAll (p.acceptedCall c)) := by
  cases c with
  | eval form => exact h.eval form
  | define name params body => exact h.define name params body
  | query goal => exact h.query goal
  | runSource source => exact h.runSource source

theorem Refines.after (h : p.Refines rules) (calls : List Call) :
    (p.after calls).Refines (rules.insertAll (p.acceptedBy calls)) := by
  induction calls generalizing p rules with
  | nil => exact h
  | cons c later ih =>
    rw [acceptedBy, NameTable.insertAll_append]
    exact ih (h.call c)

theorem refines_new (settings : Settings) : (new settings).Refines .empty := by
  have hproper := Engine.proper_rulesWorkspace (Engine.new settings)
  exact ⟨⟨hproper.toRooted, acyclic_of_isEnd hproper.isEnd⟩, rfl, NameTable.legal_empty⟩

/-- An interpreter that has gone through calls keeps the rules that were accepted. -/
theorem refines_after (settings : Settings) (calls : List Call) :
    ((new settings).after calls).Refines
      (NameTable.empty.insertAll ((new settings).acceptedBy calls)) :=
  (refines_new settings).after calls

/-! ## Errors -/

/-- Evaluates forms one by one, also after an error. -/
def evalEach (p : Interpreter) : List Expr → List (Reply BuildError Outcome) × Interpreter
  | [] => ([], p)
  | form :: later =>
    let (first, p) := p.eval form
    let (rest, p) := evalEach p later
    (first :: rest, p)

/-- What a call that ends in an error has done. -/
structure Atomic (p : Interpreter) : Prop where
  eval : ∀ {form e}, (p.eval form).1.outcome = .error e →
    (p.eval form).1.printed = [] ∧ (p.eval form).2.global = p.global
  define : ∀ {name params body e}, (p.define name params body).1.outcome = .error e →
    (p.define name params body).1.printed = [] ∧ (p.define name params body).2.global = p.global
  query : ∀ {goal e}, (p.query goal).1.outcome = .error e →
    (p.query goal).1.printed = [] ∧ (p.query goal).2.global = p.global
  /-- A text that cannot be read does nothing. -/
  unread : ∀ {source e}, Expr.readAll source = .error e →
    p.runSource source = (⟨.error (.read e), []⟩, p)
  /-- A text that stops at a form has done what the forms before do one by one. -/
  stopped : ∀ {source forms e}, Expr.readAll source = .ok forms →
    (p.runSource source).1.outcome = .error e →
    ∃ before form later err, forms = before ++ form :: later ∧ e = .build err ∧
      (∀ reply ∈ (p.evalEach before).1, ∃ outcome, reply.outcome = .ok outcome) ∧
      ((p.evalEach before).2.eval form).1.outcome = .error err ∧
      (p.runSource source).1.printed = (p.evalEach before).1.flatMap Reply.printed ∧
      (p.runSource source).2.global = (p.evalEach before).2.global

theorem eq_error_of_map {ε α β : Type} {x : Except ε α} {f : α → β} {e : ε}
    (h : x.map f = .error e) : x = .error e := by
  cases x with
  | error e' =>
    cases h
    rfl
  | ok a => cases h

theorem define_of_error {name : String} {params : List Expr} {body : Expr} {e : BuildError}
    (h : (p.define name params body).1.outcome = .error e) :
    p.define name params body = (⟨.error e, []⟩, p) := by
  unfold Interpreter.define at h ⊢
  cases hmake : Rule.make name params body with
  | error e' =>
    rw [hmake] at h
    cases h
    rfl
  | ok r =>
    simp only [hmake] at h
    cases h

theorem Refines.query_of_error (h : p.Refines rules) {goal : Expr} {e : BuildError}
    (he : (p.query goal).1.outcome = .error e) :
    (p.query goal).1.printed = [] ∧ (p.query goal).2.global = p.global := by
  refine ⟨?_, (h.query goal).global_eq.trans h.global_eq.symm⟩
  cases houtline : outline rules.find? p.settings.maxRuleDepth goal with
  | error e' => rw [query_of_outline_error h.ready h.legal.wellFormed houtline]
  | ok T =>
    obtain ⟨run, hquery, -⟩ := query_of_outline h.ready h.legal.wellFormed houtline
    rw [hquery] at he
    cases he

theorem Refines.eval_of_error (h : p.Refines rules) {form : Expr} {e : BuildError}
    (he : (p.eval form).1.outcome = .error e) :
    (p.eval form).1.printed = [] ∧ (p.eval form).2.global = p.global := by
  unfold Interpreter.eval at he ⊢
  cases hform : Form.ofExpr form with
  | error e' => exact ⟨rfl, rfl⟩
  | ok f =>
    rw [hform] at he
    cases f with
    | define name params body =>
      have hdefine := define_of_error (eq_error_of_map he)
      dsimp only
      rw [hdefine]
      exact ⟨rfl, rfl⟩
    | query goal => exact h.query_of_error (eq_error_of_map he)

/-- Forms that stop at an error have done what those before it do one by one. -/
theorem Refines.evalAll_of_error (h : p.Refines rules) {forms : List Expr} {e : BuildError}
    (he : (p.evalAll forms).1.outcome = .error e) :
    ∃ before form later, forms = before ++ form :: later ∧
      (∀ reply ∈ (p.evalEach before).1, ∃ outcome, reply.outcome = .ok outcome) ∧
      ((p.evalEach before).2.eval form).1.outcome = .error e ∧
      (p.evalAll forms).1.printed = (p.evalEach before).1.flatMap Reply.printed ∧
      (p.evalAll forms).2.global = (p.evalEach before).2.global := by
  induction forms generalizing p rules with
  | nil => cases he
  | cons form later ih =>
    rw [Interpreter.evalAll] at he ⊢
    dsimp only at he ⊢
    cases houtcome : (p.eval form).1.outcome with
    | error e' =>
      rw [houtcome] at he
      cases he
      obtain ⟨hprinted, hglobal⟩ := h.eval_of_error houtcome
      exact ⟨[], form, later, rfl, by simp [evalEach], houtcome, hprinted, hglobal⟩
    | ok outcome =>
      rw [houtcome] at he
      obtain ⟨before, form', later', rfl, hok, herror, hprinted, hglobal⟩ :=
        ih (h.eval form) (eq_error_of_map he)
      refine ⟨form :: before, form', later', rfl, ?_, herror, ?_, hglobal⟩
      · rw [evalEach, List.forall_mem_cons]
        exact ⟨⟨outcome, houtcome⟩, hok⟩
      · rw [evalEach, List.flatMap_cons, ← hprinted]

theorem Refines.atomic (h : p.Refines rules) : p.Atomic where
  eval := h.eval_of_error
  define := by
    intro name params body e he
    rw [define_of_error he]
    exact ⟨rfl, rfl⟩
  query := h.query_of_error
  unread := by
    intro source e he
    unfold Interpreter.runSource
    rw [he]
  stopped := by
    intro source forms e hforms he
    unfold Interpreter.runSource at he ⊢
    rw [hforms] at he ⊢
    dsimp only at he ⊢
    cases houtcome : (p.evalAll forms).1.outcome with
    | ok outcomes =>
      rw [houtcome] at he
      cases he
    | error err =>
      rw [houtcome] at he
      cases he
      obtain ⟨before, form, later, hsplit, hok, herror, hprinted, hglobal⟩ :=
        h.evalAll_of_error houtcome
      exact ⟨before, form, later, err, hsplit, rfl, hok, herror, hprinted, hglobal⟩

/-- **The global scope is the table of the rules that were accepted**, each of them legal, and errors are
atomic. -/
theorem global_after (settings : Settings) (calls : List Call) :
    let p := (new settings).after calls
    p.global = (NameTable.empty.insertAll ((new settings).acceptedBy calls)).mapValues .rule ∧
      (∀ name m, p.global.find? name = some m → ∃ r, m = .rule r ∧ r.Legal name) ∧ p.Atomic := by
  intro p
  have hrefines := refines_after settings calls
  refine ⟨hrefines.global_eq, ?_, hrefines.atomic⟩
  intro name m hm
  rw [hrefines.global_eq, NameTable.find?_mapValues, Option.map_eq_some_iff] at hm
  obtain ⟨r, hr, rfl⟩ := hm
  exact ⟨r, rfl, hrefines.legal name r hr⟩

theorem exists_ok_of_isSome {ε α : Type} {x : Except ε α} (h : x.toOption.isSome = true) :
    ∃ a, x = .ok a := by
  cases x with
  | error e => cases h
  | ok a => exact ⟨a, rfl⟩

theorem exists_error_of_isNone {ε α : Type} {x : Except ε α} (h : x.toOption.isNone = true) :
    ∃ e, x = .error e := by
  cases x with
  | error e => exact ⟨e, rfl⟩
  | ok a => cases h

/-- The third form of a text names no relation. What the first two have printed and defined stays, and
the fourth one is not reached. -/
theorem global_after_stopped :
    let calls : List Call := [.define "same" [.atom "X", .atom "X"] (.list [.atom "or"]),
      .define "same" [.atom "X", .atom "Y"] (.list [.atom ":=:", .atom "X", .atom "Y"])]
    let p := (new .standard).after calls
    let source := "(query (print a)) (define both () (and)) (query (missing)) (query (print b))"
    p.global.entries.map Prod.fst = ["same"] ∧
      ∃ before form later err, Expr.readAll source = .ok (before ++ form :: later) ∧
        ((p.evalEach before).2.eval form).1.outcome = .error err ∧
        (p.evalEach before).1.flatMap Reply.printed = [⟨"a"⟩] ∧
        (p.evalEach before).2.global.entries.map Prod.fst = ["same", "both"] := by
  intro calls p source
  obtain ⟨forms, hforms⟩ : ∃ forms, Expr.readAll source = .ok forms :=
    exists_ok_of_isSome (by decide +kernel)
  obtain ⟨e, he⟩ : ∃ e, (p.runSource source).1.outcome = .error e :=
    exists_error_of_isNone (by decide +kernel)
  obtain ⟨before, form, later, err, rfl, -, -, herror, hprinted, hglobal⟩ :=
    (global_after .standard calls).2.2.stopped hforms he
  refine ⟨by decide +kernel, before, form, later, err, hforms, herror, ?_, ?_⟩
  · rw [← hprinted]
    decide +kernel
  · rw [← hglobal]
    decide +kernel

end Interpreter

end GoalSearch
