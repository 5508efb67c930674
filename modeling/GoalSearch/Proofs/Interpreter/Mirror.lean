import GoalSearch.Proofs.Engine.Reachable
import GoalSearch.Proofs.Interpreter.History

/-!
# Engines and interpreters reply alike

An engine builds every query in a workspace of its own, an interpreter in the one that it has. That makes
no difference to what they reply. An interpreter that mirrors an engine does so after every further call:

    p.Mirrors engine → (engine.runSource source).1.reply = (p.runSource source).1 ∧
      (p.runSource source).2.Mirrors (engine.runSource source).2               (Mirrors.runSource)

so that what is proved of interpreters holds of engines as well.
-/

namespace GoalSearch

open Store Workspace

namespace Engine

variable {engine : Engine}

/-- The interpreter that has an engine's rules and nothing else. -/
def interpreter (engine : Engine) : Interpreter := ⟨engine.settings, engine.rulesWorkspace⟩

/-- It is ready for queries, whatever the rules are. -/
theorem ready_interpreter (engine : Engine) :
    engine.interpreter.workspace.Ready Interpreter.globalScope engine.rules := by
  have hproper := engine.proper_rulesWorkspace
  exact ⟨hproper.toRooted, acyclic_of_isEnd hproper.isEnd⟩

theorem refines_interpreter (h : engine.rules.Legal) : engine.interpreter.Refines engine.rules :=
  ⟨engine.ready_interpreter, rfl, h⟩

/-- An engine replies as an interpreter does that has only its rules. -/
theorem reply_query (engine : Engine) (goal : Expr) :
    (engine.query goal).1.reply = (engine.interpreter.query goal).1 := by
  -- The interpreter has the workspace of the query as soon as it has opened a scope.
  have hsame : ∀ {result}, buildGoal rulesScope engine.settings.maxRuleDepth queryScope goal
        engine.workspace = result →
      buildGoal Interpreter.globalScope engine.interpreter.settings.maxRuleDepth
        (engine.interpreter.workspace.scopes.openChild Interpreter.globalScope).1 goal
        { engine.interpreter.workspace with
          scopes := (engine.interpreter.workspace.scopes.openChild Interpreter.globalScope).2 } =
        result := id
  unfold query Interpreter.query EStateM.run
  cases hbuild : buildGoal rulesScope engine.settings.maxRuleDepth queryScope goal
    engine.workspace with
  | error e w =>
    simp only [hbuild, hsame hbuild]
    rfl
  | ok tree w =>
    simp only [hbuild, hsame hbuild]
    rfl

/-! ## Calls -/

def call (engine : Engine) : Interpreter.Call → Engine
  | .eval form => (engine.eval form).2
  | .define name params body => (engine.define name params body).2
  | .query goal => (engine.query goal).2
  | .runSource source => (engine.runSource source).2

end Engine

namespace Interpreter

variable {p : Interpreter} {engine : Engine}

/-- An interpreter has the settings and the rules of an engine. -/
structure Mirrors (p : Interpreter) (engine : Engine) : Prop where
  settings_eq : engine.settings = p.settings
  refines : p.Refines engine.rules

theorem mirrors_new (settings : Settings) : (new settings).Mirrors (Engine.new settings) :=
  ⟨rfl, refines_new settings⟩

theorem settings_query (p : Interpreter) (goal : Expr) :
    (p.query goal).2.settings = p.settings := by
  unfold query
  dsimp only
  split <;> rfl

theorem Mirrors.query (h : p.Mirrors engine) (goal : Expr) :
    (engine.query goal).1.reply = (p.query goal).1 ∧
      (p.query goal).2.Mirrors (engine.query goal).2 := by
  refine ⟨?_, ?_, ?_⟩
  · rw [engine.reply_query]
    exact query_eq (Engine.refines_interpreter h.refines.legal) h.refines rfl
      (congrArg Settings.maxRuleDepth h.settings_eq) goal
  · rw [settings_query, ← h.settings_eq]
    unfold Engine.query
    dsimp only
    split <;> rfl
  · rw [Engine.rules_query]
    exact h.refines.query goal

theorem Mirrors.define (h : p.Mirrors engine) (name : String) (params : List Expr) (body : Expr) :
    (engine.define name params body).1.reply = (p.define name params body).1 ∧
      (p.define name params body).2.Mirrors (engine.define name params body).2 := by
  have hrefines := h.refines.define name params body
  unfold acceptedRule at hrefines
  unfold Engine.define Interpreter.define at *
  cases hmake : Rule.make name params body with
  | error e => exact ⟨rfl, h⟩
  | ok r =>
    obtain rfl := (Rule.legal_of_make hmake).1.name_eq
    simp only [hmake] at hrefines ⊢
    exact ⟨rfl, h.settings_eq, hrefines⟩

theorem Mirrors.eval (h : p.Mirrors engine) (form : Expr) :
    (engine.eval form).1.reply = (p.eval form).1 ∧
      (p.eval form).2.Mirrors (engine.eval form).2 := by
  unfold Engine.eval Interpreter.eval
  cases Form.ofExpr form with
  | error e => exact ⟨rfl, h⟩
  | ok f =>
    cases f with
    | define name params body =>
      obtain ⟨hreply, hmirrors⟩ := h.define name params body
      refine ⟨?_, hmirrors⟩
      dsimp only
      rw [← hreply]
      rfl
    | query goal =>
      obtain ⟨hreply, hmirrors⟩ := h.query goal
      refine ⟨?_, hmirrors⟩
      dsimp only
      rw [← hreply]
      rfl

theorem Mirrors.evalAll (h : p.Mirrors engine) (forms : List Expr) :
    (engine.evalAll forms).1.reply = (p.evalAll forms).1 ∧
      (p.evalAll forms).2.Mirrors (engine.evalAll forms).2 := by
  induction forms generalizing p engine with
  | nil => exact ⟨rfl, h⟩
  | cons form later ih =>
    obtain ⟨hreply, hmirrors⟩ := h.eval form
    have houtcome : (engine.eval form).1.outcome = (p.eval form).1.outcome :=
      congrArg Reply.outcome hreply
    have hprinted : (engine.eval form).1.printed = (p.eval form).1.printed :=
      congrArg Reply.printed hreply
    rw [Engine.evalAll, Interpreter.evalAll]
    dsimp only
    rw [houtcome, ← hprinted]
    cases (p.eval form).1.outcome with
    | error e => exact ⟨rfl, hmirrors⟩
    | ok outcome =>
      obtain ⟨hrest, hmirrors'⟩ := ih hmirrors
      refine ⟨?_, hmirrors'⟩
      dsimp only
      rw [← hrest]
      rfl

/-- **Engines and interpreters reply alike** to a text, and mirror each other afterwards. -/
theorem Mirrors.runSource (h : p.Mirrors engine) (source : String) :
    (engine.runSource source).1.reply = (p.runSource source).1 ∧
      (p.runSource source).2.Mirrors (engine.runSource source).2 := by
  unfold Engine.runSource Interpreter.runSource
  cases Expr.readAll source with
  | error e => exact ⟨rfl, h⟩
  | ok forms =>
    obtain ⟨hreply, hmirrors⟩ := h.evalAll forms
    refine ⟨?_, hmirrors⟩
    dsimp only
    rw [← hreply]
    rfl

theorem Mirrors.call (h : p.Mirrors engine) (c : Call) : (p.call c).Mirrors (engine.call c) := by
  cases c with
  | eval form => exact (h.eval form).2
  | define name params body => exact (h.define name params body).2
  | query goal => exact (h.query goal).2
  | runSource source => exact (h.runSource source).2

theorem Mirrors.after (h : p.Mirrors engine) (calls : List Call) :
    (p.after calls).Mirrors (calls.foldl Engine.call engine) := by
  induction calls generalizing p engine with
  | nil => exact h
  | cons c later ih => exact ih (h.call c)

/-- An interpreter mirrors the engine that has gone through the same calls. -/
theorem mirrors_after (settings : Settings) (calls : List Call) :
    ((new settings).after calls).Mirrors (calls.foldl Engine.call (Engine.new settings)) :=
  (mirrors_new settings).after calls

end Interpreter

end GoalSearch
