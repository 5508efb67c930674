import GoalSearch.Engine
import GoalSearch.Proofs.Rule

/-!
# Engines in use

The engines that definitions, queries and programs lead to from a new one, and what holds of all of
them: each rule is kept under its own name and is legal (`Reachable.legal`).
-/

namespace GoalSearch

namespace Engine

/-- An engine that came about by definitions and queries. -/
inductive Reachable : Engine → Prop where
  | new (settings : Settings) : Reachable (new settings)
  | define {engine : Engine} (h : Reachable engine) (name : String) (params : List Expr)
      (body : Expr) : Reachable (engine.define name params body).2
  | query {engine : Engine} (h : Reachable engine) (goal : Expr) : Reachable (engine.query goal).2

variable {engine : Engine}

/-! ## Programs -/

theorem Reachable.eval (h : engine.Reachable) (form : Expr) : (engine.eval form).2.Reachable := by
  unfold Engine.eval
  cases Form.ofExpr form with
  | error e => exact h
  | ok form =>
    cases form with
    | define name params body => exact h.define name params body
    | query goal => exact h.query goal

theorem Reachable.evalAll (h : engine.Reachable) (forms : List Expr) :
    (engine.evalAll forms).2.Reachable := by
  induction forms generalizing engine with
  | nil => exact h
  | cons form later ih =>
    have hfirst := h.eval form
    rw [Engine.evalAll]
    dsimp only
    cases (engine.eval form).1.outcome with
    | error e => exact hfirst
    | ok outcome => exact ih hfirst

theorem Reachable.runSource (h : engine.Reachable) (source : String) :
    (engine.runSource source).2.Reachable := by
  unfold Engine.runSource
  cases Expr.readAll source with
  | error e => exact h
  | ok forms => exact h.evalAll forms

/-! ## Rules -/

theorem rules_query (engine : Engine) (goal : Expr) :
    (engine.query goal).2.rules = engine.rules := by
  unfold query
  dsimp only
  cases (buildGoal rulesScope engine.settings.maxRuleDepth queryScope goal).run engine.workspace with
  | ok tree w => rfl
  | error e w => rfl

theorem legal_define (h : engine.rules.Legal) (name : String) (params : List Expr) (body : Expr) :
    (engine.define name params body).2.rules.Legal := by
  unfold define
  cases hmake : Rule.make name params body with
  | error e => exact h
  | ok r => exact h.insert (Rule.legal_of_make hmake).1

/-- Every rule of an engine in use is legal. -/
theorem Reachable.legal (h : engine.Reachable) : engine.rules.Legal := by
  induction h with
  | new settings => exact NameTable.legal_empty
  | define _ name params body ih => exact legal_define ih name params body
  | query _ goal ih =>
    rw [rules_query]
    exact ih

end Engine

end GoalSearch
