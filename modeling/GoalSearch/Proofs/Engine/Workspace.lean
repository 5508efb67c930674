import GoalSearch.Engine
import GoalSearch.Proofs.Build.Proper

/-!
# The workspace of a query

The workspace in which an engine builds a query is proper for the rules of the engine
(`proper_workspace`). It has no cells yet, and the query's own scope has no names. The outcome of the query
tells what the build has come to (`query_ok`, `query_error`).
-/

namespace GoalSearch

namespace Engine

open Workspace

/-- The workspace of a query before the query has a scope of its own. -/
def rulesWorkspace (engine : Engine) : Workspace :=
  ⟨.empty, (Scopes.empty.openRoot (engine.rules.mapValues .rule)).2⟩

theorem state_empty (c : Cell) : Store.empty.state c = .unbound :=
  Store.state_of_not_has (Nat.not_lt_zero c.id)

theorem proper_rulesWorkspace (engine : Engine) :
    engine.rulesWorkspace.Proper rulesScope engine.rules where
  has_root := Nat.zero_lt_one
  root_names := fun name => NameTable.find?_mapValues Meaning.rule engine.rules name
  root_enclosing := rfl
  enclosing := by
    intro i hi hne
    have hzero : i.id = 0 := Nat.lt_one_iff.mp hi
    exact absurd (congrArg ScopeId.mk hzero) hne
  named := by
    intro i name m hne hm
    have hzero : i.id = 0 := Nat.lt_one_iff.mp (Scopes.has_of_find? hm)
    exact absurd (congrArg ScopeId.mk hzero) hne
  isEnd := fun c => Store.isEnd_of_unbound (state_empty c)

theorem proper_workspace (engine : Engine) : engine.workspace.Proper rulesScope engine.rules :=
  engine.proper_rulesWorkspace.openChild

theorem has_queryScope (engine : Engine) : engine.workspace.scopes.Has queryScope :=
  engine.rulesWorkspace.scopes.has_openChild rulesScope

/-! ## Outcomes -/

variable {engine : Engine} {goal : Expr}

/-- A query that is answered has been built and searched for. -/
theorem query_ok {r : Report} (h : (engine.query goal).1.outcome = .ok r) :
    ∃ tree w, buildGoal rulesScope engine.settings.maxRuleDepth queryScope goal engine.workspace =
      .ok tree w ∧ r = report (tree.run w.store) := by
  unfold query at h
  dsimp only at h
  cases hbuild : (buildGoal rulesScope engine.settings.maxRuleDepth queryScope goal).run
      engine.workspace with
  | ok tree w =>
    rw [hbuild] at h
    cases h
    exact ⟨tree, w, hbuild, rfl⟩
  | error e w =>
    rw [hbuild] at h
    cases h

/-- A query is refused exactly if its build fails, and with the error of the build. -/
theorem query_error {e : BuildError} :
    (engine.query goal).1.outcome = .error e ↔
      ∃ w, buildGoal rulesScope engine.settings.maxRuleDepth queryScope goal engine.workspace =
        .error e w := by
  unfold query
  dsimp only
  cases hbuild : (buildGoal rulesScope engine.settings.maxRuleDepth queryScope goal).run
      engine.workspace with
  | ok tree w =>
    constructor
    · intro h
      cases h
    · rintro ⟨u, hu⟩
      cases hbuild.symm.trans hu
  | error e' w =>
    constructor
    · intro h
      cases h
      exact ⟨w, hbuild⟩
    · rintro ⟨u, hu⟩
      cases hbuild.symm.trans hu
      rfl

end Engine

end GoalSearch
