import GoalSearch.Proofs.Build.Persistence
import GoalSearch.Proofs.Engine.Workspace
import GoalSearch.Proofs.Interpreter.Mirror

/-!
# The limit to nested applications

A query that is answered has no path of calls from its goal that is longer than the limit:

    CallPath engine.rules.find? goal path → path.length ≤ engine.settings.maxRuleDepth

and one that is refused for its depth has a path that goes on beyond the limit, at the rule that the error
names (`query_depth`). A greater limit changes no answer but these refusals (`query_limited`).
-/

namespace GoalSearch

namespace Engine

open Build

/-- **The limit is exact.** It is a limit to the number of rules on a path of calls. -/
theorem query_depth (engine : Engine) (goal : Expr) :
    let rules := engine.rules.find?
    let limit := engine.settings.maxRuleDepth
    let outcome := (engine.query goal).1.outcome
    (∀ report, outcome = .ok report →
      (∀ path, CallPath rules goal path → path.length ≤ limit) ∧
        ∀ path name, CallPath rules goal (path ++ [name]) → ¬Recursive rules name) ∧
    ((∀ path, CallPath rules goal path → path.length ≤ limit) →
      ∀ name k, outcome ≠ .error (.ruleDepthExceeded name k)) ∧
    ∀ name k, outcome = .error (.ruleDepthExceeded name k) →
      k = limit ∧ ∃ path, path.length = limit ∧ CallPath rules goal (path ++ [name]) := by
  intro rules limit outcome
  have hworkspace : engine.workspace.RulesAmong rules := engine.proper_workspace.rulesAmong
  have hdeep : ∀ name k, outcome = .error (.ruleDepthExceeded name k) →
      k = limit ∧ ∃ path, path.length = limit ∧ CallPath rules goal (path ++ [name]) := by
    intro name k h
    obtain ⟨w, hbuild⟩ := query_error.mp h
    exact callPath_of_goal_error hworkspace hbuild
  refine ⟨?_, ?_, hdeep⟩
  · intro report h
    obtain ⟨tree, w, hbuild, -⟩ := query_ok h
    have hbound : ∀ path, CallPath rules goal path → path.length ≤ limit :=
      fun path hpath => length_le_of_goal_ok hworkspace hbuild hpath
    exact ⟨hbound, fun path name hpath => hpath.not_recursive hbound⟩
  · intro hbound name k h
    obtain ⟨-, path, hlength, hpath⟩ := hdeep name k h
    have hle := hbound _ hpath
    simp only [List.length_append, List.length_singleton] at hle
    omega

/-- Two nested applications are too few for the outermost of three rules, and enough for the one inside
it. -/
theorem query_depth_nested :
    let engine := [Interpreter.Call.define "outer" [] (.list [.atom "and", .atom "middle"]),
      .define "middle" [] (.atom "inner"), .define "inner" [] (.list [.atom "or"])].foldl call (new ⟨2⟩)
    let rules := engine.rules.find?
    (engine.query (.atom "outer")).1.outcome = .error (.ruleDepthExceeded "inner" 2) ∧
      (∃ path, path.length = 2 ∧ CallPath rules (.atom "outer") (path ++ ["inner"])) ∧
      (∃ report, (engine.query (.atom "middle")).1.outcome = .ok report) ∧
      ∀ path, CallPath rules (.atom "middle") path → path.length ≤ 2 := by
  intro engine rules
  obtain ⟨report, hreport⟩ : ∃ report, (engine.query (.atom "middle")).1.outcome = .ok report :=
    Interpreter.exists_ok_of_isSome (by decide +kernel)
  have houter : (engine.query (.atom "outer")).1.outcome = .error (.ruleDepthExceeded "inner" 2) := by
    rfl
  obtain ⟨-, -, hdeep⟩ := engine.query_depth (.atom "outer")
  obtain ⟨hbuilt, -, -⟩ := engine.query_depth (.atom "middle")
  exact ⟨houter, (hdeep "inner" 2 houter).2, ⟨report, hreport⟩, (hbuilt report hreport).1⟩

def limited (engine : Engine) (depth : Nat) : Engine :=
  { engine with settings := { engine.settings with maxRuleDepth := depth } }

/-- **A greater limit only removes refusals for depth.** Any other answer stays the same, with what was
printed and logged. -/
theorem query_limited (engine : Engine) {depth : Nat} (hle : engine.settings.maxRuleDepth ≤ depth)
    (goal : Expr)
    (h : ∀ name k, (engine.query goal).1.outcome ≠ .error (.ruleDepthExceeded name k)) :
    ((engine.limited depth).query goal).1 = (engine.query goal).1 := by
  have hbuild : (buildGoal rulesScope (engine.limited depth).settings.maxRuleDepth queryScope goal).run
        (engine.limited depth).workspace =
      (buildGoal rulesScope engine.settings.maxRuleDepth queryScope goal).run engine.workspace :=
    buildGoal_eq_of_le hle fun name k u hdeep => h name k (query_error.mpr ⟨u, hdeep⟩)
  unfold query
  dsimp only
  rw [hbuild]
  cases (buildGoal rulesScope engine.settings.maxRuleDepth queryScope goal).run engine.workspace <;> rfl

/-- A query that is answered within the limit, and one that is refused for something else. -/
theorem query_limited_nested :
    let engine := [Interpreter.Call.define "twice" [.atom "X"]
        (.list [.atom "and", .list [.atom "print", .atom "X"], .list [.atom "print", .atom "X"]]),
      .define "loop" [.atom "X"] (.list [.atom "loop", .atom "X"])].foldl call (new ⟨1⟩)
    let goal : Expr := .list [.atom "twice", .atom "a"]
    let refused : Expr := .list [.atom "or", .list [.atom "twice"], .list [.atom "loop", .atom "a"]]
    (engine.query goal).1.printed = [⟨"a"⟩, ⟨"a"⟩] ∧
      ((engine.limited 9).query goal).1 = (engine.query goal).1 ∧
      (engine.query refused).1.outcome = .error (.arity "twice" 1 0) ∧
      ((engine.limited 9).query refused).1 = (engine.query refused).1 := by
  intro engine goal refused
  obtain ⟨report, hreport⟩ : ∃ report, (engine.query goal).1.outcome = .ok report :=
    Interpreter.exists_ok_of_isSome (by decide +kernel)
  have herror : (engine.query refused).1.outcome = .error (.arity "twice" 1 0) := by rfl
  have hgoal : ∀ name k, (engine.query goal).1.outcome ≠ .error (.ruleDepthExceeded name k) := by
    intro name k h
    rw [hreport] at h
    cases h
  have hrefused : ∀ name k, (engine.query refused).1.outcome ≠ .error (.ruleDepthExceeded name k) := by
    intro name k h
    rw [herror] at h
    cases h
  have hle : engine.settings.maxRuleDepth ≤ 9 := by decide +kernel
  exact ⟨by decide +kernel, engine.query_limited hle goal hgoal, herror,
    engine.query_limited hle refused hrefused⟩

end Engine

end GoalSearch
