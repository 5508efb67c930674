import GoalSearch.Proofs.Build.Meaning
import GoalSearch.Proofs.Engine.Reachable
import GoalSearch.Proofs.Engine.Workspace

/-!
# Answers are true

The answer to a query tells whether the goal holds for some symbols in the place of its variables:

    report.holds = true ↔ ∃ σ, Holds engine.rules σ goal                    (query_holds_iff)

whenever there is an answer, and neither the goal nor a rule prints. The build keeps the meaning of the
goal, the search finds out whether some valuation of the cells solves what was built, and each valuation
can be read as an assignment to the variables.
-/

namespace GoalSearch

namespace Engine

open Build Workspace

variable {engine : Engine}

/-! ## The workspace of a query -/

/-- At the start of a query its variables can stand for anything. -/
theorem fits_workspace (engine : Engine) (σ : Assignment) (ν : Valuation) :
    engine.workspace.Fits queryScope σ ν := by
  refine Fits.frame (w := engine.rulesWorkspace) ⟨?_, ?_⟩ rulesScope σ
  · intro c v hc
    rw [show engine.rulesWorkspace.store = .empty from rfl, state_empty] at hc
    cases hc
  · intro c d hc
    rw [show engine.rulesWorkspace.store = .empty from rfl, state_empty] at hc
    cases hc

/-! ## Answers -/

/-- **Answers are true.** An answered query holds exactly if its goal does for some symbols in the place
of the goal's variables. -/
theorem query_holds_iff (hreach : engine.Reachable) {goal : Expr} (hgoal : hasPrint goal = false)
    (hrules : ∀ name r, engine.rules.find? name = some r → hasPrint r.body = false) {r : Report}
    (h : (engine.query goal).1.outcome = .ok r) :
    r.holds = true ↔ ∃ σ, Holds engine.rules σ goal := by
  obtain ⟨tree, w, hbuild, rfl⟩ := query_ok h
  have hne : queryScope ≠ rulesScope := by decide
  have hinterprets := interprets_goal hreach.legal hrules hne hgoal engine.proper_workspace
    engine.has_queryScope hbuild
  have hproper := (proper_goal hreach.legal _ _ hne goal).of_ok hbuild engine.proper_workspace
  have hacyclic : w.store.Acyclic := Store.acyclic_of_isEnd hproper.isEnd
  show (tree.run w.store).succeeded = true ↔ _
  rw [hinterprets.equational.run_succeeded_iff hacyclic hinterprets.cells]
  constructor
  · rintro ⟨ν, hν, hsolved⟩
    obtain ⟨σ, hσ⟩ := exists_fits w queryScope hν
    exact ⟨σ, hinterprets.sound hσ hsolved⟩
  · rintro ⟨σ, hσ⟩
    obtain ⟨ν, -, hν, hsolved⟩ := hinterprets.complete (engine.fits_workspace σ fun _ => ⟨""⟩)
    exact ⟨ν, hν.allows, hsolved hσ⟩

theorem ok_of_toOption {ε α : Type} {x : Except ε α} {a : α} (h : x.toOption = some a) :
    x = .ok a := by
  cases x with
  | error e => cases h
  | ok b =>
    cases h
    rfl

/-- Two parents, and a rule for grandparents with a variable of its own. -/
def family : Engine :=
  let equation (x y : String) : Expr := .list [.atom ":=:", .atom x, .atom y]
  let parents := ((new .standard).define "parent" [.atom "X", .atom "Y"]
    (.list [.atom "or",
      .list [.atom "and", equation "X" "ann", equation "Y" "ben"],
      .list [.atom "and", equation "X" "ben", equation "Y" "cal"]])).2
  (parents.define "grandparent" [.atom "X", .atom "Z"]
    (.list [.atom "and", .list [.atom "parent", .atom "X", .atom "Y"],
      .list [.atom "parent", .atom "Y", .atom "Z"]])).2

/-- The query's `Y` is not the `Y` of the rule. -/
theorem query_holds_iff_grandparent :
    ∃ σ, Holds family.rules σ (.list [.atom "grandparent", .atom "X", .atom "Y"]) := by
  have hreach : family.Reachable := .define (.define (.new .standard) _ _ _) _ _ _
  have hrules : ∀ name r, family.rules.find? name = some r → hasPrint r.body = false := by
    have hentries : ∀ entry ∈ family.rules.entries, hasPrint entry.2.body = false := by
      decide +kernel
    intro name r hr
    exact hentries (name, r) (NameTable.mem_entries_of_find? hr)
  have hanswer : (family.query (.list [.atom "grandparent", .atom "X", .atom "Y"])).1.outcome =
      .ok ⟨true, 19⟩ :=
    ok_of_toOption (by decide +kernel)
  exact (query_holds_iff hreach (by decide) hrules hanswer).mp rfl

end Engine

end GoalSearch
