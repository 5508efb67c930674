import GoalSearch.Proofs.Build.Renaming
import GoalSearch.Proofs.Interpreter.Mirror

/-!
# The names of variables do not matter

A query gets the same answer under other names for its variables, from rules that have other names for
theirs, each rule and the query by a renaming of its own:

    (engine.query goal).1.outcome = .ok report →
      ((engine.renamed ρ).query (goal.renamed σ)).1.outcome = .ok report ∧ …           (query_renamed)

and it is refused if it was refused before. The error is then the same one, under the names of the text in
which it was found.
-/

namespace GoalSearch

namespace Engine

/-- An engine whose rules have other names for their variables. -/
def renamed (engine : Engine) (ρ : String → Renaming engine.rules) : Engine :=
  { engine with rules := engine.rules.renamed ρ }

/-- What an engine replies depends on the outline of the query's goal. -/
theorem reply_of_outline {engine : Engine} (hrules : engine.rules.WellFormed) {goal : Expr}
    {T : Outline} (hT : outline engine.rules.find? engine.settings.maxRuleDepth goal = .ok T) :
    ∃ run, (engine.query goal).1.reply = ⟨.ok (report run), run.printed⟩ ∧ Shows T run := by
  rw [engine.reply_query]
  exact Interpreter.query_of_outline engine.ready_interpreter hrules hT

theorem reply_of_outline_error {engine : Engine} (hrules : engine.rules.WellFormed) {goal : Expr}
    {e : BuildError}
    (he : outline engine.rules.find? engine.settings.maxRuleDepth goal = .error e) :
    (engine.query goal).1.reply = ⟨.error e, []⟩ := by
  rw [engine.reply_query]
  exact Interpreter.query_of_outline_error engine.ready_interpreter hrules he

/-- **The names of variables do not matter**, neither those of a query nor those of rules. -/
theorem query_renamed (engine : Engine) (hrules : engine.rules.WellFormed)
    (σ : Renaming engine.rules) (ρ : String → Renaming engine.rules) (goal : Expr) :
    let answer := (engine.query goal).1
    let answer' := ((engine.renamed ρ).query (goal.renamed σ)).1
    (∃ report, answer.outcome = .ok report ∧ answer'.outcome = .ok report ∧
      answer'.printed = answer.printed) ∨
    ∃ (e : BuildError) (τ : Renaming engine.rules), answer.outcome = .error e ∧
      answer'.outcome = .error (e.renamed τ) := by
  intro answer answer'
  have hrules' : (engine.renamed ρ).rules.WellFormed := hrules.renamed ρ
  obtain ⟨T, T', Q, hQ, halike, hT, hT'⟩ | ⟨e, τ, he, he'⟩ :=
    outline_renamed σ ρ engine.settings.maxRuleDepth goal
  · obtain ⟨run, hreply, hshows⟩ := reply_of_outline hrules hT
    obtain ⟨run', hreply', hshows'⟩ := reply_of_outline hrules' hT'
    obtain ⟨hreports, hprinted⟩ := hshows.answers hshows' hQ halike
    rw [← hreports, ← hprinted] at hreply'
    refine .inl ⟨report run, congrArg Reply.outcome hreply, congrArg Reply.outcome hreply', ?_⟩
    exact congrArg Reply.printed (hreply'.trans hreply.symm)
  · have hreply := reply_of_outline_error hrules he
    have hreply' := reply_of_outline_error hrules' he'
    exact .inr ⟨e, τ, congrArg Reply.outcome hreply, congrArg Reply.outcome hreply'⟩

/-- Three texts share names, and no two of them are renamed alike. The rule `Link` is named like a variable
and keeps its name. -/
theorem query_renamed_link :
    let engine := [Interpreter.Call.define "same" [.atom "X", .atom "Y"]
        (.list [.atom ":=:", .atom "X", .atom "Y"]),
      .define "Link" [.atom "X", .atom "Y"] (.list [.atom "and",
        .list [.atom "same", .atom "X", .atom "Z"], .list [.atom ":=:", .atom "Z", .atom "Y"],
        .list [.atom "print", .atom "Z"]])].foldl call (new .standard)
    let goal : Expr := .list [.atom "or", .list [.atom "and",
        .list [.atom "Link", .atom "a", .atom "X"], .list [.atom ":=:", .atom "X", .atom "b"]],
      .list [.atom "Link", .atom "X", .atom "c"]]
    let refused : Expr := .list [.atom "and", .list [.atom "same", .atom "X", .atom "a"],
      .list [.atom "X", .atom "a"]]
    ∃ (σ : Renaming engine.rules) (ρ : String → Renaming engine.rules),
      (goal.renamed σ).text = "(or (and (Link a Y) (:=: Y b)) (Link Y c))" ∧
      ((engine.renamed ρ).rules.find? "same").map (fun r => (r.params, r.body.text)) =
        some (["Y", "X"], "(:=: Y X)") ∧
      ((engine.renamed ρ).rules.find? "Link").map (fun r => (r.params, r.body.text)) =
        some (["X", "Z"], "(and (same X Y) (:=: Y Z) (print Y))") ∧
      ((engine.renamed ρ).query (goal.renamed σ)).1.printed = [⟨"a"⟩, ⟨"c"⟩] ∧
      (∃ report, (engine.query goal).1.outcome = .ok report ∧
        ((engine.renamed ρ).query (goal.renamed σ)).1.outcome = .ok report) ∧
      ∃ (e : BuildError) (τ : Renaming engine.rules), (engine.query refused).1.outcome = .error e ∧
        ((engine.renamed ρ).query (refused.renamed σ)).1.outcome = .error (e.renamed τ) := by
  intro engine goal refused
  have hwf : engine.rules.WellFormed :=
    (Interpreter.mirrors_after .standard [_, _]).refines.legal.wellFormed
  let σ : Renaming engine.rules := .swap "X" "Y" (by decide +kernel) (by decide +kernel) rfl rfl
  let τ : Renaming engine.rules := .swap "Y" "Z" (by decide +kernel) (by decide +kernel) rfl rfl
  let ρ : String → Renaming engine.rules := fun name => if name = "same" then σ else τ
  obtain ⟨_, hok⟩ : ∃ report, (engine.query goal).1.outcome = .ok report :=
    Interpreter.exists_ok_of_isSome (by decide +kernel)
  obtain ⟨_, hrefused⟩ : ∃ e, (engine.query refused).1.outcome = .error e :=
    Interpreter.exists_error_of_isNone (by decide +kernel)
  refine ⟨σ, ρ, by decide +kernel, by decide +kernel, by decide +kernel, ?_⟩
  obtain ⟨report, hreport, hreport', hprinted⟩ | ⟨_, _, he, -⟩ := engine.query_renamed hwf σ ρ goal
  · obtain ⟨_, hreport, -, -⟩ | herror := engine.query_renamed hwf σ ρ refused
    · rw [hrefused] at hreport
      cases hreport
    · refine ⟨?_, ⟨report, hreport, hreport'⟩, herror⟩
      rw [hprinted]
      decide +kernel
  · rw [hok] at he
    cases he

end Engine

end GoalSearch
