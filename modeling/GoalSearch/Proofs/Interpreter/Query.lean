import GoalSearch.Interpreter
import GoalSearch.Proofs.Build.Depict

/-!
# Queries of an interpreter

What the reply to a query depends on, and what a query leaves behind. The reply is that of any search for
a goal with the outline of the query's goal, wherever that goal has been built:

    p.workspace.Ready globalScope rules → rules.WellFormed →
      outline rules.find? p.settings.maxRuleDepth goal = .ok T →
      ∃ run, (p.query goal).1 = ⟨.ok (Engine.report run), run.printed⟩ ∧ Shows T run      (query_of_outline)

and afterwards the interpreter has the rules that it had, in a workspace that is ready for further queries
(`Refines.query`).
-/

namespace GoalSearch

open Build Store Workspace

/-! ## Runs of outlines -/

/-- A search for a goal that depicts an outline. -/
def Shows (T : Outline) (r : Run) : Prop :=
  ∃ base s labels g, Depicts base s labels g T ∧ r = g.run s

/-- Searches for goals with outlines that are alike give the same answer. -/
theorem Shows.answers {T T' : Outline} {r r' : Run} (h : Shows T r) (h' : Shows T' r')
    {Q : Token → Token → Prop} (hQ : Faithful Q) (halike : T.Alike Q T') :
    Engine.report r = Engine.report r' ∧ r.printed = r'.printed := by
  obtain ⟨base, s, labels, g, hg, rfl⟩ := h
  obtain ⟨base', s', labels', g', hg', rfl⟩ := h'
  have hmatch := hg.matches_run hg' hQ halike
  refine ⟨?_, hmatch.printed_eq⟩
  unfold Engine.report
  rw [hmatch.succeeded_eq, hmatch.steps_eq]

namespace Interpreter

variable {p q : Interpreter} {rules : NameTable Rule}

/-- The global scope of an interpreter holds rules and nothing else, and its workspace is ready for
queries. -/
structure Refines (p : Interpreter) (rules : NameTable Rule) : Prop where
  ready : p.workspace.Ready globalScope rules
  global_eq : p.global = rules.mapValues .rule
  legal : rules.Legal

/-! ## Replies -/

theorem query_of_outline (h : p.workspace.Ready globalScope rules) (hrules : rules.WellFormed)
    {goal : Expr} {T : Outline}
    (hT : outline rules.find? p.settings.maxRuleDepth goal = .ok T) :
    ∃ run, (p.query goal).1 = ⟨.ok (Engine.report run), run.printed⟩ ∧ Shows T run := by
  obtain ⟨g, w, T', labels, hbuild, hT', hg⟩ | ⟨e, w, -, herror⟩ :=
    buildGoal_cases h hrules p.settings.maxRuleDepth goal
  · rw [hT] at hT'
    cases hT'
    refine ⟨g.run w.store, ?_, p.workspace.store, w.store, labels, g, hg, rfl⟩
    unfold query
    simp only [hbuild]
  · rw [hT] at herror
    cases herror

theorem query_of_outline_error (h : p.workspace.Ready globalScope rules) (hrules : rules.WellFormed)
    {goal : Expr} {e : BuildError}
    (he : outline rules.find? p.settings.maxRuleDepth goal = .error e) :
    (p.query goal).1 = ⟨.error e, []⟩ := by
  obtain ⟨g, w, T, labels, -, hT, -⟩ | ⟨e', w, hbuild, he'⟩ :=
    buildGoal_cases h hrules p.settings.maxRuleDepth goal
  · rw [he] at hT
    cases hT
  · rw [he] at he'
    cases he'
    unfold query
    simp only [hbuild]

/-! ## What is left -/

/-- A build leaves a workspace that is ready for further queries, with the names that the root had. -/
theorem ready_leaves {root : ScopeId} {base : Workspace} (hbase : base.Ready root rules)
    (hrules : rules.WellFormed) (limit : Nat) (e : Expr) :
    let scope := (base.scopes.openChild root).1
    let w := (buildGoal root limit scope e).leaves
      { base with scopes := (base.scopes.openChild root).2 }
    w.Ready root rules ∧ w.scopes.names root = base.scopes.names root := by
  intro scope w
  have hopened := hbase.toRooted.openChild
  have hne : scope ≠ root := hbase.frame_ne
  have hgrows := grows_goal root limit limit _ scope e _ (Grows.refl scope
    { base with scopes := (base.scopes.openChild root).2 })
  refine ⟨⟨?_, ?_⟩, ?_⟩
  · exact rooted_goal hrules limit limit hne e _ hopened
  · exact created_goal (fun s name state hstate hs => hs.create name hstate) root limit limit
      scope e _ hbase.acyclic
  · exact (hgrows.names_eq hopened.has_root hne.symm).trans (Scopes.names_openChild _ root root)

/-- **A query leaves the rules as they are**, and a workspace for the next query. -/
theorem Refines.query (h : p.Refines rules) (goal : Expr) : (p.query goal).2.Refines rules := by
  obtain ⟨hready, hnames⟩ := ready_leaves h.ready h.legal.wellFormed p.settings.maxRuleDepth goal
  obtain ⟨g, w, T, labels, hbuild, -, hg⟩ | ⟨e, w, hbuild, -⟩ :=
    buildGoal_cases h.ready h.legal.wellFormed p.settings.maxRuleDepth goal
  · rw [leaves_of_ok hbuild] at hready hnames
    have hquery : (p.query goal).2 =
        { p with workspace := { w with store := (g.run w.store).store } } := by
      unfold Interpreter.query
      simp only [hbuild]
    rw [hquery]
    -- The search makes aliases, but it leads to a store without cycles.
    have hacyclic := (hg.matches_run hg faithful_eq T.alike_refl).agree.acyclic_left
    have hrooted := hready.toRooted.setStore (g.size_run w.store).ge
    exact ⟨⟨hrooted, hacyclic⟩, hnames.trans h.global_eq, h.legal⟩
  · rw [leaves_of_error hbuild] at hready hnames
    have hquery : (p.query goal).2 = { p with workspace := w } := by
      unfold Interpreter.query
      simp only [hbuild]
    rw [hquery]
    exact ⟨hready, hnames.trans h.global_eq, h.legal⟩

end Interpreter

end GoalSearch
