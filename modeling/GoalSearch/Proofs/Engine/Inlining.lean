import GoalSearch.Proofs.Build.Inlining
import GoalSearch.Proofs.Interpreter.Mirror

/-!
# Applying a rule is inlining its body

A query stays the same query if an application in it is replaced by the rule's body, with the arguments
for the parameters and with other names for the body's own variables:

    r.Renames engine.rules.find? (C.fill app) fresh →
      (engine.query (C.fill app)).1.outcome = .ok report →
      (engine.query (C.fill (r.inlined args fresh))).1.outcome = .ok report ∧ …         (query_inlined)

The two builds do not create the same cells. An application shares one cell among all uses of a parameter
and has a scope of its own, and the text in its place creates a cell for every constant and names its
variables beside those of the query. The outlines of the two goals are alike all the same.
-/

namespace GoalSearch

/-- A query with a rule's body in the place of an application gets the same reply, also in a workspace that
holds what earlier queries have left. -/
theorem Interpreter.query_fill {p : Interpreter} {rules : NameTable Rule}
    (h : p.workspace.Ready globalScope rules) (hrules : rules.WellFormed) (C : Expr.Context)
    {name : String} {args : List Expr} {app : Expr} (happ : Expr.AppliesTo name args app) {r : Rule}
    (hr : rules.find? name = some r) {fresh : String → String}
    (hfresh : r.Renames rules.find? (C.fill app) fresh) {report : Report}
    (hreport : (p.query (C.fill app)).1.outcome = .ok report) :
    (p.query (C.fill (r.inlined args fresh))).1 = (p.query (C.fill app)).1 := by
  cases houtline : outline rules.find? p.settings.maxRuleDepth (C.fill app) with
  | error e =>
    rw [query_of_outline_error h hrules houtline] at hreport
    cases hreport
  | ok T =>
    obtain ⟨T', Q, hQ, halike, houtline'⟩ := outline_inlined hrules C happ hr hfresh houtline
    obtain ⟨run, hquery, hshows⟩ := query_of_outline h hrules houtline
    obtain ⟨run', hquery', hshows'⟩ := query_of_outline h hrules houtline'
    obtain ⟨hreports, hprinted⟩ := hshows.answers hshows' hQ halike
    rw [hquery, hquery', hreports, hprinted]

namespace Engine

/-- **Applying a rule is inlining its body.** The rules may be any whose parameters are different variables,
at any limit to their nesting, and the application may be anywhere among the goal's own conjunctions and
disjunctions. -/
theorem query_inlined (engine : Engine) (hrules : engine.rules.WellFormed) (C : Expr.Context)
    {name : String} {args : List Expr} {app : Expr} (happ : Expr.AppliesTo name args app) {r : Rule}
    (hr : engine.rules.find? name = some r) {fresh : String → String}
    (hfresh : r.Renames engine.rules.find? (C.fill app) fresh) {report : Report}
    (hreport : (engine.query (C.fill app)).1.outcome = .ok report) :
    (engine.query (C.fill (r.inlined args fresh))).1.outcome = .ok report ∧
      (engine.query (C.fill (r.inlined args fresh))).1.printed =
        (engine.query (C.fill app)).1.printed := by
  have houtcome : ∀ goal, (engine.query goal).1.outcome = (engine.interpreter.query goal).1.outcome :=
    fun goal => congrArg Reply.outcome (engine.reply_query goal)
  have hprinted : ∀ goal, (engine.query goal).1.printed = (engine.interpreter.query goal).1.printed :=
    fun goal => congrArg Reply.printed (engine.reply_query goal)
  rw [houtcome] at hreport ⊢
  rw [hprinted, hprinted, Interpreter.query_fill engine.ready_interpreter hrules C happ hr hfresh hreport]
  exact ⟨hreport, rfl⟩

/-- A rule with a variable of its own. -/
def linkRule : Rule :=
  ⟨"link", ["X", "Y"], .list [.atom "and",
    .list [.atom "same", .atom "X", .atom "Z"], .list [.atom ":=:", .atom "Z", .atom "Y"],
    .list [.atom "print", .atom "Z"]]⟩

/-- The query has variables of the same names as the rule. They are not captured, on either side. -/
theorem query_inlined_link :
    let engine := [Interpreter.Call.define "same" [.atom "X", .atom "Y"]
        (.list [.atom ":=:", .atom "X", .atom "Y"]),
      .define "link" [.atom "X", .atom "Y"] linkRule.body].foldl call (new .standard)
    let C : Expr.Context := .and [.list [.atom ":=:", .atom "Z", .atom "b"]]
      (.or [.list [.atom "same", .atom "a", .atom "b"]] .hole []) [.list [.atom "print", .atom "X"]]
    let args : List Expr := [.atom "a", .atom "X"]
    let app : Expr := .list (.atom "link" :: args)
    let fresh : String → String := fun _ => "Z2"
    (C.fill app).text = "(and (:=: Z b) (or (same a b) (link a X)) (print X))" ∧
      (linkRule.inlined args fresh).text = "(and (same a Z2) (:=: Z2 X) (print Z2))" ∧
      (engine.query (C.fill (linkRule.inlined args fresh))).1.printed = [⟨"a"⟩, ⟨"a"⟩] ∧
      ∃ report, (engine.query (C.fill app)).1.outcome = .ok report ∧
        (engine.query (C.fill (linkRule.inlined args fresh))).1.outcome = .ok report := by
  intro engine C args app fresh
  have hwf : engine.rules.WellFormed :=
    (Interpreter.mirrors_after .standard [_, _]).refines.legal.wellFormed
  have happ : Expr.AppliesTo "link" args app := .list (by decide) args
  have hfresh : linkRule.Renames engine.rules.find? (C.fill app) fresh := {
    injective := by decide +kernel
    isVariable := by decide +kernel
    new := by decide +kernel
    unnamed := fun _ _ => by rfl }
  obtain ⟨report, hreport⟩ : ∃ report, (engine.query (C.fill app)).1.outcome = .ok report :=
    Interpreter.exists_ok_of_isSome (by decide +kernel)
  obtain ⟨hreport', hprinted⟩ := engine.query_inlined hwf C happ (by rfl) hfresh hreport
  refine ⟨by decide +kernel, by decide +kernel, ?_, report, hreport, hreport'⟩
  rw [hprinted]
  decide +kernel

end Engine

end GoalSearch
