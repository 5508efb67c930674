import GoalSearch.Proofs.Interpreter.Refinement

/-!
# Replies do not depend on history

What an interpreter replies to a form depends on its rules and on how deeply they may nest, and on nothing
else that earlier calls have left behind:

    p.SameRules q → (p.eval form).1 = (q.eval form).1 ∧ (p.eval form).2.SameRules (q.eval form).2

(`eval_eq_of_sameRules`). Two queries for one goal build goals with the same outline, each in its own
workspace, and cells that were created for the same token behave alike.
-/

namespace GoalSearch

namespace Interpreter

/-- An interpreter that came about by calls, from which it may also have got errors. -/
def Reachable (p : Interpreter) : Prop := ∃ settings calls, p = (new settings).after calls

/-- The parameters and the body of the rule that has a name. -/
def definition? (p : Interpreter) (name : String) : Option (List String × Expr) :=
  match p.global.find? name with
  | some (.rule r) => some (r.params, r.body)
  | _ => none

/-- Two interpreters have rules of the same names, with the same parameters and bodies. -/
def SameRules (p q : Interpreter) : Prop := ∀ name, p.definition? name = q.definition? name

variable {p q : Interpreter} {rules rules' : NameTable Rule}

theorem Reachable.exists_refines (h : p.Reachable) : ∃ rules, p.Refines rules := by
  obtain ⟨settings, calls, rfl⟩ := h
  exact ⟨_, refines_after settings calls⟩

/-! ## Rules -/

theorem Refines.definition?_eq (h : p.Refines rules) (name : String) :
    p.definition? name = (rules.find? name).map fun r => (r.params, r.body) := by
  unfold definition?
  rw [h.global_eq, NameTable.find?_mapValues]
  cases rules.find? name <;> rfl

/-- Legal rules of one name are the same if their parameters and bodies are. -/
theorem SameRules.find?_eq (h : p.SameRules q) (hp : p.Refines rules) (hq : q.Refines rules') :
    rules.find? = rules'.find? := by
  funext name
  have hname := h name
  rw [hp.definition?_eq, hq.definition?_eq] at hname
  cases hr : rules.find? name with
  | none =>
    rw [hr] at hname
    cases hr' : rules'.find? name with
    | none => rfl
    | some r' =>
      rw [hr'] at hname
      cases hname
  | some r =>
    rw [hr] at hname
    cases hr' : rules'.find? name with
    | none =>
      rw [hr'] at hname
      cases hname
    | some r' =>
      rw [hr'] at hname
      obtain ⟨hparams, hbody⟩ := Prod.mk.inj (Option.some.inj hname)
      have hnames := (hp.legal name r hr).name_eq.trans (hq.legal name r' hr').name_eq.symm
      cases r
      cases r'
      cases hnames
      cases hparams
      cases hbody
      rfl

theorem sameRules_of_find?_eq (h : rules.find? = rules'.find?) (hp : p.Refines rules)
    (hq : q.Refines rules') : p.SameRules q := by
  intro name
  rw [hp.definition?_eq, hq.definition?_eq, h]

theorem find?_insertAll_congr {t t' : NameTable Rule} (h : t.find? = t'.find?) (later : List Rule) :
    (t.insertAll later).find? = (t'.insertAll later).find? := by
  induction later generalizing t t' with
  | nil => exact h
  | cons r later ih =>
    refine @ih (t.insert r.name r) (t'.insert r.name r) ?_
    funext name
    rw [NameTable.find?_insert, NameTable.find?_insert, h]

/-! ## Replies -/

theorem query_eq (hp : p.Refines rules) (hq : q.Refines rules') (hrules : rules.find? = rules'.find?)
    (hdepth : p.settings.maxRuleDepth = q.settings.maxRuleDepth) (goal : Expr) :
    (p.query goal).1 = (q.query goal).1 := by
  cases houtline : outline rules.find? p.settings.maxRuleDepth goal with
  | error e =>
    have houtline' := houtline
    rw [hrules, hdepth] at houtline'
    rw [query_of_outline_error hp.ready hp.legal.wellFormed houtline,
      query_of_outline_error hq.ready hq.legal.wellFormed houtline']
  | ok T =>
    have houtline' := houtline
    rw [hrules, hdepth] at houtline'
    obtain ⟨run, hreply, hshows⟩ := query_of_outline hp.ready hp.legal.wellFormed houtline
    obtain ⟨run', hreply', hshows'⟩ :=
      query_of_outline hq.ready hq.legal.wellFormed houtline'
    obtain ⟨hreport, hprinted⟩ := hshows.answers hshows' faithful_eq T.alike_refl
    rw [hreply, hreply', hreport, hprinted]

theorem define_reply_eq (p q : Interpreter) (name : String) (params : List Expr) (body : Expr) :
    (p.define name params body).1 = (q.define name params body).1 := by
  unfold define
  cases Rule.make name params body <;> rfl

theorem eval_eq (hp : p.Refines rules) (hq : q.Refines rules') (hrules : rules.find? = rules'.find?)
    (hdepth : p.settings.maxRuleDepth = q.settings.maxRuleDepth) (form : Expr) :
    (p.eval form).1 = (q.eval form).1 := by
  unfold eval
  cases Form.ofExpr form with
  | error e => rfl
  | ok f =>
    cases f with
    | define name params body =>
      dsimp only
      rw [define_reply_eq p q]
    | query goal =>
      dsimp only
      rw [query_eq hp hq hrules hdepth]

/-- **Replies do not depend on history.** Two interpreters with the same rules reply to a form alike,
whatever calls they have gone through, and have the same rules afterwards. -/
theorem eval_eq_of_sameRules (hp : p.Reachable) (hq : q.Reachable)
    (hdepth : p.settings.maxRuleDepth = q.settings.maxRuleDepth) (h : p.SameRules q) (form : Expr) :
    (p.eval form).1 = (q.eval form).1 ∧ (p.eval form).2.SameRules (q.eval form).2 := by
  obtain ⟨rules, hp⟩ := hp.exists_refines
  obtain ⟨rules', hq⟩ := hq.exists_refines
  have hrules := h.find?_eq hp hq
  refine ⟨eval_eq hp hq hrules hdepth form, ?_⟩
  exact sameRules_of_find?_eq (find?_insertAll_congr hrules (acceptedForm form)) (hp.eval form)
    (hq.eval form)

/-- Calls that leave the cells of a query that holds and of two builds that fail. -/
def eventful : List Call := [
  .define "same" [.atom "X", .atom "Y"] (.list [.atom ":=:", .atom "X", .atom "Y"]),
  .query (.list [.atom "same", .atom "A", .atom "b"]),
  .query (.list [.atom "and", .list [.atom "same", .atom "A", .atom "c"], .atom "missing"]),
  .eval (.list [.atom "query", .list [.atom "same", .atom "A"]])]

def replacing : List Call := [
  .define "same" [] (.list [.atom "or"]),
  .define "same" [.atom "X", .atom "Y"] (.list [.atom ":=:", .atom "X", .atom "Y"])]

/-- The cell that stood for `b` has no part in a later query for the same variable. -/
theorem eval_eq_of_sameRules_eventful :
    let p := (new .standard).after eventful
    let q := (new .standard).after replacing
    let form : Expr := .list [.atom "query", .list [.atom "and",
      .list [.atom "same", .atom "A", .atom "c"], .list [.atom "print", .atom "A"]]]
    p.workspace.store.size = 4 ∧ q.workspace.store.size = 0 ∧ p.SameRules q ∧
      (p.eval form).1 = (q.eval form).1 ∧ (p.eval form).1.printed = [⟨"c"⟩] := by
  intro p q form
  have htables : NameTable.empty.insertAll ((new .standard).acceptedBy eventful) =
      NameTable.empty.insertAll ((new .standard).acceptedBy replacing) := by rfl
  have hrules : p.SameRules q := sameRules_of_find?_eq (congrArg NameTable.find? htables)
    (refines_after .standard eventful) (refines_after .standard replacing)
  have h := eval_eq_of_sameRules ⟨.standard, eventful, rfl⟩ ⟨.standard, replacing, rfl⟩
    (by decide +kernel) hrules form
  exact ⟨by decide +kernel, by decide +kernel, hrules, h.1, by decide +kernel⟩

end Interpreter

end GoalSearch
