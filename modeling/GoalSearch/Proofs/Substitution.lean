import GoalSearch.Rule
import GoalSearch.Proofs.Rule

/-!
# Rule bodies in place of applications

The text that an application of a rule stands for (`Rule.inlined`): the body with the arguments in the
place of the parameters, and with other names for the variables of its own. Only names in the place of
terms are replaced. Heads of goals name relations and stay.
-/

namespace GoalSearch

namespace Expr

/-! ## Terms of goals -/

/-- A term with another expression in the place of its name. -/
def substTerm (σ : String → Expr) : Expr → Expr
  | .atom x => σ x
  | .list items => .list items

mutual

/-- A goal with other expressions in the place of the names of its terms. -/
def substGoal (σ : String → Expr) : Expr → Expr
  | .list (.atom head :: args) =>
    match Keyword.ofText? head with
    | some .and | some .or => .list (.atom head :: substGoals σ args)
    | _ => .list (.atom head :: args.map (substTerm σ))
  | e => e

def substGoals (σ : String → Expr) : List Expr → List Expr
  | [] => []
  | e :: later => substGoal σ e :: substGoals σ later

end

mutual

/-- The names of the terms of a goal. -/
def termNames : Expr → List String
  | .list (.atom head :: args) =>
    match Keyword.ofText? head with
    | some .and | some .or => termNamesOfAll args
    | _ => args.filterMap atomText?
  | _ => []

def termNamesOfAll : List Expr → List String
  | [] => []
  | e :: later => termNames e ++ termNamesOfAll later

end

mutual

def names : Expr → List String
  | .atom name => [name]
  | .list items => namesOfAll items

def namesOfAll : List Expr → List String
  | [] => []
  | e :: later => names e ++ namesOfAll later

end

variable {σ : String → Expr} {name x : String} {e : Expr} {es args : List Expr}

theorem substGoal_list (head : String) (args : List Expr) :
    substGoal σ (.list (.atom head :: args)) =
      match Keyword.ofText? head with
      | some .and | some .or => .list (.atom head :: substGoals σ args)
      | _ => .list (.atom head :: args.map (substTerm σ)) := rfl

theorem termNames_list (head : String) (args : List Expr) :
    termNames (.list (.atom head :: args)) =
      match Keyword.ofText? head with
      | some .and | some .or => termNamesOfAll args
      | _ => args.filterMap atomText? := rfl

theorem substGoals_eq_map (es : List Expr) : substGoals σ es = es.map (substGoal σ) := by
  induction es with
  | nil => rfl
  | cons e later ih =>
    show substGoal σ e :: substGoals σ later = _
    rw [ih, List.map_cons]

theorem mem_termNamesOfAll : x ∈ termNamesOfAll es ↔ ∃ e ∈ es, x ∈ e.termNames := by
  induction es with
  | nil => exact iff_of_false List.not_mem_nil fun ⟨_, he, _⟩ => List.not_mem_nil he
  | cons e later ih =>
    show x ∈ termNames e ++ termNamesOfAll later ↔ _
    simp [ih]

theorem mem_namesOfAll : x ∈ namesOfAll es ↔ ∃ e ∈ es, x ∈ e.names := by
  induction es with
  | nil => exact iff_of_false List.not_mem_nil fun ⟨_, he, _⟩ => List.not_mem_nil he
  | cons e later ih =>
    show x ∈ names e ++ namesOfAll later ↔ _
    simp [ih]

/-! ### Equations and prints -/

theorem substGoal_print (y : Expr) : substGoal σ (.list [.atom Keyword.print.text, y]) =
    .list [.atom Keyword.print.text, substTerm σ y] := by
  rw [substGoal_list, Keyword.ofText?_text]
  rfl

theorem substGoal_equal (y z : Expr) : substGoal σ (.list [.atom Keyword.equal.text, y, z]) =
    .list [.atom Keyword.equal.text, substTerm σ y, substTerm σ z] := by
  rw [substGoal_list, Keyword.ofText?_text]
  rfl

theorem termNames_print (y : Expr) :
    termNames (.list [.atom Keyword.print.text, y]) = [y].filterMap atomText? := by
  rw [termNames_list, Keyword.ofText?_text]

theorem termNames_equal (y z : Expr) :
    termNames (.list [.atom Keyword.equal.text, y, z]) = [y, z].filterMap atomText? := by
  rw [termNames_list, Keyword.ofText?_text]

/-! ### Conjunctions and disjunctions -/

theorem substGoal_and (es : List Expr) : substGoal σ (.list (.atom Keyword.and.text :: es)) =
    .list (.atom Keyword.and.text :: es.map (substGoal σ)) := by
  rw [substGoal_list, Keyword.ofText?_text, ← substGoals_eq_map]

theorem substGoal_or (es : List Expr) : substGoal σ (.list (.atom Keyword.or.text :: es)) =
    .list (.atom Keyword.or.text :: es.map (substGoal σ)) := by
  rw [substGoal_list, Keyword.ofText?_text, ← substGoals_eq_map]

theorem termNames_and (es : List Expr) :
    termNames (.list (.atom Keyword.and.text :: es)) = termNamesOfAll es := by
  rw [termNames_list, Keyword.ofText?_text]

theorem termNames_or (es : List Expr) :
    termNames (.list (.atom Keyword.or.text :: es)) = termNamesOfAll es := by
  rw [termNames_list, Keyword.ofText?_text]

/-! ### Applications -/

theorem substGoal_application (h : isGoalForm name = false) (args : List Expr) :
    substGoal σ (.list (.atom name :: args)) =
      .list (.atom name :: args.map (substTerm σ)) := by
  rw [substGoal_list]
  unfold isGoalForm at h
  cases hk : Keyword.ofText? name with
  | none => rfl
  | some k =>
    rw [hk] at h
    cases k <;> first | rfl | cases h

theorem termNames_application (h : isGoalForm name = false) (args : List Expr) :
    termNames (.list (.atom name :: args)) = args.filterMap atomText? := by
  rw [termNames_list]
  unfold isGoalForm at h
  cases hk : Keyword.ofText? name with
  | none => rfl
  | some k =>
    rw [hk] at h
    cases k <;> first | rfl | cases h

/-! ### Every goal -/

theorem substTerm_atom (e : Expr) : substTerm .atom e = e := by
  cases e <;> rfl

/-- Nothing changes if every name stays. -/
theorem substGoal_atom (e : Expr) : substGoal .atom e = e := by
  induction e using Expr.induction with
  | atom name => rfl
  | list items ih =>
    match items, ih with
    | [], _ => rfl
    | .list items :: _, _ => rfl
    | .atom head :: args, ih =>
      have hgoals : substGoals .atom args = args := by
        rw [substGoals_eq_map]
        refine (List.map_congr_left fun e he => ih e (List.mem_cons_of_mem _ he)).trans ?_
        simp
      have hterms : args.map (substTerm .atom) = args :=
        (List.map_congr_left fun e _ => substTerm_atom e).trans (List.map_id' args)
      rw [substGoal_list]
      split
      · rw [hgoals]
      · rw [hgoals]
      · rw [hterms]

theorem map_substGoal_atom (es : List Expr) : es.map (substGoal .atom) = es :=
  (List.map_congr_left fun e _ => substGoal_atom e).trans (List.map_id' es)

/-- A name of a term is a name of the goal. -/
theorem mem_names_of_mem_termNames (h : x ∈ e.termNames) : x ∈ e.names := by
  induction e using Expr.induction with
  | atom name => cases h
  | list items ih =>
    match items, ih with
    | [], _ => cases h
    | .list items :: _, _ => cases h
    | .atom head :: args, ih =>
      refine mem_namesOfAll.mpr ?_
      have hgoals : x ∈ termNamesOfAll args → ∃ e ∈ Expr.atom head :: args, x ∈ e.names := by
        intro hx
        obtain ⟨e, he, hx⟩ := mem_termNamesOfAll.mp hx
        exact ⟨e, List.mem_cons_of_mem _ he, ih e (List.mem_cons_of_mem _ he) hx⟩
      rw [termNames_list] at h
      split at h
      · exact hgoals h
      · exact hgoals h
      · obtain ⟨e, he, hx⟩ := List.mem_filterMap.mp h
        refine ⟨e, List.mem_cons_of_mem _ he, ?_⟩
        cases e with
        | list items => cases hx
        | atom y =>
          cases hx
          exact List.mem_singleton_self x

/-! ## Places of goals -/

/-- A goal with a place in it, below conjunctions and disjunctions. -/
inductive Context where
  | hole
  | and (before : List Expr) (inner : Context) (after : List Expr)
  | or (before : List Expr) (inner : Context) (after : List Expr)

/-- The goal with an expression in its place. -/
def Context.fill : Context → Expr → Expr
  | .hole, e => e
  | .and before inner after, e => .list (.atom Keyword.and.text :: (before ++ inner.fill e :: after))
  | .or before inner after, e => .list (.atom Keyword.or.text :: (before ++ inner.fill e :: after))

/-- A goal with a place in it has the names of its parts. -/
theorem forall_names_fill {P : String → Prop} {before after : List Expr} {e : Expr}
    (h : ∀ x ∈ names (.list (.atom name :: (before ++ e :: after))), P x) :
    (∀ x ∈ namesOfAll before, P x) ∧ (∀ x ∈ e.names, P x) ∧ ∀ x ∈ namesOfAll after, P x := by
  have hall : ∀ e' ∈ before ++ e :: after, ∀ x ∈ e'.names, P x := by
    intro e' he' x hx
    exact h x (mem_namesOfAll.mpr ⟨e', List.mem_cons_of_mem _ he', hx⟩)
  refine ⟨?_, hall e (by simp), ?_⟩
  · intro x hx
    obtain ⟨e', he', hx⟩ := mem_namesOfAll.mp hx
    exact hall e' (by simp [he']) x hx
  · intro x hx
    obtain ⟨e', he', hx⟩ := mem_namesOfAll.mp hx
    exact hall e' (by simp [he']) x hx

theorem Context.mem_names_fill (C : Context) (h : x ∈ e.names) : x ∈ (C.fill e).names := by
  have hinner : ∀ (before after : List Expr) {e' : Expr}, x ∈ e'.names →
      ∀ head, x ∈ names (.list (.atom head :: (before ++ e' :: after))) := by
    intro before after e' he' head
    exact mem_namesOfAll.mpr ⟨e', by simp, he'⟩
  induction C with
  | hole => exact h
  | and before inner after ih => exact hinner before after ih _
  | or before inner after ih => exact hinner before after ih _

/-- An expression is the application of a name to arguments. A bare name has none. -/
inductive AppliesTo (name : String) : List Expr → Expr → Prop where
  | bare : AppliesTo name [] (.atom name)
  | list (h : isGoalForm name = false) (args : List Expr) :
      AppliesTo name args (.list (.atom name :: args))

theorem AppliesTo.mem_names (h : AppliesTo name args e) (hx : x ∈ args.filterMap atomText?) :
    x ∈ e.names := by
  cases h with
  | bare => cases hx
  | list hname args =>
    refine mem_names_of_mem_termNames ?_
    rw [termNames_application hname]
    exact hx

end Expr

namespace Rule

/-- The variables of a body that are no parameters. -/
def locals (r : Rule) : List String :=
  r.body.termNames.filter fun x => isVariableName x && !r.params.contains x

/-- What a name of the body stands for in the text of an application. -/
def replacement (r : Rule) (args : List Expr) (fresh : String → String) (x : String) : Expr :=
  match (r.params.zip args).lookup x with
  | some arg => arg
  | none => if isVariableName x then .atom (fresh x) else .atom x

/-- The text that stands for an application of the rule. -/
def inlined (r : Rule) (args : List Expr) (fresh : String → String) : Expr :=
  r.body.substGoal (r.replacement args fresh)

/-- Other names for the variables of a body that are no parameters: different variables that do not occur
in a goal and name no rule. -/
structure Renames (r : Rule) (rules : String → Option Rule) (goal : Expr)
    (fresh : String → String) : Prop where
  injective : ∀ x ∈ r.locals, ∀ y ∈ r.locals, fresh x = fresh y → x = y
  isVariable : ∀ x ∈ r.locals, isVariableName (fresh x) = true
  new : ∀ x ∈ r.locals, fresh x ∉ goal.names
  unnamed : ∀ x ∈ r.locals, rules (fresh x) = none

theorem mem_locals {r : Rule} {x : String} : x ∈ r.locals ↔
    x ∈ r.body.termNames ∧ isVariableName x = true ∧ x ∉ r.params := by
  simp [locals]

end Rule

end GoalSearch
