import GoalSearch.NameTable
import GoalSearch.Rule

/-!
# Legal rules

What a definition checks before it keeps a rule (`Rule.legal_of_make`), said of the rule it keeps.
-/

namespace GoalSearch

namespace Rule

/-- A rule as definitions make them: it knows its name, which is no keyword, and its parameters are
different variables. -/
structure Legal (name : String) (r : Rule) : Prop where
  name_eq : r.name = name
  unreserved : isReserved name = false
  nodup : r.params.Nodup
  isVariable : ∀ param ∈ r.params, isVariableName param = true

/-- A rule whose parameters are different variables, whatever its name. -/
structure WellFormed (r : Rule) : Prop where
  nodup : r.params.Nodup
  isVariable : ∀ param ∈ r.params, isVariableName param = true

theorem Legal.wellFormed {name : String} {r : Rule} (h : r.Legal name) : r.WellFormed :=
  ⟨h.nodup, h.isVariable⟩

/-- The names of a parameter list are different variables, and none of them came earlier. -/
theorem paramNames_ok {rule : String} {earlier names : List String} {params : List Expr}
    (h : paramNames rule earlier params = .ok names) :
    names.Nodup ∧ ∀ name ∈ names, isVariableName name = true ∧ name ∉ earlier := by
  induction params generalizing earlier names with
  | nil =>
    cases h
    simp
  | cons param rest ih =>
    rw [paramNames] at h
    cases param with
    | list items => cases h
    | atom name =>
      cases hvar : isVariableName name with
      | false =>
        simp only [Expr.atomText?, hvar, Bool.not_false, if_true] at h
        cases h
      | true =>
        simp only [Expr.atomText?, hvar, Bool.not_true, Bool.false_eq_true, if_false] at h
        by_cases hearlier : name ∈ earlier
        · rw [if_pos hearlier] at h
          cases h
        · rw [if_neg hearlier] at h
          cases hrest : paramNames rule (name :: earlier) rest with
          | error e =>
            rw [hrest] at h
            cases h
          | ok later =>
            rw [hrest] at h
            cases h
            obtain ⟨hnodup, hlater⟩ := ih hrest
            refine ⟨List.nodup_cons.mpr ⟨?_, hnodup⟩, ?_⟩
            · intro hmem
              exact (hlater name hmem).2 List.mem_cons_self
            · intro n hn
              rcases List.mem_cons.mp hn with rfl | hn
              · exact ⟨hvar, hearlier⟩
              · obtain ⟨hnvar, hnot⟩ := hlater n hn
                exact ⟨hnvar, fun hmem => hnot (List.mem_cons_of_mem name hmem)⟩

theorem legal_of_make {name : String} {params : List Expr} {body : Expr} {r : Rule}
    (h : make name params body = .ok r) : r.Legal name ∧ r.body = body := by
  unfold make at h
  cases hreserved : isReserved name with
  | true =>
    simp only [hreserved, if_true] at h
    cases h
  | false =>
    simp only [hreserved, Bool.false_eq_true, if_false] at h
    cases hnames : paramNames name [] params with
    | error e =>
      rw [hnames] at h
      cases h
    | ok names =>
      rw [hnames] at h
      cases h
      obtain ⟨hnodup, hvariables⟩ := paramNames_ok hnames
      exact ⟨⟨rfl, hreserved, hnodup, fun n hn => (hvariables n hn).1⟩, rfl⟩

end Rule

/-- A table of legal rules, each under its name. -/
def NameTable.Legal (rules : NameTable Rule) : Prop :=
  ∀ name r, rules.find? name = some r → r.Legal name

/-- A table of rules whose parameters are different variables. -/
def NameTable.WellFormed (rules : NameTable Rule) : Prop :=
  ∀ name r, rules.find? name = some r → r.WellFormed

theorem NameTable.Legal.wellFormed {rules : NameTable Rule} (h : rules.Legal) : rules.WellFormed :=
  fun name r hr => (h name r hr).wellFormed

theorem NameTable.legal_empty : (NameTable.empty : NameTable Rule).Legal := by
  intro name r h
  cases h

theorem NameTable.Legal.insert {rules : NameTable Rule} (h : rules.Legal) {name : String}
    {r : Rule} (hr : r.Legal name) : (rules.insert name r).Legal := by
  intro other r' h'
  rw [NameTable.find?_insert] at h'
  by_cases hother : other = name
  · rw [if_pos hother, Option.some.injEq] at h'
    rw [hother, ← h']
    exact hr
  · rw [if_neg hother] at h'
    exact h other r' h'

end GoalSearch
