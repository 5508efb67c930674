import GoalSearch.Rule
import GoalSearch.Proofs.Rule
import Mathlib.Data.List.Nodup
import Mathlib.Logic.Equiv.Basic

/-!
# Other names for variables

A renaming gives other names to the variables of a rule or of a query (`Rule.renamed`, `Expr.renamed`). It
takes different variables to different variables, and it leaves alone what is no variable: constants,
keywords, and relations, since a rule may also be named like a variable. Each rule of a table may have a
renaming of its own (`NameTable.renamed`). Nothing is then found under another name than before:

    (rules.renamed ρ).find? (σ.name x) = (rules.find? x).map (·.renamed (ρ x))          (find?_renamed_name)
-/

namespace GoalSearch

/-- Other names for variables, in a text that knows the rules of a table. -/
structure Renaming (rules : NameTable Rule) where
  /-- The other name of a variable. -/
  map : String → String
  isVariable : ∀ {x}, isVariableName x = true → isVariableName (map x) = true
  injective : ∀ {x y}, isVariableName x = true → isVariableName y = true → map x = map y → x = y
  /-- The names of rules stay. -/
  fixed : ∀ {x}, isVariableName x = true → (rules.find? x).isSome = true → map x = x

variable {rules : NameTable Rule}

namespace Renaming

/-- What becomes of a name. Only variables get other names. -/
def name (σ : Renaming rules) (x : String) : String := if isVariableName x then σ.map x else x

variable (σ : Renaming rules) {x y : String}

theorem name_of_isVariable (h : isVariableName x = true) : σ.name x = σ.map x := if_pos h

theorem name_of_not_isVariable (h : isVariableName x = false) : σ.name x = x :=
  if_neg (Bool.eq_false_iff.mp h)

@[simp] theorem isVariableName_name (x : String) : isVariableName (σ.name x) = isVariableName x := by
  cases hx : isVariableName x with
  | false => rw [σ.name_of_not_isVariable hx, hx]
  | true => rw [σ.name_of_isVariable hx, σ.isVariable hx]

theorem name_injective : Function.Injective σ.name := by
  intro x y h
  have hvar : isVariableName x = isVariableName y := by
    rw [← σ.isVariableName_name x, h, σ.isVariableName_name]
  cases hy : isVariableName y with
  | false => rwa [σ.name_of_not_isVariable (hvar.trans hy), σ.name_of_not_isVariable hy] at h
  | true =>
    rw [σ.name_of_isVariable (hvar.trans hy), σ.name_of_isVariable hy] at h
    exact σ.injective (hvar.trans hy) hy h

/-! ### Names that stay -/

/-- What has a value for names that stay only has the same value for whatever becomes of a name. -/
theorem apply_name {α : Type} (f : String → Option α)
    (hfixed : ∀ {x}, (f x).isSome = true → σ.name x = x) (x : String) : f (σ.name x) = f x := by
  cases hname : f (σ.name x) with
  | some v =>
    rw [σ.name_injective (hfixed (by rw [hname]; rfl))] at hname
    exact hname.symm
  | none =>
    cases hx : f x with
    | none => rfl
    | some v =>
      rw [hfixed (by rw [hx]; rfl), hx] at hname
      cases hname

theorem name_of_rule (h : (rules.find? x).isSome = true) : σ.name x = x := by
  cases hx : isVariableName x with
  | false => exact σ.name_of_not_isVariable hx
  | true =>
    rw [σ.name_of_isVariable hx]
    exact σ.fixed hx h

theorem find?_name (x : String) : rules.find? (σ.name x) = rules.find? x :=
  σ.apply_name rules.find? σ.name_of_rule x

theorem name_of_keyword (h : isReserved x = true) : σ.name x = x := by
  obtain ⟨k, hk⟩ := Option.isSome_iff_exists.mp h
  refine σ.name_of_not_isVariable ?_
  rw [← Keyword.text_of_ofText? hk]
  cases k <;> decide +kernel

theorem ofText?_name (x : String) : Keyword.ofText? (σ.name x) = Keyword.ofText? x :=
  σ.apply_name Keyword.ofText? σ.name_of_keyword x

/-- Two variables that name no rule exchange their names. -/
def swap (x y : String) (hx : isVariableName x = true) (hy : isVariableName y = true)
    (hx' : rules.find? x = none) (hy' : rules.find? y = none) : Renaming rules where
  map := Equiv.swap x y
  isVariable := by
    intro z hz
    rw [Equiv.swap_apply_def]
    split
    · exact hy
    · split
      · exact hx
      · exact hz
  injective := fun _ _ h => (Equiv.swap x y).injective h
  fixed := by
    intro z _ hz
    refine Equiv.swap_apply_of_ne_of_ne ?_ ?_
    · rintro rfl
      simp [hx'] at hz
    · rintro rfl
      simp [hy'] at hz

end Renaming

/-! ## Texts -/

namespace Expr

mutual

def renamed (σ : Renaming rules) : Expr → Expr
  | .atom x => .atom (σ.name x)
  | .list items => .list (renamedAll σ items)

def renamedAll (σ : Renaming rules) : List Expr → List Expr
  | [] => []
  | e :: later => renamed σ e :: renamedAll σ later

end

variable (σ : Renaming rules)

@[simp] theorem renamed_atom (x : String) : (Expr.atom x).renamed σ = .atom (σ.name x) := rfl

@[simp] theorem renamed_list (items : List Expr) :
    (Expr.list items).renamed σ = .list (items.map (renamed σ)) := by
  have hmap : ∀ es, renamedAll σ es = es.map (renamed σ) := by
    intro es
    induction es with
    | nil => rfl
    | cons e later ih =>
      show renamed σ e :: renamedAll σ later = _
      rw [ih, List.map_cons]
  show Expr.list (renamedAll σ items) = _
  rw [hmap]

end Expr

/-- An error with other names for the variables that it tells. -/
def BuildError.renamed (σ : Renaming rules) : BuildError → BuildError
  | .arity form expected found => .arity (σ.name form) expected found
  | .expectedIdentifier found => .expectedIdentifier (found.renamed σ)
  | .expectedTerm name => .expectedTerm (σ.name name)
  | .notARelation found => .notARelation (found.renamed σ)
  | .unknownRelation name => .unknownRelation (σ.name name)
  | .emptyGoal => .emptyGoal
  | .ruleDepthExceeded name limit => .ruleDepthExceeded (σ.name name) limit
  | .reservedName name => .reservedName (σ.name name)
  | .invalidParameter rule param => .invalidParameter (σ.name rule) (param.renamed σ)
  | .duplicateParameter rule param => .duplicateParameter (σ.name rule) (σ.name param)
  | .malformedForm form expected => .malformedForm (form.renamed σ) expected

/-! ## Rules -/

namespace Rule

/-- A rule with other names for its parameters and for the other variables of its body. -/
def renamed (σ : Renaming rules) (r : Rule) : Rule :=
  { r with params := r.params.map σ.name, body := r.body.renamed σ }

@[simp] theorem arity_renamed (σ : Renaming rules) (r : Rule) : (r.renamed σ).arity = r.arity :=
  List.length_map σ.name

theorem WellFormed.renamed {r : Rule} (h : r.WellFormed) (σ : Renaming rules) :
    (r.renamed σ).WellFormed where
  nodup := List.Nodup.map σ.name_injective h.nodup
  isVariable := by
    intro param hparam
    obtain ⟨x, hx, rfl⟩ := List.mem_map.mp hparam
    rw [σ.isVariableName_name]
    exact h.isVariable x hx

end Rule

namespace NameTable

def renamed (rules : NameTable Rule) (ρ : String → Renaming rules) : NameTable Rule :=
  ⟨rules.entries.map fun (name, r) => (name, r.renamed (ρ name))⟩

variable (ρ : String → Renaming rules)

theorem find?_renamed (name : String) :
    (rules.renamed ρ).find? name = (rules.find? name).map (·.renamed (ρ name)) := by
  unfold find? renamed
  induction rules.entries with
  | nil => rfl
  | cons entry rest ih =>
    obtain ⟨n, r⟩ := entry
    rw [List.map_cons, lookup_entry, lookup_entry, ih]
    by_cases h : name = n
    · rw [if_pos h, if_pos h, h, Option.map_some]
    · rw [if_neg h, if_neg h]

/-- A name under a renaming names the rule that it named, with that rule's own renaming. -/
theorem find?_renamed_name (σ : Renaming rules) (x : String) :
    (rules.renamed ρ).find? (σ.name x) = (rules.find? x).map (·.renamed (ρ x)) := by
  rw [find?_renamed, σ.find?_name]
  cases hrule : rules.find? x with
  | none => rfl
  | some r => rw [σ.name_of_rule (by rw [hrule]; rfl)]

theorem WellFormed.renamed (h : rules.WellFormed) : (rules.renamed ρ).WellFormed := by
  intro name r' hr'
  rw [find?_renamed] at hr'
  obtain ⟨r, hr, rfl⟩ := Option.map_eq_some_iff.mp hr'
  exact (h name r hr).renamed (ρ name)

end NameTable

end GoalSearch
