import GoalSearch.Proofs.Rule
import GoalSearch.Store
import Mathlib.Data.List.Basic
import Mathlib.Logic.Function.Basic

/-!
# Truth of goals

What a goal expression says, apart from how it is built or searched for. Variables stand for symbols and
constants for themselves. An equation says that both sides stand for the same, `and` that all goals hold
and `or` that some goal does. The application of a rule says that the rule's body holds with the
arguments in the place of the parameters, and with some symbols in the place of its other variables:

    Holds rules σ (r t₁ … tₙ)  ↔  ∃ ρ, r.params.map ρ = [t₁, …, tₙ].map (denote σ) ∧
      Holds rules ρ r.body                                                (holds_application_iff)
-/

namespace GoalSearch

abbrev Assignment := String → Symbol

/-- What a name in the place of a term stands for. -/
def denote (σ : Assignment) (name : String) : Symbol :=
  if isVariableName name then σ name else ⟨name⟩

theorem denote_of_variable {σ : Assignment} {name : String} (h : isVariableName name = true) :
    denote σ name = σ name := by
  simp [denote, h]

theorem denote_of_constant {σ : Assignment} {name : String} (h : isVariableName name = false) :
    denote σ name = ⟨name⟩ := by
  simp [denote, h]

/-- Whether a goal expression holds, given the rules, when its variables stand for symbols. -/
inductive Holds (rules : NameTable Rule) : Assignment → Expr → Prop where
  | equal {σ : Assignment} {t u : String} (h : denote σ t = denote σ u) :
      Holds rules σ (.list [.atom Keyword.equal.text, .atom t, .atom u])
  | and {σ : Assignment} {es : List Expr} (h : ∀ e ∈ es, Holds rules σ e) :
      Holds rules σ (.list (.atom Keyword.and.text :: es))
  | or {σ : Assignment} {es : List Expr} {e : Expr} (he : e ∈ es) (h : Holds rules σ e) :
      Holds rules σ (.list (.atom Keyword.or.text :: es))
  /-- The body of a rule holds of the arguments. -/
  | application {σ ρ : Assignment} {name : String} {r : Rule} {args : List String}
      (hr : rules.find? name = some r) (hargs : r.params.map ρ = args.map (denote σ))
      (hbody : Holds rules ρ r.body) : Holds rules σ (.list (.atom name :: args.map .atom))
  /-- The body of a rule without parameters holds. -/
  | bare {σ ρ : Assignment} {name : String} {r : Rule} (hr : rules.find? name = some r)
      (hparams : r.params = []) (hbody : Holds rules ρ r.body) : Holds rules σ (.atom name)

/-- What the application of a name to terms says. -/
def Applies (rules : NameTable Rule) (name : String) (args : List Expr) (σ : Assignment) : Prop :=
  ∃ (r : Rule) (ρ : Assignment) (names : List String), rules.find? name = some r ∧
    args = names.map .atom ∧ r.params.map ρ = names.map (denote σ) ∧ Holds rules ρ r.body

/-! ## What each form says -/

variable {rules : NameTable Rule} {σ : Assignment}

theorem not_applies (hrules : rules.Legal) (name : String) (hname : isGoalForm name = true)
    {args : List Expr} : ¬Applies rules name args σ := by
  rintro ⟨r, ρ, names, hr, -⟩
  have hkeyword := isGoalForm_of_not_isReserved (hrules name r hr).unreserved
  rw [hname] at hkeyword
  cases hkeyword

theorem holds_list_iff {head : String} {args : List Expr} :
    Holds rules σ (.list (.atom head :: args)) ↔
      (head = Keyword.equal.text ∧
        ∃ t u, args = [.atom t, .atom u] ∧ denote σ t = denote σ u) ∨
      (head = Keyword.and.text ∧ ∀ e ∈ args, Holds rules σ e) ∨
      (head = Keyword.or.text ∧ ∃ e ∈ args, Holds rules σ e) ∨
      Applies rules head args σ := by
  constructor
  · intro h
    cases h with
    | equal h => exact .inl ⟨rfl, _, _, rfl, h⟩
    | and h => exact .inr (.inl ⟨rfl, h⟩)
    | or he h => exact .inr (.inr (.inl ⟨rfl, _, he, h⟩))
    | application hr hargs hbody => exact .inr (.inr (.inr ⟨_, _, _, hr, rfl, hargs, hbody⟩))
  · rintro (⟨rfl, t, u, rfl, h⟩ | ⟨rfl, h⟩ | ⟨rfl, e, he, h⟩ | ⟨r, ρ, names, hr, rfl, hargs, hbody⟩)
    · exact .equal h
    · exact .and h
    · exact .or he h
    · exact .application hr hargs hbody

theorem holds_equal_iff (hrules : rules.Legal) {t u : String} :
    Holds rules σ (.list [.atom Keyword.equal.text, .atom t, .atom u]) ↔
      denote σ t = denote σ u := by
  rw [holds_list_iff]
  constructor
  · rintro (⟨-, _, _, hargs, h⟩ | ⟨hhead, -⟩ | ⟨hhead, -⟩ | h)
    · cases hargs
      exact h
    · cases Keyword.text_injective hhead
    · cases Keyword.text_injective hhead
    · exact absurd h (not_applies hrules _ rfl)
  · intro h
    exact .inl ⟨rfl, t, u, rfl, h⟩

theorem holds_and_iff (hrules : rules.Legal) {es : List Expr} :
    Holds rules σ (.list (.atom Keyword.and.text :: es)) ↔ ∀ e ∈ es, Holds rules σ e := by
  rw [holds_list_iff]
  simp [Keyword.text, not_applies hrules "and" rfl]

theorem holds_or_iff (hrules : rules.Legal) {es : List Expr} :
    Holds rules σ (.list (.atom Keyword.or.text :: es)) ↔ ∃ e ∈ es, Holds rules σ e := by
  rw [holds_list_iff]
  simp [Keyword.text, not_applies hrules "or" rfl]

theorem holds_application_iff {name : String} (hname : isGoalForm name = false)
    {args : List Expr} :
    Holds rules σ (.list (.atom name :: args)) ↔ Applies rules name args σ := by
  have hne : ∀ {k : Keyword}, isGoalForm k.text = true → name ≠ k.text := by
    rintro k hk rfl
    rw [hname] at hk
    cases hk
  rw [holds_list_iff]
  simp [hne (k := .equal) rfl, hne (k := .and) rfl, hne (k := .or) rfl]

theorem holds_atom_iff {name : String} :
    Holds rules σ (.atom name) ↔ Applies rules name [] σ := by
  constructor
  · intro h
    cases h with
    | bare hr hparams hbody => exact ⟨_, _, [], hr, rfl, by simp [hparams], hbody⟩
  · rintro ⟨r, ρ, names, hr, hnames, hargs, hbody⟩
    obtain rfl := List.map_eq_nil_iff.mp hnames.symm
    exact .bare hr (List.map_eq_nil_iff.mp hargs) hbody

/-! ## The variables of a body -/

/-- Different parameters can stand for any symbols. -/
theorem exists_map_eq {params : List String} (hnodup : params.Nodup) {values : List Symbol}
    (hlen : values.length = params.length) : ∃ ρ : Assignment, params.map ρ = values := by
  induction params generalizing values with
  | nil =>
    obtain rfl := List.length_eq_zero_iff.mp hlen
    exact ⟨fun _ => ⟨""⟩, rfl⟩
  | cons param params ih =>
    match values with
    | [] => cases hlen
    | v :: values =>
      obtain ⟨hnew, hnodup⟩ := List.nodup_cons.mp hnodup
      obtain ⟨ρ, hρ⟩ := ih hnodup (Nat.succ.inj hlen)
      refine ⟨Function.update ρ param v, ?_⟩
      rw [List.map_cons, Function.update_self, ← hρ]
      congr 1
      refine List.map_congr_left fun p hp => Function.update_of_ne ?_ v ρ
      rintro rfl
      exact hnew hp

/-- The parameters stand for what arguments denote, and the other variables of the body are chosen so
that it holds, if they can be. -/
theorem exists_body_assignment {name : String} {r : Rule} (hr : rules.find? name = some r)
    (hnodup : r.params.Nodup) {names : List String} (hlen : names.length = r.params.length)
    (σ : Assignment) :
    ∃ ρ : Assignment, r.params.map ρ = names.map (denote σ) ∧
      (Applies rules name (names.map .atom) σ → Holds rules ρ r.body) := by
  by_cases htruth : Applies rules name (names.map .atom) σ
  · obtain ⟨r', ρ, names', hr', hnames, hmap, hholds⟩ := htruth
    have hinj : Function.Injective Expr.atom := fun _ _ h => Expr.atom.inj h
    rw [hr, Option.some.injEq] at hr'
    rw [List.map_injective_iff.mpr hinj hnames, hr']
    exact ⟨ρ, hmap, fun _ => hholds⟩
  · obtain ⟨ρ, hmap⟩ := exists_map_eq hnodup ((List.length_map (denote σ)).trans hlen)
    exact ⟨ρ, hmap, fun h => absurd h htruth⟩

/-! ## Printing -/

mutual

/-- Whether a `print` goal is among the goals of a goal expression. -/
def hasPrint : Expr → Bool
  | .list (.atom head :: args) =>
    match Keyword.ofText? head with
    | some .print => true
    | some .and | some .or => anyHasPrint args
    | _ => false
  | _ => false

def anyHasPrint : List Expr → Bool
  | [] => false
  | e :: later => hasPrint e || anyHasPrint later

end

theorem hasPrint_print (args : List Expr) :
    hasPrint (.list (.atom Keyword.print.text :: args)) = true := by
  simp [hasPrint, Keyword.ofText?_text]

theorem hasPrint_and (es : List Expr) :
    hasPrint (.list (.atom Keyword.and.text :: es)) = anyHasPrint es := by
  simp [hasPrint, Keyword.ofText?_text]

theorem hasPrint_or (es : List Expr) :
    hasPrint (.list (.atom Keyword.or.text :: es)) = anyHasPrint es := by
  simp [hasPrint, Keyword.ofText?_text]

theorem anyHasPrint_eq_false_iff {es : List Expr} :
    anyHasPrint es = false ↔ ∀ e ∈ es, hasPrint e = false := by
  induction es with
  | nil => simp [anyHasPrint]
  | cons e later ih => simp [anyHasPrint, ih]

end GoalSearch
