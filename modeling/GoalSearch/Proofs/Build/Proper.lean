import GoalSearch.Proofs.Build.Step
import GoalSearch.Proofs.Rule
import GoalSearch.Proofs.Store.Alias

/-!
# Proper workspaces

The invariant of building. The root scope has the rules and nothing else, every other scope stands
right inside it and names cells by variables (`Rooted`), and no cell is an alias yet:

    i ≠ root → Preserves (Proper root rules) (goal (applyRule root limit left) i e)   (proper_goal)

In a rooted workspace a name means a cell exactly if its own scope says so, and a rule only if it is one
of the rules (`Rooted.lookup_cell_iff`, `Rooted.find?_of_lookup_rule`). What the scopes say and what the
store holds are kept apart, since a workspace that has been searched is still rooted.
-/

namespace GoalSearch

/-- A workspace whose root is outermost and has the rules, while the other scopes stand inside it and
give variables the meaning of cells. -/
structure Workspace.Rooted (root : ScopeId) (rules : NameTable Rule) (w : Workspace) : Prop where
  has_root : w.scopes.Has root
  root_names : ∀ name, (w.scopes.names root).find? name = (rules.find? name).map .rule
  root_enclosing : w.scopes.enclosing root = []
  enclosing : ∀ {i}, w.scopes.Has i → i ≠ root → w.scopes.enclosing i = [root]
  named : ∀ {i name m}, i ≠ root → (w.scopes.names i).find? name = some m →
    isVariableName name = true ∧ ∃ c, m = .cell c ∧ w.store.Has c

/-- A workspace on the way of a build that began without cells: it is rooted, and none of its cells is
an alias. -/
structure Workspace.Proper (root : ScopeId) (rules : NameTable Rule) (w : Workspace) : Prop
    extends Workspace.Rooted root rules w where
  isEnd : ∀ c, w.store.IsEnd c

namespace Workspace.Rooted

variable {root i : ScopeId} {rules : NameTable Rule} {w : Workspace} {name : String} {c : Cell}
  {r : Rule}

/-! ## Names -/

theorem lookup_eq (h : w.Rooted root rules) (hi : w.scopes.Has i) (hne : i ≠ root)
    (name : String) :
    w.scopes.lookup i name =
      ((w.scopes.names i).find? name).or ((rules.find? name).map .rule) := by
  unfold Scopes.lookup Scopes.chain
  rw [h.enclosing hi hne, ← h.root_names]
  simp only [List.findSome?_cons, List.findSome?_nil]
  cases (w.scopes.names i).find? name with
  | some m => rfl
  | none => cases (w.scopes.names root).find? name <;> rfl

theorem lookup_cell_iff (h : w.Rooted root rules) (hne : i ≠ root) :
    w.scopes.lookup i name = some (.cell c) ↔
      (w.scopes.names i).find? name = some (.cell c) := by
  by_cases hi : w.scopes.Has i
  · rw [h.lookup_eq hi hne]
    cases (w.scopes.names i).find? name with
    | some m => simp
    | none => cases rules.find? name <;> simp
  · rw [Scopes.lookup_of_not_has hi]
    constructor
    · intro hl
      cases hl
    · intro hfind
      exact absurd (Scopes.has_of_find? hfind) hi

theorem find?_of_lookup_rule (h : w.Rooted root rules) (hne : i ≠ root)
    (hl : w.scopes.lookup i name = some (.rule r)) : rules.find? name = some r := by
  have hi : w.scopes.Has i := by
    by_contra hi
    rw [Scopes.lookup_of_not_has hi] at hl
    cases hl
  rw [h.lookup_eq hi hne] at hl
  cases hfind : (w.scopes.names i).find? name with
  | some m =>
    obtain ⟨-, c, rfl, -⟩ := h.named hne hfind
    rw [hfind] at hl
    cases hl
  | none =>
    rw [hfind] at hl
    cases hrule : rules.find? name with
    | none =>
      rw [hrule] at hl
      cases hl
    | some r' =>
      rw [hrule] at hl
      cases hl
      rfl

/-! ## One step -/

/-- A store with as many cells or more. -/
theorem setStore (h : w.Rooted root rules) {store : Store} (hsize : w.store.size ≤ store.size) :
    Rooted root rules { w with store } where
  has_root := h.has_root
  root_names := h.root_names
  root_enclosing := h.root_enclosing
  enclosing := h.enclosing
  named := by
    intro i n m hne hm
    obtain ⟨hvar, c, rfl, hc⟩ := h.named hne hm
    exact ⟨hvar, c, rfl, Nat.lt_of_lt_of_le hc hsize⟩

theorem create (h : w.Rooted root rules) (name : Option String) (state : CellState) :
    Rooted root rules { w with store := (w.store.create name state).2 } :=
  h.setStore ((Nat.le_succ _).trans_eq (Store.size_create w.store name state).symm)

theorem bind (h : w.Rooted root rules) (hne : i ≠ root) (hvar : isVariableName name = true)
    (hc : w.store.Has c) :
    Rooted root rules { w with scopes := w.scopes.bind i name (.cell c) } where
  has_root := Scopes.has_bind.mpr h.has_root
  root_names := by
    intro n
    show ((w.scopes.bind i name (.cell c)).names root).find? n = _
    rw [Scopes.names_bind_ne w.scopes name (.cell c) hne.symm]
    exact h.root_names n
  root_enclosing := by
    rw [Scopes.enclosing_bind]
    exact h.root_enclosing
  enclosing := by
    intro j hj hjne
    rw [Scopes.enclosing_bind]
    exact h.enclosing (Scopes.has_bind.mp hj) hjne
  named := by
    intro j n m hjne hm
    have hj := Scopes.has_bind.mp (Scopes.has_of_find? hm)
    by_cases hji : j = i
    · rw [hji] at hj hm
      rw [Scopes.names_bind_self name (.cell c) hj, NameTable.find?_insert] at hm
      by_cases hn : n = name
      · rw [if_pos hn, Option.some.injEq] at hm
        rw [hn]
        exact ⟨hvar, c, hm.symm, hc⟩
      · rw [if_neg hn] at hm
        exact h.named hne hm
    · rw [Scopes.names_bind_ne w.scopes name (.cell c) hji] at hm
      exact h.named hjne hm

theorem openChild (h : w.Rooted root rules) :
    Rooted root rules { w with scopes := (w.scopes.openChild root).2 } where
  has_root := h.has_root.openChild root
  root_names := by
    intro n
    rw [Scopes.names_openChild]
    exact h.root_names n
  root_enclosing := by
    have hne : root ≠ (w.scopes.openChild root).1 :=
      fun e => w.scopes.not_has_openChild root (e ▸ h.has_root)
    rw [Scopes.enclosing_openChild, if_neg hne]
    exact h.root_enclosing
  enclosing := by
    intro j hj hjne
    rw [Scopes.enclosing_openChild]
    by_cases hnew : j = (w.scopes.openChild root).1
    · rw [if_pos hnew, Scopes.chain, h.root_enclosing]
    · rw [if_neg hnew]
      exact h.enclosing (Scopes.has_of_has_openChild hj hnew) hjne
  named := by
    intro j n m hjne hm
    rw [Scopes.names_openChild] at hm
    exact h.named hjne hm

theorem frame_ne (h : w.Rooted root rules) : (w.scopes.openChild root).1 ≠ root :=
  fun e => w.scopes.not_has_openChild root (e.symm ▸ h.has_root)

end Workspace.Rooted

theorem Workspace.Proper.bind {root i : ScopeId} {rules : NameTable Rule} {w : Workspace}
    {name : String} {c : Cell} (h : w.Proper root rules) (hne : i ≠ root)
    (hvar : isVariableName name = true) (hc : w.store.Has c) :
    Proper root rules { w with scopes := w.scopes.bind i name (.cell c) } :=
  ⟨h.toRooted.bind hne hvar hc, h.isEnd⟩

theorem Workspace.Proper.openChild {root : ScopeId} {rules : NameTable Rule} {w : Workspace}
    (h : w.Proper root rules) :
    Proper root rules { w with scopes := (w.scopes.openChild root).2 } :=
  ⟨h.toRooted.openChild, h.isEnd⟩

/-! ## Building -/

namespace Build

open Workspace

variable {root i : ScopeId} {rules : NameTable Rule} {w w' : Workspace}

/-! ### Scopes -/

theorem rooted_term (hne : i ≠ root) (x : Expr) : Preserves (Rooted root rules) (term i x) := by
  refine preserves_term ?_ ?_
  · intro name w hw
    exact hw.create none (.bound ⟨name⟩)
  · intro w name _ _ hvar hw
    have hcreate := hw.create (some name) .unbound
    exact hcreate.bind hne hvar (Store.has_create w.store (some name) .unbound)

/-- A term stands for a cell of the store. -/
theorem has_of_term (hw : w.Rooted root rules) (hne : i ≠ root) {x : Expr} {c : Cell}
    (h : term i x w = .ok c w') : w'.store.Has c := by
  obtain ⟨name, -, hok⟩ := term_ok h
  cases hok with
  | known hl =>
    obtain ⟨-, d, hd, hhas⟩ := hw.named hne ((hw.lookup_cell_iff hne).mp hl)
    cases hd
    exact hhas
  | constant _ => exact Store.has_create w.store none (.bound ⟨name⟩)
  | fresh _ _ => exact Store.has_create w.store (some name) .unbound

theorem rooted_bindArguments {f : ScopeId} (hne : i ≠ root) (hf : f ≠ root) {params : List String}
    (hparams : ∀ param ∈ params, isVariableName param = true) (args : List Expr) :
    Preserves (Rooted root rules) (bindArguments f i params args) := by
  refine preserves_bindArguments (fun x _ => rooted_term hne x) ?_
  intro param hparam x w c u hw hc hu
  exact hu.bind hf (hparams param hparam) (has_of_term hw hne hc)

theorem rooted_applyRule (hrules : rules.WellFormed) (limit left : Nat) (hne : i ≠ root)
    (name : String) (args : List Expr) :
    Preserves (Rooted root rules) (applyRule root limit left name args i) := by
  induction left generalizing i name args with
  | zero =>
    rw [applyRule]
    exact (preserves_rule i name args.length).bind fun _ => preserves_throw _
  | succ left ih =>
    rw [applyRule]
    refine (preserves_rule i name args.length).bind_of_ok fun {w r u} _ hr hu => ?_
    obtain ⟨hl, -, rfl⟩ := rule_ok hr
    have hwellFormed := hrules name r (hu.find?_of_lookup_rule hne hl)
    have hf := hu.frame_ne
    have hargs : Preserves (Rooted root rules)
        (bindArguments (u.scopes.openChild root).1 i r.params args) :=
      rooted_bindArguments hne hf hwellFormed.isVariable args
    have hbody : Preserves (Rooted root rules)
        (goal (applyRule root limit left) (u.scopes.openChild root).1 r.body) :=
      preserves_goal (rooted_term hf) (ih hf) r.body
    exact (hargs.bind fun _ => hbody) _ hu.openChild

/-- Building keeps a workspace rooted. -/
theorem rooted_goal (hrules : rules.WellFormed) (limit left : Nat) (hne : i ≠ root) (e : Expr) :
    Preserves (Rooted root rules) (goal (applyRule root limit left) i e) :=
  preserves_goal (rooted_term hne) (rooted_applyRule hrules limit left hne) e

/-! ### Stores -/

section Created

/- What holds of a store still holds of it with a new cell that is no alias. -/
variable {P : Store → Prop} (hP : ∀ (s : Store) (name : Option String) (state : CellState),
  (∀ d, state ≠ .aliasOf d) → P s → P (s.create name state).2)

include hP

theorem created_term (i : ScopeId) (x : Expr) : Preserves (fun w => P w.store) (term i x) := by
  refine preserves_term ?_ ?_
  · intro name w hw
    exact hP w.store none (.bound ⟨name⟩) (by simp) hw
  · intro w name _ _ _ hw
    exact hP w.store (some name) .unbound (by simp) hw

theorem created_bindArguments (f i : ScopeId) (params : List String) (args : List Expr) :
    Preserves (fun w => P w.store) (bindArguments f i params args) :=
  preserves_bindArguments (fun x _ => created_term hP i x) fun _ _ _ _ _ _ _ _ hu => hu

theorem created_applyRule (root : ScopeId) (limit left : Nat) (i : ScopeId) (name : String)
    (args : List Expr) :
    Preserves (fun w => P w.store) (applyRule root limit left name args i) := by
  induction left generalizing i name args with
  | zero =>
    rw [applyRule]
    exact (preserves_rule i name args.length).bind fun _ => preserves_throw _
  | succ left ih =>
    rw [applyRule]
    refine (preserves_rule i name args.length).bind fun r => ?_
    intro w hw
    have hargs := created_bindArguments hP (w.scopes.openChild root).1 i r.params args
    have hbody := preserves_goal (created_term hP (w.scopes.openChild root).1) (ih _) r.body
    exact (hargs.bind fun _ => hbody) _ hw

/-- Building does to a store what new cells that are no aliases do. -/
theorem created_goal (root : ScopeId) (limit left : Nat) (i : ScopeId) (e : Expr) :
    Preserves (fun w => P w.store) (goal (applyRule root limit left) i e) :=
  preserves_goal (created_term hP i) (created_applyRule hP root limit left i) e

end Created

theorem isEnd_create (s : Store) (name : Option String) (state : CellState)
    (hstate : ∀ d, state ≠ .aliasOf d) (hs : ∀ c, s.IsEnd c) (c : Cell) :
    (s.create name state).2.IsEnd c := by
  intro d hd
  by_cases hc : c = (s.create name state).1
  · rw [hc, Store.state_create_self] at hd
    exact hstate d hd
  · rw [Store.state_create_ne s name state hc] at hd
    exact hs c d hd

/-! ### Both -/

theorem proper_term (hne : i ≠ root) (x : Expr) : Preserves (Proper root rules) (term i x) :=
  fun w hw => ⟨rooted_term hne x w hw.toRooted, created_term isEnd_create i x w hw.isEnd⟩

theorem proper_bindArguments {f : ScopeId} (hne : i ≠ root) (hf : f ≠ root) {params : List String}
    (hparams : ∀ param ∈ params, isVariableName param = true) (args : List Expr) :
    Preserves (Proper root rules) (bindArguments f i params args) :=
  fun w hw => ⟨rooted_bindArguments hne hf hparams args w hw.toRooted,
    created_bindArguments isEnd_create f i params args w hw.isEnd⟩

/-- **Building keeps a workspace proper.** -/
theorem proper_goal (hrules : rules.Legal) (limit left : Nat) (hne : i ≠ root) (e : Expr) :
    Preserves (Proper root rules) (goal (applyRule root limit left) i e) :=
  fun w hw => ⟨rooted_goal hrules.wellFormed limit left hne e w hw.toRooted,
    created_goal isEnd_create root limit left i e w hw.isEnd⟩

end Build

end GoalSearch
