import GoalSearch.Proofs.Build.Step
import GoalSearch.Proofs.Store.Alias

/-!
# Building only adds

What a build leaves alone, whether or not it succeeds. Cells that were there hold what they held, and
scopes other than the one it builds in say what they said. That one may give meanings to further names,
but keeps those it gave:

    Preserves (w.Grows i) (goal (applyRule root limit left) i e)            (grows_goal)

The frame of an application is new, so that nothing that is written to it counts as a change.
-/

namespace GoalSearch

namespace Workspace

/-- A workspace has lost nothing on the way to another one, as seen from a scope: its cells hold what
they held, and the scope keeps the meanings that it gave. -/
structure Keeps (i : ScopeId) (w w' : Workspace) : Prop where
  size_le : w.store.size ≤ w'.store.size
  state_eq : ∀ {c}, w.store.Has c → w'.store.state c = w.store.state c
  has_scope : ∀ {j}, w.scopes.Has j → w'.scopes.Has j
  keeps : ∀ {name m}, (w.scopes.names i).find? name = some m →
    (w'.scopes.names i).find? name = some m

/-- A workspace has grown into another one by building in a scope: the other scopes say what they
said. -/
structure Grows (i : ScopeId) (w w' : Workspace) : Prop extends Keeps i w w' where
  names_eq : ∀ {j}, w.scopes.Has j → j ≠ i → w'.scopes.names j = w.scopes.names j

variable {i f j : ScopeId} {w u v : Workspace}

theorem Keeps.has (h : w.Keeps i u) {c : Cell} (hc : w.store.Has c) : u.store.Has c :=
  Nat.lt_of_lt_of_le hc h.size_le

theorem Keeps.refl (i : ScopeId) (w : Workspace) : w.Keeps i w :=
  ⟨Nat.le_refl _, fun _ => rfl, id, id⟩

theorem Keeps.trans (h : w.Keeps i u) (h' : u.Keeps i v) : w.Keeps i v where
  size_le := h.size_le.trans h'.size_le
  state_eq := by
    intro c hc
    rw [h'.state_eq (h.has hc), h.state_eq hc]
  has_scope := fun hj => h'.has_scope (h.has_scope hj)
  keeps := fun hm => h'.keeps (h.keeps hm)

theorem Grows.refl (i : ScopeId) (w : Workspace) : w.Grows i w := ⟨Keeps.refl i w, fun _ _ => rfl⟩

theorem Grows.find?_eq_some (h : w.Grows i u) {name : String} {m : Meaning}
    (hm : (w.scopes.names j).find? name = some m) : (u.scopes.names j).find? name = some m := by
  by_cases hji : j = i
  · rw [hji] at hm ⊢
    exact h.keeps hm
  · rw [h.names_eq (Scopes.has_of_find? hm) hji]
    exact hm

/-- Growing on in the same scope, or in a frame that was not there, counts as growing in the scope. -/
theorem Grows.trans_of (h : w.Grows i u) (hf : f = i ∨ ¬w.scopes.Has f) (h' : u.Grows f v) :
    w.Grows i v where
  size_le := h.size_le.trans h'.size_le
  state_eq := by
    intro c hc
    rw [h'.state_eq (h.has hc), h.state_eq hc]
  has_scope := fun hj => h'.has_scope (h.has_scope hj)
  keeps := fun hm => h'.find?_eq_some (h.keeps hm)
  names_eq := by
    intro j hj hne
    have hjf : j ≠ f := by
      rintro rfl
      exact hf.elim hne fun hnot => hnot hj
    rw [h'.names_eq (h.has_scope hj) hjf, h.names_eq hj hne]

theorem Grows.trans (h : w.Grows i u) (h' : u.Grows i v) : w.Grows i v := h.trans_of (.inl rfl) h'

theorem Grows.frame (h : w.Grows i u) (hf : ¬w.scopes.Has f) (h' : u.Grows f v) : w.Grows i v :=
  h.trans_of (.inr hf) h'

/-! ## One step -/

/-- A new cell for a scope that does not write to its names. -/
theorem grows_create (i : ScopeId) (w : Workspace) (name : Option String) (state : CellState) :
    w.Grows i { w with store := (w.store.create name state).2 } where
  size_le := by
    rw [Store.size_create]
    omega
  state_eq := by
    intro c hc
    refine Store.state_create_ne w.store name state ?_
    rintro rfl
    exact Nat.lt_irrefl _ hc
  has_scope := id
  names_eq := fun _ _ => rfl
  keeps := id

theorem grows_bind (w : Workspace) {name : String} (hname : (w.scopes.names i).find? name = none)
    (m : Meaning) : w.Grows i { w with scopes := w.scopes.bind i name m } where
  size_le := Nat.le_refl _
  state_eq := fun _ => rfl
  has_scope := Scopes.has_bind.mpr
  names_eq := fun _ hne => Scopes.names_bind_ne w.scopes name m hne
  keeps := by
    intro other m' hm
    show ((w.scopes.bind i name m).names i).find? other = some m'
    rw [Scopes.names_bind_self name m (Scopes.has_of_find? hm), NameTable.find?_insert]
    have hne : other ≠ name := by
      rintro rfl
      rw [hname] at hm
      cases hm
    rw [if_neg hne]
    exact hm

theorem find?_newVariable (hi : w.scopes.Has i) (name : String) (c : Cell) :
    ((w.scopes.bind i name (.cell c)).names i).find? name = some (.cell c) := by
  rw [Scopes.names_bind_self name (.cell c) hi, NameTable.find?_insert, if_pos rfl]

theorem Keeps.bind_ne (h : w.Keeps i u) (hif : i ≠ f) (name : String) (m : Meaning) :
    w.Keeps i { u with scopes := u.scopes.bind f name m } where
  size_le := h.size_le
  state_eq := h.state_eq
  has_scope := fun hj => Scopes.has_bind.mpr (h.has_scope hj)
  keeps := by
    intro other m' hm
    show ((u.scopes.bind f name m).names i).find? other = some m'
    rw [Scopes.names_bind_ne u.scopes name m hif]
    exact h.keeps hm

/-- A frame that was not there gives a name a meaning. -/
theorem Grows.bind_frame (h : w.Grows i u) (hf : ¬w.scopes.Has f) (name : String) (m : Meaning) :
    w.Grows i { u with scopes := u.scopes.bind f name m } where
  size_le := h.size_le
  state_eq := h.state_eq
  has_scope := fun hj => Scopes.has_bind.mpr (h.has_scope hj)
  keeps := by
    intro other m' hm
    have hif : i ≠ f := fun e => hf (e ▸ Scopes.has_of_find? hm)
    exact (h.toKeeps.bind_ne hif name m).keeps hm
  names_eq := by
    intro j hj hne
    have hjf : j ≠ f := fun e => hf (e ▸ hj)
    show (u.scopes.bind f name m).names j = _
    rw [Scopes.names_bind_ne u.scopes name m hjf]
    exact h.names_eq hj hne

theorem Grows.openChild (h : w.Grows i u) (root : ScopeId) :
    w.Grows i { u with scopes := (u.scopes.openChild root).2 } where
  size_le := h.size_le
  state_eq := h.state_eq
  has_scope := fun hj => (h.has_scope hj).openChild root
  names_eq := by
    intro j hj hne
    rw [Scopes.names_openChild]
    exact h.names_eq hj hne
  keeps := by
    intro name m hm
    rw [Scopes.names_openChild]
    exact h.keeps hm

/-! ## Rules -/

/-- Every rule that a scope knows has a property, under the name that it has there. -/
def AllRules (P : String → Rule → Prop) (w : Workspace) : Prop :=
  ∀ i name r, (w.scopes.names i).find? name = some (.rule r) → P name r

section AllRules

variable {P : String → Rule → Prop} {name : String}

theorem AllRules.lookup (h : w.AllRules P) {r : Rule}
    (hl : w.scopes.lookup i name = some (.rule r)) : P name r := by
  obtain ⟨j, -, hj⟩ := List.exists_of_findSome?_eq_some hl
  exact h j name r hj

theorem AllRules.openChild (h : w.AllRules P) (parent : ScopeId) :
    AllRules P { w with scopes := (w.scopes.openChild parent).2 } := by
  intro j other r hr
  rw [Scopes.names_openChild] at hr
  exact h j other r hr

theorem AllRules.bind (h : w.AllRules P) (i : ScopeId) (name : String) (c : Cell) :
    AllRules P { w with scopes := w.scopes.bind i name (.cell c) } := by
  intro j other r hr
  by_cases hj : j = i
  · have hi : w.scopes.Has i := hj ▸ Scopes.has_bind.mp (Scopes.has_of_find? hr)
    rw [Scopes.find?_bind hi] at hr
    split at hr
    · cases hr
    · exact h j other r hr
  · rw [Scopes.names_bind_ne w.scopes name (.cell c) hj] at hr
    exact h j other r hr

end AllRules

end Workspace

namespace Build

open Workspace

variable {w₀ : Workspace} {i : ScopeId}

theorem find?_names_of_lookup_none {ss : Scopes} {name : String} (h : ss.lookup i name = none) :
    (ss.names i).find? name = none := by
  simp only [Scopes.lookup, Scopes.chain, List.findSome?_cons] at h
  cases hfind : (ss.names i).find? name with
  | none => rfl
  | some m =>
    rw [hfind] at h
    cases h

theorem grows_newVariable {w : Workspace} {name : String} (hl : w.scopes.lookup i name = none) :
    w.Grows i ((newVariable i name).leaves w) :=
  (grows_create i w (some name) .unbound).trans
    (grows_bind { w with store := (w.store.createNamed name).2 } (find?_names_of_lookup_none hl)
      (.cell (w.store.createNamed name).1))

theorem grows_term (w₀ : Workspace) (i : ScopeId) (x : Expr) :
    Preserves (w₀.Grows i) (term i x) := by
  refine preserves_term ?_ ?_
  · intro name w hw
    exact hw.trans (grows_create i w none (.bound ⟨name⟩))
  · intro w name _ hl _ hw
    exact hw.trans (grows_newVariable hl)

theorem keeps_bindArguments {f : ScopeId} (hif : i ≠ f) (params : List String) (args : List Expr) :
    Preserves (w₀.Keeps i) (bindArguments f i params args) := by
  refine preserves_bindArguments ?_ ?_
  · intro x _ w hw
    exact hw.trans (grows_term w i x w (Grows.refl i w)).toKeeps
  · intro param _ x w c u _ _ hu
    exact hu.bind_ne hif param (.cell c)

theorem grows_bindArguments {f : ScopeId} (hf : ¬w₀.scopes.Has f) (params : List String)
    (args : List Expr) : Preserves (w₀.Grows i) (bindArguments f i params args) := by
  refine preserves_bindArguments (fun x _ => grows_term w₀ i x) ?_
  intro param _ x w c u _ _ hu
  exact hu.bind_frame hf param (.cell c)

/-- A frame keeps the meaning of a name that is none of the parameters to come. -/
theorem find?_frame {f : ScopeId} {params : List String} {name : String} (hname : name ∉ params)
    (args : List Expr) (m : Meaning) :
    Preserves (fun w => (w.scopes.names f).find? name = some m)
      (bindArguments f i params args) := by
  refine preserves_bindArguments ?_ ?_
  · intro x _ w hm
    exact (grows_term w i x w (.refl i w)).find?_eq_some hm
  · intro param hparam x w c u _ _ hm
    show ((u.scopes.bind f param (.cell c)).names f).find? name = some m
    have hne : name ≠ param := by
      rintro rfl
      exact hname hparam
    rw [Scopes.names_bind_self param (.cell c) (Scopes.has_of_find? hm), NameTable.find?_insert,
      if_neg hne]
    exact hm

theorem grows_applyRule (root : ScopeId) (limit left : Nat) (w₀ : Workspace) (i : ScopeId)
    (name : String) (args : List Expr) :
    Preserves (w₀.Grows i) (applyRule root limit left name args i) := by
  induction left generalizing w₀ i name args with
  | zero =>
    rw [applyRule]
    exact (preserves_rule i name args.length).bind fun _ => preserves_throw _
  | succ left ih =>
    rw [applyRule]
    refine (preserves_rule i name args.length).bind fun r => ?_
    intro w hw
    -- The frame is new to `w₀` as well, so that what is written there is no change to its scopes.
    have hf : ¬w₀.scopes.Has (w.scopes.openChild root).1 :=
      fun hf => w.scopes.not_has_openChild root (hw.has_scope hf)
    have hbody : Preserves (w₀.Grows i)
        (goal (applyRule root limit left) (w.scopes.openChild root).1 r.body) := by
      intro u hu
      have hgoal := preserves_goal (grows_term u (w.scopes.openChild root).1)
        (ih u (w.scopes.openChild root).1) r.body
      exact hu.frame hf (hgoal u (Grows.refl _ u))
    exact ((grows_bindArguments hf r.params args).bind fun _ => hbody) _ (hw.openChild root)

/-- **Building only adds** to a workspace. -/
theorem grows_goal (root : ScopeId) (limit left : Nat) (w₀ : Workspace) (i : ScopeId) (e : Expr) :
    Preserves (w₀.Grows i) (goal (applyRule root limit left) i e) :=
  preserves_goal (grows_term w₀ i) (grows_applyRule root limit left w₀ i) e

theorem grows_goals (root : ScopeId) (limit left : Nat) (w₀ : Workspace) (i : ScopeId)
    (es : List Expr) : Preserves (w₀.Grows i) (goals (applyRule root limit left) i es) :=
  preserves_goals fun e _ => grows_goal root limit left w₀ i e

/-! ## No rules -/

section AllRules

variable {P : String → Rule → Prop}

theorem allRules_term (i : ScopeId) (x : Expr) : Preserves (AllRules P) (term i x) := by
  refine preserves_term (fun _ _ h => h) ?_
  intro w name _ _ _ h
  exact AllRules.bind (w := { w with store := (w.store.createNamed name).2 }) h i name _

theorem allRules_bindArguments (f i : ScopeId) (params : List String) (args : List Expr) :
    Preserves (AllRules P) (bindArguments f i params args) := by
  refine preserves_bindArguments (fun x _ => allRules_term i x) ?_
  intro param _ x w c u _ _ hu
  exact hu.bind f param c

theorem allRules_applyRule (root : ScopeId) (limit left : Nat) (i : ScopeId) (name : String)
    (args : List Expr) : Preserves (AllRules P) (applyRule root limit left name args i) := by
  induction left generalizing i name args with
  | zero =>
    rw [applyRule]
    exact (preserves_rule i name args.length).bind fun _ => preserves_throw _
  | succ left ih =>
    rw [applyRule]
    refine (preserves_rule i name args.length).bind fun r => ?_
    have hframe : Preserves (AllRules P) (openFrame root) := fun _ h => h.openChild root
    refine hframe.bind fun f => (allRules_bindArguments f i r.params args).bind fun _ => ?_
    exact preserves_goal (allRules_term f) (ih f) r.body

/-- Building adds no rules. -/
theorem allRules_goal (root : ScopeId) (limit left : Nat) (i : ScopeId) (e : Expr) :
    Preserves (AllRules P) (goal (applyRule root limit left) i e) :=
  preserves_goal (allRules_term i) (allRules_applyRule root limit left i) e

end AllRules

end Build

end GoalSearch
