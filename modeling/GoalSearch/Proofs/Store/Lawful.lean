import GoalSearch.Proofs.Store.Alias
import GoalSearch.Store.Unify
import Mathlib.Logic.Function.Basic

/-!
# Lawful stores

The cells of a store are constants and variables: a constant holds a symbol and keeps it, and a variable
holds no symbol but is unbound or an alias of another cell. In a lawful store this is so, and no
aliases run in a circle. New cells, equations and the reverting of their bindings, in whatever order,
keep a store lawful:

* an equation writes to an unbound cell only, and makes it an alias of another representative;
* reverting the binding of an equation makes a variable unbound, which cuts a chain of aliases and joins
  none.

So the order in which bindings are reverted plays no part.
-/

namespace GoalSearch

namespace Store

/-- The symbols of the cells that are constants. -/
abbrev Constants := Cell → Option Symbol

/-- A store whose aliases end, in which constants hold their symbols and other cells none. -/
structure Lawful (s : Store) (constants : Constants) : Prop where
  acyclic : s.Acyclic
  /-- A constant holds its symbol. -/
  constant : ∀ {c : Cell} {v : Symbol}, constants c = some v → s.state c = .bound v
  /-- A variable is unbound or an alias of another cell. -/
  unbound_or_alias : ∀ {c : Cell}, s.Has c → constants c = none →
    s.state c = .unbound ∨ ∃ d, s.state c = .aliasOf d ∧ s.Has d ∧ d ≠ c

/-- A write to a variable that reverting undoes. -/
structure Revertible (constants : Constants) (b : Binding) : Prop where
  previous : b.previous = .unbound
  notConstant : constants b.cell = none

variable {s t : Store} {a b c d e : Cell} {constants : Constants} {v : Symbol}

/-! ## Cutting chains -/

theorem state_setState_unbound (s : Store) (c : Cell) : (s.setState c .unbound).state c = .unbound := by
  by_cases hc : s.Has c
  · exact state_setState_self s c _ hc
  · exact state_of_not_has (by rwa [has_setState])

/-- Where chains lead after one was cut: to the cut or to their old end. -/
theorem Leads.exists_setState_unbound (h : s.Leads a e) (he : s.Has e) (c : Cell) :
    ∃ e', s.Has e' ∧ (s.setState c .unbound).Leads a e' := by
  have hcut : (s.setState c .unbound).IsEnd c := isEnd_of_unbound (state_setState_unbound s c)
  induction h with
  | @here x hx =>
    refine ⟨x, he, .here ?_⟩
    by_cases hxc : x = c
    · rw [hxc]
      exact hcut
    · intro d
      rw [state_setState_ne s _ hxc]
      exact hx d
  | @link x y z hx _ ih =>
    by_cases hxc : x = c
    · rw [hxc] at hx ⊢
      exact ⟨c, has_of_ne_unbound (by simp [hx]), .here hcut⟩
    · obtain ⟨e', he', hleads⟩ := ih he
      exact ⟨e', he', .link (by rw [state_setState_ne s _ hxc, hx]) hleads⟩

/-- Cutting a chain makes no cycle. -/
theorem Acyclic.setState_unbound (h : s.Acyclic) (c : Cell) : (s.setState c .unbound).Acyclic := by
  intro a ha
  rw [has_setState] at ha
  obtain ⟨e, he, hleads⟩ := h a ha
  obtain ⟨e', he', hleads'⟩ := hleads.exists_setState_unbound he c
  exact ⟨e', (has_setState c _).mpr he', hleads'⟩

theorem Lawful.revert (h : s.Lawful constants) {made : Binding} (hmade : Revertible constants made) :
    (s.revert made).Lawful constants := by
  obtain ⟨cell, previous⟩ := made
  obtain ⟨hprevious, hvariable⟩ := hmade
  obtain rfl : previous = .unbound := hprevious
  refine ⟨h.acyclic.setState_unbound cell, ?_, ?_⟩
  · intro c v hc
    have hne : c ≠ cell := by
      rintro rfl
      rw [hvariable] at hc
      cases hc
    rw [Store.revert, state_setState_ne s _ hne]
    exact h.constant hc
  · intro c hhas hc
    by_cases hne : c = cell
    · rw [hne]
      exact .inl (state_setState_unbound s cell)
    · rw [Store.revert, state_setState_ne s _ hne]
      rw [Store.revert, has_setState] at hhas
      rcases h.unbound_or_alias hhas hc with hunbound | ⟨d, hd, hdhas, hdne⟩
      · exact .inl hunbound
      · exact .inr ⟨d, hd, (has_setState cell _).mpr hdhas, hdne⟩

/-! ## Equations -/

/-- An unbound cell is no constant. -/
theorem Lawful.constants_of_unbound (h : s.Lawful constants) (hc : s.state c = .unbound) :
    constants c = none := by
  cases hconst : constants c with
  | none => rfl
  | some v =>
    rw [h.constant hconst] at hc
    cases hc

/-- Making an unbound cell an alias of another representative. -/
theorem Lawful.link (h : s.Lawful constants) (hc : s.Has c) (hunbound : s.state c = .unbound)
    (hd : s.Has d) (hend : s.IsEnd d) (hne : c ≠ d) : (s.link c d).2.Lawful constants := by
  have hother : ∀ x, x ≠ c → (s.setState c (.aliasOf d)).state x = s.state x :=
    fun x hx => state_setState_ne s _ hx
  refine ⟨h.acyclic.setState_alias hc (isEnd_of_unbound hunbound) hd hend hne, ?_, ?_⟩
  · intro x v hx
    have hxc : x ≠ c := by
      rintro rfl
      rw [h.constants_of_unbound hunbound] at hx
      cases hx
    rw [Store.link, hother x hxc]
    exact h.constant hx
  · intro x hxhas hx
    rw [Store.link] at hxhas ⊢
    simp only [has_setState] at hxhas ⊢
    by_cases hxc : x = c
    · rw [hxc]
      exact .inr ⟨d, state_setState_self s c _ hc, hd, hne.symm⟩
    · rw [hother x hxc]
      exact h.unbound_or_alias hxhas hx

/-- An equation between cells of the store keeps it lawful. -/
theorem Lawful.unify (h : s.Lawful constants) (ha : s.Has a) (hb : s.Has b) :
    (s.unify a b).2.Lawful constants := by
  have hcase := s.unify_case a b
  have hl := h.acyclic.has_deref ha
  have hr := h.acyclic.has_deref hb
  generalize s.unify a b = result at hcase
  cases hcase with
  | same _ => exact h
  | linkLeft hne hunbound => exact h.link hl hunbound hr (h.acyclic.isEnd_deref b) hne
  | linkRight hne _ hunbound => exact h.link hr hunbound hl (h.acyclic.isEnd_deref a) hne.symm
  | equal _ _ => exact h
  | clash _ _ _ => exact h

/-- What no write to a cell changes, no equation changes. -/
theorem apply_unify_eq {α : Type*} {f : Store → α}
    (hf : ∀ s c state, f (s.setState c state) = f s) (s : Store) (a b : Cell) :
    f (s.unify a b).2 = f s := by
  have hcase := s.unify_case a b
  generalize s.unify a b = result at hcase
  cases hcase with
  | same _ => rfl
  | linkLeft _ _ => exact hf s _ _
  | linkRight _ _ _ => exact hf s _ _
  | equal _ _ => rfl
  | clash _ _ _ => rfl

theorem size_unify (s : Store) (a b : Cell) : (s.unify a b).2.size = s.size :=
  apply_unify_eq size_setState s a b

/-- The binding of an equation is a write to an unbound representative of one of its sides. -/
theorem binding_of_unify {made : Binding} (hmade : (s.unify a b).1.binding? = some made) :
    (made.cell = s.deref a ∨ made.cell = s.deref b) ∧ s.state made.cell = .unbound ∧
      made.previous = .unbound := by
  have hcase := s.unify_case a b
  generalize s.unify a b = result at hcase hmade
  cases hcase with
  | same _ => cases hmade
  | linkLeft _ hunbound =>
    obtain rfl := Option.some.inj hmade
    exact ⟨.inl rfl, hunbound, hunbound⟩
  | linkRight _ _ hunbound =>
    obtain rfl := Option.some.inj hmade
    exact ⟨.inr rfl, hunbound, hunbound⟩
  | equal _ _ => cases hmade
  | clash _ _ _ => cases hmade

/-- The binding of an equation can be reverted. -/
theorem Lawful.revertible_of_unify (h : s.Lawful constants) {made : Binding}
    (hmade : (s.unify a b).1.binding? = some made) : Revertible constants made := by
  obtain ⟨-, hunbound, hprevious⟩ := binding_of_unify hmade
  exact ⟨hprevious, h.constants_of_unbound hunbound⟩

theorem Acyclic.has_of_unify (h : s.Acyclic) (ha : s.Has a) (hb : s.Has b) {made : Binding}
    (hmade : (s.unify a b).1.binding? = some made) : s.Has made.cell := by
  obtain ⟨hcell | hcell, -, -⟩ := binding_of_unify hmade <;> rw [hcell]
  · exact h.has_deref ha
  · exact h.has_deref hb

/-! ## New cells -/

theorem not_has_create (s : Store) (name : Option String) (state : CellState) :
    ¬s.Has (s.create name state).1 :=
  Nat.lt_irrefl s.size

theorem has_create_iff (name : Option String) (state : CellState) :
    (s.create name state).2.Has c ↔ s.Has c ∨ c = (s.create name state).1 := by
  obtain ⟨id⟩ := c
  show id < (s.create name state).2.size ↔ id < s.size ∨ Cell.mk id = Cell.mk s.size
  rw [size_create, Cell.mk.injEq]
  omega

/-- Chains go on as before in a store whose old cells are as they were. -/
theorem Leads.of_agree (h : s.Leads a e) (he : s.Has e)
    (hagree : ∀ c, s.Has c → t.state c = s.state c) : t.Leads a e := by
  induction h with
  | @here x hx =>
    refine .here fun d => ?_
    rw [hagree x he]
    exact hx d
  | @link x y z hx _ ih =>
    have hhas : s.Has x := has_of_ne_unbound (by simp [hx])
    exact .link (by rw [hagree x hhas, hx]) (ih he)

/-- A new cell that is no alias makes no cycle. -/
theorem Acyclic.create (h : s.Acyclic) (name : Option String) {state : CellState}
    (hstate : ∀ d, state ≠ .aliasOf d) : (s.create name state).2.Acyclic := by
  intro c hc
  rcases (has_create_iff name state).mp hc with hold | rfl
  · obtain ⟨e, he, hleads⟩ := h c hold
    refine ⟨e, (has_create_iff name state).mpr (.inl he), hleads.of_agree he fun d hd => ?_⟩
    refine state_create_ne s name state ?_
    rintro rfl
    exact s.not_has_create name state hd
  · refine ⟨_, hc, .here fun d => ?_⟩
    rw [state_create_self]
    exact hstate d

theorem Lawful.create (h : s.Lawful constants) (name : Option String) {state : CellState}
    {constants' : Constants} (hold : ∀ c, c ≠ (s.create name state).1 → constants' c = constants c)
    (hnew : state = .unbound ∧ constants' (s.create name state).1 = none ∨
      ∃ v, state = .bound v ∧ constants' (s.create name state).1 = some v) :
    (s.create name state).2.Lawful constants' := by
  refine ⟨h.acyclic.create name ?_, ?_, ?_⟩
  · rintro d rfl
    rcases hnew with ⟨hstate, -⟩ | ⟨v, hstate, -⟩ <;> cases hstate
  · intro c v hc
    by_cases hne : c = (s.create name state).1
    · rw [hne] at hc ⊢
      rw [state_create_self]
      rcases hnew with ⟨-, hnone⟩ | ⟨w, hstate, hsome⟩
      · rw [hnone] at hc
        cases hc
      · rw [hsome] at hc
        rw [hstate, Option.some.inj hc]
    · rw [hold c hne] at hc
      rw [state_create_ne s name state hne]
      exact h.constant hc
  · intro c hhas hc
    by_cases hne : c = (s.create name state).1
    · rw [hne] at hc ⊢
      rw [state_create_self]
      rcases hnew with ⟨hstate, -⟩ | ⟨w, -, hsome⟩
      · exact .inl hstate
      · rw [hsome] at hc
        cases hc
    · rw [hold c hne] at hc
      rw [state_create_ne s name state hne]
      have hhas' : s.Has c := ((has_create_iff name state).mp hhas).resolve_right hne
      rcases h.unbound_or_alias hhas' hc with hunbound | ⟨d, hd, hdhas, hdne⟩
      · exact .inl hunbound
      · exact .inr ⟨d, hd, (has_create_iff name state).mpr (.inl hdhas), hdne⟩

/-- A cell beyond the store is no constant. -/
theorem Lawful.constants_of_not_has (h : s.Lawful constants) (hc : ¬s.Has c) : constants c = none :=
  h.constants_of_unbound (state_of_not_has hc)

theorem Lawful.createVariable (h : s.Lawful constants) (name : Option String) :
    (s.create name .unbound).2.Lawful constants :=
  h.create name (fun _ _ => rfl) (.inl ⟨rfl, h.constants_of_not_has (s.not_has_create name _)⟩)

theorem Lawful.createConstant (h : s.Lawful constants) (v : Symbol) :
    (s.createBound v).2.Lawful (Function.update constants (s.createBound v).1 (some v)) :=
  h.create none (fun _ hne => Function.update_of_ne hne _ _)
    (.inr ⟨v, rfl, Function.update_self _ _ _⟩)

theorem lawful_empty : empty.Lawful fun _ => none where
  acyclic := fun c hc => absurd hc (Nat.not_lt_zero c.id)
  constant := nofun
  unbound_or_alias := fun {c} hc => absurd hc (Nat.not_lt_zero c.id)

end Store

end GoalSearch
