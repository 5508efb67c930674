import GoalSearch.Proofs.Search.Solution

/-!
# What a search keeps

A search writes to cells in two ways only: it solves an equation of the goal, and it reverts the
binding that this made. So a property of stores that both of them keep is kept by every search
(`SearchInvariant.keeps_invoke`), whatever the goal and whatever comes after it.
-/

namespace GoalSearch

/-- A property of stores is kept by solving equations between certain cells, and by reverting, at any
time, the bindings that are made. These have a property of their own. -/
structure SearchInvariant (allowed : Cell → Prop) (P : Store → Prop) (Q : Binding → Prop) : Prop where
  /-- Solving an equation keeps the property. -/
  unify : ∀ {s : Store} {a b : Cell}, allowed a → allowed b → P s → P (s.unify a b).2
  /-- The binding that was made has its property. -/
  binding : ∀ {s : Store} {a b : Cell} {made : Binding}, allowed a → allowed b → P s →
    (s.unify a b).1.binding? = some made → Q made
  /-- Reverting such a binding keeps the property. -/
  revert : ∀ {s : Store} {made : Binding}, Q made → P s → P (s.revert made)

/-- Going on from a store keeps a property of stores. -/
def Keeps (P : Store → Prop) (next : Store → Run) : Prop := ∀ s, P s → P (next s).store

namespace SearchInvariant

open Goal

variable {allowed : Cell → Prop} {P : Store → Prop} {Q : Binding → Prop}

/-! ## Steps of a search -/

theorem keeps_finish : Keeps P finish := fun _ hs => hs

theorem keeps_orElse {first later : Store → Run} (hf : Keeps P first) (hl : Keeps P later) :
    Keeps P fun s => (first s).orElse later := by
  intro s hs
  show P ((first s).orElse later).store
  cases h : (first s).succeeded with
  | true =>
    rw [Run.orElse_of_succeeded later h]
    exact hf s hs
  | false =>
    rw [Run.store_orElse_of_failed later h]
    exact hl _ (hf s hs)

/-- Undoing an equation on failure keeps the property. -/
theorem store_orUndo (h : SearchInvariant allowed P Q) {made : Binding} (hmade : Q made) {r : Run}
    (hr : P r.store) : P (r.orUndo (Trail.empty.record made)).store := by
  cases hs : r.succeeded with
  | true =>
    rw [Run.orUndo, hs, if_pos rfl]
    exact hr
  | false =>
    rw [Run.store_orUndo_of_failed _ hs]
    exact h.revert hmade hr

theorem keeps_unify (h : SearchInvariant allowed P Q) {a b : Cell} (ha : allowed a) (hb : allowed b)
    {next : Store → Run} (hnext : Keeps P next) : Keeps P ((Goal.unify a b).runThen next) := by
  intro s hs
  have hstore := h.unify ha hb hs
  have hbinding : ∀ made, (s.unify a b).1.binding? = some made → Q made := fun made =>
    h.binding ha hb hs
  rw [runThen]
  generalize s.unify a b = result at hstore hbinding
  obtain ⟨outcome, t⟩ := result
  cases outcome with
  | failed => exact hstore
  | unchanged => exact hnext t hstore
  | aliased made target => exact h.store_orUndo (hbinding made rfl) (hnext t hstore)

/-! ## Whole searches -/

mutual

/-- A search keeps the property if what is to come does. -/
theorem keeps_runThen (h : SearchInvariant allowed P Q) : ∀ (g : Goal) {next : Store → Run},
    (∀ c ∈ g.cells, allowed c) → Keeps P next → Keeps P (g.runThen next)
  | .terminal, next, _, _ => by
    intro s hs
    rw [runThen]
    exact hs
  | .print cell, next, _, hnext => by
    intro s hs
    rw [runThen]
    cases s.value cell with
    | none => exact hs
    | some symbol => exact hnext s hs
  | .unify a b, next, hcells, hnext =>
    h.keeps_unify (hcells a (by simp [cells])) (hcells b (by simp [cells])) hnext
  | .or alternatives, next, hcells, hnext => by
    rw [cells] at hcells
    have hany := keeps_runAny h 0 alternatives hcells hnext
    intro s hs
    rw [runThen]
    exact hany s hs
  | .compose left right, next, hcells, _ => by
    rw [cells] at hcells
    obtain ⟨hleft, hright⟩ := List.forall_mem_append.mp hcells
    have hright' := keeps_runThen h right hright keeps_finish
    have hleft' := keeps_runThen h left hleft hright'
    intro s hs
    rw [runThen]
    exact hleft' s hs
  | .and conjuncts, next, hcells, hnext => by
    rw [cells] at hcells
    have hall := keeps_runAll h conjuncts hcells hnext
    intro s hs
    rw [runThen]
    exact hall s hs

theorem keeps_runAny (h : SearchInvariant allowed P Q) : ∀ (index : Nat) (gs : List Goal)
    {next : Store → Run}, (∀ c ∈ cellsOfAll gs, allowed c) → Keeps P next →
    Keeps P (runAny index gs next)
  | index, [], next, _, _ => by
    intro s hs
    rw [runAny]
    exact hs
  | index, g :: later, next, hcells, hnext => by
    rw [cellsOfAll] at hcells
    obtain ⟨hg, hlater⟩ := List.forall_mem_append.mp hcells
    have horElse := keeps_orElse (keeps_runThen h g hg hnext)
      (keeps_runAny h (index + 1) later hlater hnext)
    intro s hs
    rw [runAny]
    exact horElse s hs

theorem keeps_runAll (h : SearchInvariant allowed P Q) : ∀ (gs : List Goal) {next : Store → Run},
    (∀ c ∈ cellsOfAll gs, allowed c) → Keeps P next → Keeps P (runAll gs next)
  | [], next, _, hnext => by
    intro s hs
    rw [runAll]
    exact hnext s hs
  | g :: later, next, hcells, hnext => by
    rw [cellsOfAll] at hcells
    obtain ⟨hg, hlater⟩ := List.forall_mem_append.mp hcells
    have hfirst := keeps_runThen h g hg (keeps_runAll h later hlater hnext)
    intro s hs
    rw [runAll]
    exact hfirst s hs

end

/-- **A search keeps what its equations and their undoing keep.** -/
theorem keeps_invoke (h : SearchInvariant allowed P Q) {g future : Goal}
    (hg : ∀ c ∈ g.cells, allowed c) (hfuture : ∀ c ∈ future.cells, allowed c) :
    Keeps P (g.invoke future) :=
  h.keeps_runThen g hg (h.keeps_runThen future hfuture keeps_finish)

end SearchInvariant

end GoalSearch
