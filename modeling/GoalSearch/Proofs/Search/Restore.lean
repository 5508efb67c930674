import GoalSearch.Goal

/-!
# Failure leaves no trace

A node that solves an equation undoes it when what comes after fails, and no other node writes to a
cell. So a search that fails ends in the store that it began with, whatever the goal and whatever
was to come after it:

    (g.invoke future s).succeeded = false → (g.invoke future s).store = s

The invariant is `Restores`. A goal hands it on from what is to come to the search as a whole
(`restores_runThen`), so a node can rely on it when it undoes its own equation: everything that came
later has been undone by then.
-/

namespace GoalSearch

/-- Going on from a store gives the store back if it fails. -/
def Restores (next : Store → Run) : Prop :=
  ∀ s, (next s).succeeded = false → (next s).store = s

/-! ## Steps of a search -/

/-- A node that is entered first changes nothing about failure. -/
theorem Restores.enter {next : Store → Run} (h : Restores next) :
    Restores fun s => (next s).enter := by
  intro s hs
  show (next s).store = s
  exact h s hs

/-- An alternative that fails leaves to the later ones the store that it was given. -/
theorem Restores.orElse {first later : Store → Run} (hf : Restores first) (hl : Restores later) :
    Restores fun s => (first s).orElse later := by
  intro s hs
  replace hs : ((first s).orElse later).succeeded = false := hs
  show ((first s).orElse later).store = s
  cases h : (first s).succeeded with
  | true =>
    rw [Run.orElse_of_succeeded later h] at hs
    rw [hs] at h
    cases h
  | false =>
    have hstore := hf s h
    rw [Run.succeeded_orElse_of_failed later h, hstore] at hs
    rw [Run.store_orElse_of_failed later h, hstore]
    exact hl s hs

/-- An equation is undone after what was to come has undone its own. -/
theorem Restores.link {next : Store → Run} (h : Restores next) (s : Store) (cell target : Cell)
    (hs : (next (s.setState cell (.aliasOf target))).succeeded = false) :
    ((next (s.setState cell (.aliasOf target))).orUndo
      (Trail.empty.record ⟨cell, s.state cell⟩)).store = s := by
  rw [Run.store_orUndo_of_failed _ hs, h _ hs]
  exact s.undo_link cell target

namespace Goal

theorem restores_finish : Restores finish := by
  intro s hs
  cases hs

/-- An equation restores the store on failure if what is to come does. -/
theorem restores_unify (a b : Cell) {next : Store → Run} (hnext : Restores next) :
    Restores ((Goal.unify a b).runThen next) := by
  intro s hs
  have hcase := s.unify_case a b
  rw [runThen] at hs ⊢
  generalize s.unify a b = result at hcase hs
  cases hcase with
  | same _ => exact hnext s hs
  | equal _ _ => exact hnext s hs
  | clash _ _ _ => rfl
  | linkLeft _ _ =>
    exact hnext.link s _ _ (by simpa [Store.link] using hs)
  | linkRight _ _ _ =>
    exact hnext.link s _ _ (by simpa [Store.link] using hs)

/-! ## Whole searches -/

mutual

/-- **Failure is undone.** A search restores the store on failure if what is to come does. -/
theorem restores_runThen : ∀ (g : Goal) {next : Store → Run}, Restores next →
    Restores (g.runThen next)
  | .terminal, _, _ => by
    intro s hs
    rw [runThen] at hs
    cases hs
  | .print cell, next, hnext => by
    intro s hs
    rw [runThen] at hs ⊢
    cases hv : s.value cell with
    | none => rfl
    | some symbol =>
      rw [hv] at hs
      exact hnext s hs
  | .unify a b, next, hnext => restores_unify a b hnext
  | .or alternatives, next, hnext => by
    have h := (restores_runAny 0 alternatives hnext).enter
    intro s hs
    rw [runThen] at hs ⊢
    exact h s hs
  | .compose left right, next, _ => by
    have h := (restores_runThen left (restores_runThen right restores_finish)).enter
    intro s hs
    rw [runThen] at hs ⊢
    exact h s hs
  | .and conjuncts, next, hnext => by
    have h := (restores_runAll conjuncts hnext).enter
    intro s hs
    rw [runThen] at hs ⊢
    exact h s hs

theorem restores_runAny : ∀ (index : Nat) (gs : List Goal) {next : Store → Run}, Restores next →
    Restores (runAny index gs next)
  | index, [], next, _ => by
    intro s _
    rw [runAny]
    rfl
  | index, g :: later, next, hnext => by
    have h := (restores_runThen g hnext).orElse (restores_runAny (index + 1) later hnext)
    intro s hs
    rw [runAny] at hs ⊢
    exact h s hs

theorem restores_runAll : ∀ (gs : List Goal) {next : Store → Run}, Restores next →
    Restores (runAll gs next)
  | [], next, hnext => by
    intro s hs
    rw [runAll] at hs ⊢
    exact hnext s hs
  | g :: later, next, hnext => by
    have h := (restores_runThen g (restores_runAll later hnext)).enter
    intro s hs
    rw [runAll] at hs ⊢
    exact h s hs

end

theorem restores_run (g : Goal) : Restores g.run := restores_runThen g restores_finish

/-- **Failure leaves no trace.** If a goal and another one to come fail, every cell holds what it held
before. The goals may have nodes of any kind, and nothing is asked of the aliases in the store. -/
theorem store_invoke_of_failed (g future : Goal) (s : Store)
    (h : (g.invoke future s).succeeded = false) : (g.invoke future s).store = s :=
  restores_runThen g (restores_run future) s h

/-- Two equations are solved, each alternative solves a third one, and what is to come fails after
each of them. -/
theorem store_invoke_of_failed_alternatives :
    let s : Store := ⟨#[⟨some "X", .unbound⟩, ⟨some "Y", .unbound⟩, ⟨none, .bound ⟨"a"⟩⟩,
      ⟨none, .bound ⟨"b"⟩⟩, ⟨none, .aliasOf ⟨1⟩⟩]⟩
    let g : Goal := .and [.unify ⟨0⟩ ⟨4⟩, .or [.unify ⟨0⟩ ⟨2⟩, .unify ⟨1⟩ ⟨3⟩]]
    let future : Goal := .compose (.unify ⟨2⟩ ⟨3⟩) .terminal
    (g.invoke future s).succeeded = false ∧ (g.invoke future s).store = s := by
  intro s g future
  have hfailed : (g.invoke future s).succeeded = false := by decide
  exact ⟨hfailed, store_invoke_of_failed g future s hfailed⟩

end Goal

end GoalSearch
