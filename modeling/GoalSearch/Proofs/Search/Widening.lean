import GoalSearch.Proofs.Search.Branch
import Mathlib.Data.List.Forall2

/-!
# More alternatives

Alternatives may be added to a plain goal, in any places. A goal that has been found to hold is still found
to hold then, whatever the new alternatives do:

    g.Widened g' → (g.run s).succeeded = true → (g'.run s).succeeded = true                 (run_widened)

The new goal has all the branches of the old one (`Widened.branches_subset`), and a branch that can be
followed is there for the search to come to. The search may end elsewhere now, and print what it did not.
-/

namespace GoalSearch

namespace Goal

/-- A goal has come from another one by more alternatives among those of its disjunctions, in any places
and at any depth. -/
inductive Widened : Goal → Goal → Prop where
  | print (cell : Cell) : Widened (.print cell) (.print cell)
  | unify (left right : Cell) : Widened (.unify left right) (.unify left right)
  | or {gs hs : List Goal} (h : List.SublistForall₂ Widened gs hs) : Widened (.or gs) (.or hs)
  | and {gs hs : List Goal} (h : List.Forall₂ Widened gs hs) : Widened (.and gs) (.and hs)

variable {g g' : Goal} {gs hs : List Goal}

/-! ## Branches stay -/

/-- More alternatives have more branches. -/
theorem branchesAny_subset_of_sublist (h : gs.Sublist hs) : branchesAny gs ⊆ branchesAny hs := by
  intro b hb
  obtain ⟨g, hg, hb⟩ := mem_branchesAny.mp hb
  exact mem_branchesAny.mpr ⟨g, h.subset hg, hb⟩

theorem branchesAny_subset (h : List.Forall₂ (fun g g' => g.branches ⊆ g'.branches) gs hs) :
    branchesAny gs ⊆ branchesAny hs := by
  induction h with
  | nil => exact List.Subset.refl _
  | cons hg _ ih =>
    rw [branchesAny, branchesAny]
    refine List.append_subset.mpr ⟨?_, ?_⟩
    · exact List.subset_append_of_subset_left _ hg
    · exact List.subset_append_of_subset_right _ ih

theorem branchesAll_subset (h : List.Forall₂ (fun g g' => g.branches ⊆ g'.branches) gs hs) :
    branchesAll gs ⊆ branchesAll hs := by
  induction h with
  | nil => exact List.Subset.refl _
  | cons hg _ ih =>
    intro b hb
    obtain ⟨c, hc, d, hd, rfl⟩ := mem_branchesAll_cons.mp hb
    exact mem_branchesAll_cons.mpr ⟨c, hg hc, d, ih hd, rfl⟩

mutual

/-- **Each branch stays** when alternatives are added. -/
theorem Widened.branches_subset : ∀ (g : Goal) {g' : Goal}, g.Widened g' → g.branches ⊆ g'.branches
  | .print c, _, .print _ => List.Subset.refl _
  | .unify a b, _, .unify _ _ => List.Subset.refl _
  | .or gs, _, .or h => by
    rw [branches, branches]
    -- The old alternatives have kept their branches, and stand among others now.
    obtain ⟨kept, hkept, hsublist⟩ := List.sublistForall₂_iff.mp h
    have hbranches := branchesAny_subset (forall₂_branches_subset gs hkept)
    exact List.Subset.trans hbranches (branchesAny_subset_of_sublist hsublist)
  | .and gs, _, .and h => by
    rw [branches, branches]
    exact branchesAll_subset (forall₂_branches_subset gs h)

theorem forall₂_branches_subset : ∀ (gs : List Goal) {hs : List Goal}, List.Forall₂ Widened gs hs →
    List.Forall₂ (fun g g' => g.branches ⊆ g'.branches) gs hs
  | [], _, .nil => .nil
  | g :: gs, _, .cons hg h => .cons (Widened.branches_subset g hg) (forall₂_branches_subset gs h)

end

/-! ## Plain goals -/

mutual

/-- A goal with alternatives to which some can be added is plain. -/
theorem Widened.plain : ∀ (g : Goal) {g' : Goal}, g.Widened g' → g.Plain
  | .print c, _, .print _ => .print c
  | .unify a b, _, .unify _ _ => .unify a b
  | .or gs, _, .or h => by
    obtain ⟨kept, hkept, -⟩ := List.sublistForall₂_iff.mp h
    exact .or (plain_of_forall₂_widened gs hkept)
  | .and gs, _, .and h => .and (plain_of_forall₂_widened gs h)

theorem plain_of_forall₂_widened : ∀ (gs : List Goal) {hs : List Goal}, List.Forall₂ Widened gs hs →
    ∀ g ∈ gs, g.Plain
  | [], _, .nil => by simp
  | g :: gs, _, .cons hg h =>
    List.forall_mem_cons.mpr ⟨Widened.plain g hg, plain_of_forall₂_widened gs h⟩

end

/-! ## Searches -/

/-- **More alternatives lose no success.** A plain goal that is found to hold is found to hold as well
after plain alternatives have been added to its disjunctions, wherever they stand and whatever they do:
they may come first, print, solve equations, and fail only when the goals behind them do. -/
theorem run_widened (h : g.Widened g') (hg' : g'.Plain) (s : Store)
    (hs : (g.run s).succeeded = true) : (g'.run s).succeeded = true := by
  have hg : g.Plain := Widened.plain g h
  obtain ⟨b, hb, hfollowed⟩ := (hg.succeeded_run_iff s).mp hs
  exact (hg'.succeeded_run_iff s).mpr ⟨b, Widened.branches_subset g h hb, hfollowed⟩

/-- There are new alternatives before the one that holds, inside it and after it. The first one solves an
equation and prints, and only the last conjunct fails behind it. -/
theorem run_widened_before :
    let s : Store := ⟨#[⟨some "X", .unbound⟩, ⟨none, .bound ⟨"a"⟩⟩, ⟨none, .bound ⟨"b"⟩⟩]⟩
    let g : Goal := .and [.or [.and [.or [.unify ⟨0⟩ ⟨2⟩]]], .unify ⟨0⟩ ⟨2⟩]
    let g' : Goal := .and [.or [.and [.unify ⟨0⟩ ⟨1⟩, .print ⟨0⟩],
      .and [.or [.unify ⟨1⟩ ⟨2⟩, .unify ⟨0⟩ ⟨2⟩, .or []]], .print ⟨0⟩], .unify ⟨0⟩ ⟨2⟩]
    (g.run s).printed = [] ∧ (g'.run s).printed = [⟨"a"⟩] ∧ (g'.run s).succeeded = true := by
  intro s g g'
  have hinner : (Goal.or [.unify ⟨0⟩ ⟨2⟩]).Widened
      (.or [.unify ⟨1⟩ ⟨2⟩, .unify ⟨0⟩ ⟨2⟩, .or []]) :=
    .or (.cons_right (.cons (.unify _ _) .nil))
  have houter : List.SublistForall₂ Widened [.and [.or [.unify ⟨0⟩ ⟨2⟩]]]
      [.and [.unify ⟨0⟩ ⟨1⟩, .print ⟨0⟩], .and [.or [.unify ⟨1⟩ ⟨2⟩, .unify ⟨0⟩ ⟨2⟩, .or []]],
        .print ⟨0⟩] :=
    .cons_right (.cons (.and (.cons hinner .nil)) .nil)
  have hwidened : g.Widened g' := .and (.cons (.or houter) (.cons (.unify _ _) .nil))
  exact ⟨by decide, by decide, run_widened hwidened (by decide) s (by decide)⟩

end Goal

end GoalSearch
