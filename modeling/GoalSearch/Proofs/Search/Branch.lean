import GoalSearch.Proofs.Search.Solution

/-!
# The branches of a goal

A plain goal is a list of branches, and a branch is a list of leaves: printings and equations, which have
to be passed one after the other. Which branches there are does not depend on the store. The answers of a
goal are the stores at the ends of those branches that can be followed, in order:

    (g.stream s).filterMap answer? = g.branches.filterMap (follow? · s)           (filterMap_answer?_stream)

So a search ends where the first branch does that can be followed (`Plain.findSome?_branches`), and it
succeeds exactly if there is one (`Plain.succeeded_run_iff`). What alternatives and conjunctions do with
each other is settled by that, and what remains to be said about a search is about single branches.
-/

namespace GoalSearch

/-- A goal without goals in it. -/
inductive Leaf where
  | print (cell : Cell)
  | unify (left right : Cell)
deriving DecidableEq, Repr

/-- Leaves that have to be passed in order. -/
abbrev Branch := List Leaf

namespace Leaf

/-- The store behind a leaf, if the leaf can be passed. -/
def pass? (s : Store) : Leaf → Option Store
  | .print cell => if (s.value cell).isSome then some s else none
  | .unify left right =>
    if (s.unify left right).1.isSuccess then some (s.unify left right).2 else none

def cells : Leaf → List Cell
  | .print cell => [cell]
  | .unify left right => [left, right]

def IsEquation (l : Leaf) : Prop := ∃ a b, l = .unify a b

end Leaf

namespace Branch

/-- The store at the end of a branch, if the branch can be followed. -/
def follow? (b : Branch) (s : Store) : Option Store := b.foldlM Leaf.pass? s

theorem follow?_cons (l : Leaf) (b : Branch) (s : Store) :
    follow? (l :: b) s = (l.pass? s).bind (follow? b) := rfl

theorem follow?_singleton (l : Leaf) (s : Store) : follow? [l] s = l.pass? s := by
  rw [follow?_cons]
  cases l.pass? s <;> rfl

theorem follow?_append (b c : Branch) (s : Store) :
    follow? (b ++ c) s = (follow? b s).bind (follow? c) :=
  List.foldlM_append

end Branch

namespace Goal

mutual

/-- The branches of a goal, in the order in which a search tries them. A goal that is not plain has
none. -/
def branches : Goal → List Branch
  | .print cell => [[.print cell]]
  | .unify left right => [[.unify left right]]
  | .or alternatives => branchesAny alternatives
  | .and conjuncts => branchesAll conjuncts
  | .terminal | .compose _ _ => []

def branchesAny : List Goal → List Branch
  | [] => []
  | g :: later => branches g ++ branchesAny later

/-- The branches of goals that hold one after the other: each one of the first goal with each one of the
later goals behind it. -/
def branchesAll : List Goal → List Branch
  | [] => [[]]
  | g :: later => (branches g).flatMap fun b => (branchesAll later).map (b ++ ·)

end

end Goal

/-! ## Branches and answers -/

namespace Finding

theorem filterMap_answer?_andThen (fs : List Finding) (next : Store → List Finding) :
    (andThen fs next).filterMap answer? =
      (fs.filterMap answer?).flatMap fun s => (next s).filterMap answer? := by
  induction fs with
  | nil => rfl
  | cons f fs ih =>
    cases f with
    | tick => exact ih
    | output symbol => exact ih
    | answer s =>
      rw [andThen_answer, List.filterMap_append, ih]
      rfl

theorem firstAnswer?_eq_head? (fs : List Finding) :
    firstAnswer? fs = (fs.filterMap answer?).head? :=
  List.head?_filterMap.symm

end Finding

namespace Goal

open Finding Branch

variable {s t : Store} {g : Goal} {gs : List Goal}

theorem filterMap_follow?_leaf (l : Leaf) (s : Store) :
    [[l]].filterMap (follow? · s) = (l.pass? s).toList := by
  have hleaf := follow?_singleton l s
  cases h : l.pass? s with
  | none => simp [hleaf, h]
  | some t => simp [hleaf, h]

theorem filterMap_follow?_map_append (b : Branch) (later : List Branch) (s : Store) :
    (later.map (b ++ ·)).filterMap (follow? · s) =
      (follow? b s).toList.flatMap fun t => later.filterMap (follow? · t) := by
  rw [List.filterMap_map]
  have hbind : ((follow? · s) ∘ (b ++ ·)) = fun c => (follow? b s).bind (follow? c) :=
    funext fun c => follow?_append b c s
  rw [hbind]
  cases follow? b s with
  | none => simp
  | some t => simp

theorem filterMap_follow?_flatMap (bs later : List Branch) (s : Store) :
    (bs.flatMap fun b => later.map (b ++ ·)).filterMap (follow? · s) =
      (bs.filterMap (follow? · s)).flatMap fun t => later.filterMap (follow? · t) := by
  induction bs with
  | nil => rfl
  | cons b bs ih =>
    rw [List.flatMap_cons, List.filterMap_append, ih, filterMap_follow?_map_append]
    cases hb : follow? b s with
    | none => simp [hb]
    | some t => simp [hb]

mutual

/-- **The answers of a goal stand at the ends of its branches.** -/
theorem filterMap_answer?_stream : ∀ (g : Goal) (s : Store),
    (g.stream s).filterMap answer? = g.branches.filterMap (follow? · s)
  | .terminal, s => by
    rw [stream, branches]
    rfl
  | .print c, s => by
    rw [stream, branches, filterMap_follow?_leaf, Leaf.pass?]
    cases s.value c <;> rfl
  | .unify a b, s => by
    rw [stream, branches, filterMap_follow?_leaf, Leaf.pass?]
    rcases s.unify a b with ⟨_ | _ | _, t⟩ <;> rfl
  | .or gs, s => by
    rw [stream, branches]
    exact filterMap_answer?_streamAny gs s
  | .compose _ _, s => by
    rw [stream, branches]
    rfl
  | .and gs, s => by
    rw [stream, branches]
    exact filterMap_answer?_streamAll gs s

theorem filterMap_answer?_streamAny : ∀ (gs : List Goal) (s : Store),
    (streamAny gs s).filterMap answer? = (branchesAny gs).filterMap (follow? · s)
  | [], s => by
    rw [streamAny, branchesAny]
    rfl
  | g :: later, s => by
    rw [streamAny, branchesAny, List.filterMap_append, List.filterMap_append,
      filterMap_answer?_stream g s, filterMap_answer?_streamAny later s]

theorem filterMap_answer?_streamAll : ∀ (gs : List Goal) (s : Store),
    (streamAll gs s).filterMap answer? = (branchesAll gs).filterMap (follow? · s)
  | [], s => by
    rw [streamAll, branchesAll]
    rfl
  | g :: later, s => by
    have hlater : (fun t => (streamAll later t).filterMap answer?) =
        fun t => (branchesAll later).filterMap (follow? · t) :=
      funext fun t => filterMap_answer?_streamAll later t
    rw [streamAll, branchesAll, filterMap_follow?_flatMap, ← filterMap_answer?_stream g s, ← hlater]
    exact filterMap_answer?_andThen (g.stream s) (streamAll later)

end

/-- The first answer stands at the end of the first branch that can be followed. -/
theorem firstAnswer?_stream (g : Goal) (s : Store) :
    firstAnswer? (g.stream s) = g.branches.findSome? (follow? · s) := by
  rw [firstAnswer?_eq_head?, filterMap_answer?_stream, List.head?_filterMap]

/-! ## Branches and searches -/

/-- **A search ends where the first branch does** that can be followed, and it fails if there is none. -/
theorem Plain.findSome?_branches (hg : g.Plain) (s : Store) :
    g.branches.findSome? (follow? · s) =
      if (g.run s).succeeded then some (g.run s).store else none := by
  rw [hg.answer_run, firstAnswer?_stream]

/-- A search succeeds exactly if some branch can be followed. -/
theorem Plain.succeeded_run_iff (hg : g.Plain) (s : Store) :
    (g.run s).succeeded = true ↔ ∃ b ∈ g.branches, (follow? b s).isSome = true := by
  have hisSome : (g.branches.findSome? (follow? · s)).isSome = (g.run s).succeeded := by
    rw [hg.findSome?_branches]
    cases (g.run s).succeeded <;> rfl
  rw [← hisSome, List.isSome_findSome?, List.any_eq_true]

/-- A search that succeeds has followed some branch to its end, and no branch before it could be
followed. -/
theorem Plain.exists_followed (hg : g.Plain) (hs : (g.run s).succeeded = true) :
    ∃ before b later, g.branches = before ++ b :: later ∧ follow? b s = some (g.run s).store ∧
      ∀ c ∈ before, follow? c s = none := by
  have hfound := hg.findSome?_branches s
  rw [if_pos hs, List.findSome?_eq_some_iff] at hfound
  exact hfound

/-! ## What stands on branches -/

theorem mem_branchesAny {b : Branch} : b ∈ branchesAny gs ↔ ∃ g ∈ gs, b ∈ g.branches := by
  induction gs with
  | nil => simp [branchesAny]
  | cons g later ih => simp [branchesAny, ih]

theorem mem_branchesAll_cons {b : Branch} :
    b ∈ branchesAll (g :: gs) ↔ ∃ c ∈ g.branches, ∃ d ∈ branchesAll gs, c ++ d = b := by
  simp [branchesAll]

/-- A leaf on a branch of goals in order stands on a branch of one of them. -/
theorem exists_mem_branches {b : Branch} {l : Leaf} (hb : b ∈ branchesAll gs) (hl : l ∈ b) :
    ∃ g ∈ gs, ∃ c ∈ g.branches, l ∈ c := by
  induction gs generalizing b with
  | nil =>
    rw [branchesAll, List.mem_singleton] at hb
    rw [hb] at hl
    cases hl
  | cons g later ih =>
    obtain ⟨c, hc, d, hd, rfl⟩ := mem_branchesAll_cons.mp hb
    rcases List.mem_append.mp hl with hl | hl
    · exact ⟨g, List.mem_cons_self, c, hc, hl⟩
    · obtain ⟨h, hh, hleaf⟩ := ih hd hl
      exact ⟨h, List.mem_cons_of_mem g hh, hleaf⟩

/-- The leaves on the branches of a goal have no other cells than the goal. -/
theorem Plain.mem_cells (hg : g.Plain) {b : Branch} {l : Leaf} {c : Cell} (hb : b ∈ g.branches)
    (hl : l ∈ b) (hc : c ∈ l.cells) : c ∈ g.cells := by
  induction hg generalizing b with
  | print d =>
    rw [branches, List.mem_singleton] at hb
    rw [hb, List.mem_singleton] at hl
    rwa [hl] at hc
  | unify d e =>
    rw [branches, List.mem_singleton] at hb
    rw [hb, List.mem_singleton] at hl
    rwa [hl] at hc
  | or _ ih =>
    rw [branches] at hb
    rw [cells]
    obtain ⟨g, hg, hb⟩ := mem_branchesAny.mp hb
    exact mem_cellsOfAll.mpr ⟨g, hg, ih g hg hb hl⟩
  | and _ ih =>
    rw [branches] at hb
    rw [cells]
    obtain ⟨g, hg, b, hb, hl⟩ := exists_mem_branches hb hl
    exact mem_cellsOfAll.mpr ⟨g, hg, ih g hg hb hl⟩

/-- The leaves on the branches of an equational goal are equations. -/
theorem Equational.isEquation (hg : g.Equational) {b : Branch} {l : Leaf} (hb : b ∈ g.branches)
    (hl : l ∈ b) : l.IsEquation := by
  induction hg generalizing b with
  | unify d e =>
    rw [branches, List.mem_singleton] at hb
    rw [hb, List.mem_singleton] at hl
    exact ⟨d, e, hl⟩
  | or _ ih =>
    rw [branches] at hb
    obtain ⟨g, hg, hb⟩ := mem_branchesAny.mp hb
    exact ih g hg hb hl
  | and _ ih =>
    rw [branches] at hb
    obtain ⟨g, hg, b, hb, hl⟩ := exists_mem_branches hb hl
    exact ih g hg hb hl

end Goal

end GoalSearch
