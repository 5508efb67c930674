import GoalSearch.Proofs.Search.Agreement

/-!
# The order of equations

Equations may be solved in any order. Whatever order a search takes, either there is no valuation in which
all of them hold, and the search fails, or it comes to a store that has exactly the valuations in which
they do (`solving_runAll`). Such stores may have their aliases in different places. What comes next sees
no more of a store than its valuations, so that it cannot tell the orders apart:

    gs.Perm gs' → ((Goal.and (gs ++ [h])).run s).printed = ((Goal.and (gs' ++ [h])).run s).printed ∧ …

(`run_and_perm`). The numbers of nodes that are entered may differ, since an equation that fails may come
sooner or later.
-/

namespace GoalSearch

open Store

namespace Goal

def IsEquation (g : Goal) : Prop := ∃ a b, g = .unify a b

variable {s : Store} {g h : Goal} {gs gs' hs : List Goal} {next : Store → Run} {r r' : Run}

/-! ## Solving equations -/

/-- Goals in order are searched like the first ones with the others to come. -/
theorem runAll_append (gs hs : List Goal) (next : Store → Run) :
    runAll (gs ++ hs) next = runAll gs (runAll hs next) := by
  induction gs with
  | nil =>
    funext s
    rw [List.nil_append, runAll]
  | cons g later ih =>
    funext s
    rw [List.cons_append, runAll, runAll, ih]

/-- What a search comes to that solves equations before it goes on. -/
inductive Solving (s : Store) (gs : List Goal) (next : Store → Run) (r : Run) : Prop where
  /-- The equations hold together in no valuation. -/
  | clash (hnone : ∀ ν, s.Allows ν → ¬∀ g ∈ gs, HoldsIn ν g) (hsucceeded : r.succeeded = false)
      (hprinted : r.printed = []) (hstore : r.store = s)
  /-- The search goes on from a store in which the equations hold. -/
  | solved {t : Store} (hacyclic : t.Acyclic) (hsize : t.size = s.size)
      (hiff : ∀ ν, t.Allows ν ↔ s.Allows ν ∧ ∀ g ∈ gs, HoldsIn ν g)
      (hsucceeded : r.succeeded = (next t).succeeded) (hprinted : r.printed = (next t).printed)
      (hstore : r.store = if (next t).succeeded then (next t).store else s)

theorem solving_nil (hs : s.Acyclic) (hnext : Restores next) : Solving s [] next (next s) := by
  refine .solved hs rfl (by simp) rfl rfl ?_
  cases hsucceeded : (next s).succeeded with
  | true => rfl
  | false => exact hnext s hsucceeded

theorem Solving.enter (h : Solving s gs next r) : Solving s gs next r.enter := by
  cases h with
  | clash hnone hsucceeded hprinted hstore => exact .clash hnone hsucceeded hprinted hstore
  | solved hacyclic hsize hiff hsucceeded hprinted hstore =>
    exact .solved hacyclic hsize hiff hsucceeded hprinted hstore

/-- One more equation is solved first. -/
theorem Solving.unify {a b : Cell} {later : Store → Run} (hs : s.Acyclic) (ha : s.Has a)
    (hb : s.Has b) (hlater : Restores later)
    (h : (s.unify a b).2.Acyclic → (s.unify a b).2.size = s.size →
      Solving (s.unify a b).2 gs next (later (s.unify a b).2)) :
    Solving s (.unify a b :: gs) next ((Goal.unify a b).runThen later s) := by
  cases hsolved : (s.unify a b).1.isSuccess with
  | false =>
    rw [runThen_unify_of_failed later hsolved]
    refine .clash (fun ν hν hall => ?_) rfl rfl rfl
    have hne := hs.ne_of_unify_failed (unify_of_not_isSuccess hsolved) hν
    exact hne (holdsIn_unify_iff.mp (hall _ List.mem_cons_self))
  | true =>
    obtain ⟨hacyclic, hsize, hiff⟩ :=
      hs.unify_spec (t := (s.unify a b).2) ha hb rfl (Unification.isSuccess_iff.mp hsolved)
    obtain ⟨hsucceeded, hprinted, -, hstore⟩ := runThen_unify_of_solved hlater hsolved
    have hcons : ∀ ν, (s.Allows ν ∧ ∀ g ∈ Goal.unify a b :: gs, HoldsIn ν g) ↔
        (s.unify a b).2.Allows ν ∧ ∀ g ∈ gs, HoldsIn ν g := by
      intro ν
      rw [hiff, List.forall_mem_cons, holdsIn_unify_iff, and_assoc]
    cases h hacyclic hsize with
    | clash hnone hfailed hprinted' hstore' =>
      refine .clash (fun ν hν hall => ?_) (hsucceeded.trans hfailed) (hprinted.trans hprinted') ?_
      · obtain ⟨hν', hall'⟩ := (hcons ν).mp ⟨hν, hall⟩
        exact hnone ν hν' hall'
      · rw [hstore, hfailed]
        rfl
    | solved hacyclic' hsize' hiff' hsucceeded' hprinted' hstore' =>
      refine .solved hacyclic' (hsize'.trans hsize) (fun ν => (hiff' ν).trans (hcons ν).symm)
        (hsucceeded.trans hsucceeded') (hprinted.trans hprinted') ?_
      rw [hstore, hsucceeded']
      split
      · next hnext => rw [hstore', if_pos hnext]
      · rfl

/-- A search that solves equations first goes on from a store that has exactly the valuations in which they
hold, if there are any. -/
theorem solving_runAll (hgs : ∀ g ∈ gs, g.IsEquation) (hs : s.Acyclic)
    (hcells : ∀ c ∈ cellsOfAll gs, s.Has c) (hnext : Restores next) :
    Solving s gs next (runAll gs next s) := by
  induction gs generalizing s with
  | nil =>
    rw [runAll]
    exact solving_nil hs hnext
  | cons g later ih =>
    obtain ⟨hg, hlater⟩ := List.forall_mem_cons.mp hgs
    obtain ⟨a, b, rfl⟩ := hg
    rw [cellsOfAll] at hcells
    obtain ⟨hab, hcells⟩ := List.forall_mem_append.mp hcells
    rw [runAll]
    refine (Solving.unify hs (hab a (by simp [cells])) (hab b (by simp [cells]))
      (restores_runAll later hnext) fun hacyclic hsize => ?_).enter
    exact ih hlater hacyclic fun c hc => (has_congr hsize).mpr (hcells c hc)

/-! ## Reordering -/

/-- What can be seen of two runs, but for the numbers of their steps: whether they succeed, what they
print, and what the cells stand for at the end. -/
structure SeemAlike (r r' : Run) : Prop where
  succeeded_eq : r.succeeded = r'.succeeded
  printed_eq : r.printed = r'.printed
  acyclic_left : r.store.Acyclic
  acyclic_right : r'.store.Acyclic
  allows_iff : ∀ ν, r.store.Allows ν ↔ r'.store.Allows ν

/-- After equations that hold in the same valuations, searches that see valuations only seem alike. -/
theorem Solving.seemAlike (hs : s.Acyclic) (hr : Solving s gs next r) (hr' : Solving s gs' next r')
    (hsame : ∀ ν, (∀ g ∈ gs, HoldsIn ν g) ↔ ∀ g ∈ gs', HoldsIn ν g)
    (hnext : Correspond (fun c d => c = d ∧ c.id < s.size) next next)
    (hsize : ∀ t, (next t).store.size = t.size) : SeemAlike r r' := by
  cases hr with
  | clash hnone hsucceeded hprinted hstore =>
    cases hr' with
    | clash _ hsucceeded' hprinted' hstore' =>
      refine ⟨hsucceeded.trans hsucceeded'.symm, hprinted.trans hprinted'.symm, ?_, ?_, ?_⟩
      · rw [hstore]
        exact hs
      · rw [hstore']
        exact hs
      · rw [hstore, hstore']
        exact fun ν => Iff.rfl
    | solved hacyclic _ hiff =>
      obtain ⟨hν, hall⟩ := (hiff _).mp (hacyclic.allows_fill fun _ => ⟨""⟩)
      exact absurd ((hsame _).mpr hall) (hnone _ hν)
  | @solved t hacyclic htsize hiff hsucceeded hprinted hstore =>
    cases hr' with
    | clash hnone =>
      obtain ⟨hν, hall⟩ := (hiff _).mp (hacyclic.allows_fill fun _ => ⟨""⟩)
      exact absurd ((hsame _).mp hall) (hnone _ hν)
    | @solved t' hacyclic' htsize' hiff' hsucceeded' hprinted' hstore' =>
      have hallows : ∀ ν, t.Allows ν ↔ t'.Allows ν := by
        intro ν
        rw [hiff, hiff', hsame]
      have hagree : Agree (fun c d => c = d ∧ c.id < s.size) t t' := by
        have hagree := agree_of_allows_iff hacyclic hacyclic' (htsize'.trans htsize.symm) hallows
        unfold Has at hagree
        rwa [htsize] at hagree
      have hmatch := hnext hagree
      have hends := hmatch.agree.allows_iff ((hsize t).trans htsize) ((hsize t').trans htsize')
      rw [← hmatch.succeeded_eq] at hsucceeded' hstore'
      refine ⟨hsucceeded.trans hsucceeded'.symm, ?_, ?_, ?_, ?_⟩
      · rw [hprinted, hprinted', hmatch.printed_eq]
      · rw [hstore]
        split
        · exact hmatch.agree.acyclic_left
        · exact hs
      · rw [hstore']
        split
        · exact hmatch.agree.acyclic_right
        · exact hs
      · rw [hstore, hstore']
        split
        · exact hends
        · exact fun ν => Iff.rfl

/-- **The order of equations does not matter.** Two conjunctions have the same equations in different
orders, and the same goal behind them. Then both hold or both fail, they print the same, and they leave
stores in which each cell stands for the same symbol, if for any, and the unbound variables are the
same. -/
theorem run_and_perm (hs : s.Acyclic) (hgs : ∀ g ∈ gs, g.IsEquation) (hperm : gs.Perm gs')
    (hcells : ∀ c ∈ cellsOfAll gs, s.Has c) (hgoal : ∀ c ∈ h.cells, s.Has c) :
    let r := (Goal.and (gs ++ [h])).run s
    let r' := (Goal.and (gs' ++ [h])).run s
    r.succeeded = r'.succeeded ∧ r.printed = r'.printed ∧
      (∀ c, r.store.value c = r'.store.value c) ∧
      ∀ a b, r.store.isUnbound a = true → r.store.isUnbound b = true →
        r.store.sameVariable a b = r'.store.sameVariable a b := by
  intro r r'
  have hrestores : Restores (runAll [h] finish) := restores_runAll [h] restores_finish
  have hrun : ∀ es, (∀ g ∈ es, g.IsEquation) → (∀ c ∈ cellsOfAll es, s.Has c) →
      Solving s es (runAll [h] finish) ((Goal.and (es ++ [h])).run s) := by
    intro es hes hescells
    rw [run, runThen, runAll_append]
    exact (solving_runAll hes hs hescells hrestores).enter
  have hsolving := hrun gs hgs hcells
  have hsolving' := hrun gs' (fun g hg => hgs g (hperm.mem_iff.mpr hg)) fun c hc => by
    obtain ⟨g, hg, hc⟩ := mem_cellsOfAll.mp hc
    exact hcells c (mem_cellsOfAll.mpr ⟨g, hperm.mem_iff.mpr hg, hc⟩)
  have hnext : Correspond (fun c d => c = d ∧ c.id < s.size) (runAll [h] finish)
      (runAll [h] finish) := by
    refine correspond_runAll [h] (.cons (alike_refl h fun c hc => ⟨rfl, hgoal c hc⟩) .nil)
      restores_finish restores_finish correspond_finish
  have hseem : SeemAlike r r' := by
    refine hsolving.seemAlike hs hsolving' (fun ν => ?_) hnext fun t => ?_
    · simp only [hperm.mem_iff]
    · exact (sizeInvariant t.size).keeps_runAll [h] (fun _ _ => trivial)
        SearchInvariant.keeps_finish t rfl
  refine ⟨hseem.succeeded_eq, hseem.printed_eq, ?_, fun a b ha hb => ?_⟩
  · exact value_eq_of_allows_iff hseem.acyclic_left hseem.acyclic_right hseem.allows_iff
  · exact sameVariable_eq_of_allows_iff hseem.acyclic_left hseem.acyclic_right hseem.allows_iff ha hb

/-- Equations between `X`, `Y` and a constant and between `U`, `V` and `W`, in two orders. The first
alternative that comes behind them prints and fails, and the second one prints again. The aliases are
different ones at the end. -/
theorem run_and_perm_alternatives :
    let s : Store := ⟨#[⟨some "X", .unbound⟩, ⟨some "Y", .unbound⟩, ⟨some "U", .unbound⟩,
      ⟨some "V", .unbound⟩, ⟨some "W", .unbound⟩, ⟨none, .bound ⟨"a"⟩⟩, ⟨none, .bound ⟨"b"⟩⟩]⟩
    let gs : List Goal := [.unify ⟨0⟩ ⟨1⟩, .unify ⟨2⟩ ⟨3⟩, .unify ⟨1⟩ ⟨5⟩, .unify ⟨3⟩ ⟨4⟩]
    let gs' : List Goal := [.unify ⟨3⟩ ⟨4⟩, .unify ⟨1⟩ ⟨5⟩, .unify ⟨0⟩ ⟨1⟩, .unify ⟨2⟩ ⟨3⟩]
    let h : Goal := .or [.and [.print ⟨0⟩, .unify ⟨1⟩ ⟨6⟩], .print ⟨1⟩]
    let r := (Goal.and (gs ++ [h])).run s
    let r' := (Goal.and (gs' ++ [h])).run s
    gs.Perm gs' ∧ r'.succeeded = true ∧ r'.printed = [⟨"a"⟩, ⟨"a"⟩] ∧ r.store ≠ r'.store ∧
      r'.store.value ⟨0⟩ = some ⟨"a"⟩ ∧ r'.store.sameVariable ⟨2⟩ ⟨4⟩ = true := by
  intro s gs gs' h r r'
  have hs : s.Acyclic := by decide
  have hgs : ∀ g ∈ gs, g.IsEquation := by
    intro g hg
    simp only [gs, List.mem_cons, List.not_mem_nil, or_false] at hg
    rcases hg with rfl | rfl | rfl | rfl <;> exact ⟨_, _, rfl⟩
  have hperm : gs.Perm gs' := by
    have hhalves : ([.unify ⟨0⟩ ⟨1⟩, .unify ⟨2⟩ ⟨3⟩] ++ [.unify ⟨1⟩ ⟨5⟩, .unify ⟨3⟩ ⟨4⟩] :
        List Goal).Perm _ := List.perm_append_comm
    exact hhalves.trans (.swap _ _ _)
  obtain ⟨hsucceeded, hprinted, hvalue, hvariable⟩ := run_and_perm hs hgs hperm
    (show ∀ c ∈ cellsOfAll gs, c.id < 7 by decide) (show ∀ c ∈ h.cells, c.id < 7 by decide)
  refine ⟨hperm, hsucceeded ▸ by decide, hprinted ▸ by decide, by decide, ?_, ?_⟩
  · rw [← hvalue]
    decide
  · rw [← hvariable ⟨2⟩ ⟨4⟩ (by decide) (by decide)]
    decide

end Goal

end GoalSearch
