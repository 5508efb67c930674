import GoalSearch.Proofs.Search.Branch
import GoalSearch.Proofs.Store.Unifier

/-!
# Searching again

A goal that has been searched for can be searched for again. After a failure the second search is the
first one over again. After a success it succeeds as well, and without printings in the goal it changes
nothing:

    (g.run s).succeeded = true → (g.run (g.run s).store).succeeded = true

(`run_again`). The branch that the first search followed carries the proof. All its leaves are settled in
the store at its end, since each was when it was passed, and the stores behind it said only more
(`settled_of_follow?`). So it can be followed from there without a write (`follow?_again`). The second
search need not take it: a printing that has failed before may be passed now. An equation that has failed
before fails again, though (`isSome_follow?_of_narrows`), so that the branches before the one with the
answer stay closed if there are only equations on them.
-/

namespace GoalSearch

namespace Store

variable {s t u : Store} {a b c : Cell}

/-! ## Stores that say more -/

/-- A later store has no cycle either, and says all that an earlier one over the same cells does. -/
structure Narrows (s t : Store) : Prop where
  acyclic : t.Acyclic
  size_eq : t.size = s.size
  allows : ∀ {ν : Valuation}, t.Allows ν → s.Allows ν

theorem Acyclic.narrows_refl (hs : s.Acyclic) : s.Narrows s := ⟨hs, rfl, fun h => h⟩

theorem Narrows.trans (h : s.Narrows t) (h' : t.Narrows u) : s.Narrows u :=
  ⟨h'.acyclic, h'.size_eq.trans h.size_eq, fun hν => h.allows (h'.allows hν)⟩

theorem Narrows.has (h : s.Narrows t) (hc : s.Has c) : t.Has c := (has_congr h.size_eq).mpr hc

theorem Narrows.same (h : s.Narrows t) (hs : s.Acyclic) (hab : s.Same a b) : t.Same a b := by
  rw [hs.same_iff_forall_allows] at hab
  rw [h.acyclic.same_iff_forall_allows]
  exact fun ν hν => hab ν (h.allows hν)

theorem Narrows.value (h : s.Narrows t) (hs : s.Acyclic) {v : Symbol} (hc : s.value c = some v) :
    t.value c = some v := by
  rw [hs.value_eq_some_iff] at hc
  rw [h.acyclic.value_eq_some_iff]
  exact fun ν hν => hc ν (h.allows hν)

theorem Acyclic.narrows_unify (hs : s.Acyclic) (ha : s.Has a) (hb : s.Has b)
    (h : (s.unify a b).1.isSuccess = true) : s.Narrows (s.unify a b).2 := by
  obtain ⟨hacyclic, hsize, hiff⟩ :=
    hs.unify_spec (t := (s.unify a b).2) ha hb rfl (Unification.isSuccess_iff.mp h)
  exact ⟨hacyclic, hsize, fun hν => ((hiff _).mp hν).1⟩

/-- An equation between cells that stand for the same is solved already. -/
theorem Acyclic.unify_of_same (hs : s.Acyclic) (h : s.Same a b) : s.unify a b = (.unchanged, s) := by
  have hsolved := hs.unify_isSuccess_iff.mpr (.inl h)
  have hcase := s.unify_case a b
  generalize s.unify a b = result at hsolved hcase
  cases hcase with
  | same _ => rfl
  | linkLeft hne hl => exact absurd h.symm (not_same_of_unbound hl hne.symm)
  | linkRight hne _ hr => exact absurd h (not_same_of_unbound hr hne)
  | equal _ _ => rfl
  | clash _ _ _ => cases hsolved

/-- Solving an equation makes its sides stand for the same. -/
theorem Acyclic.same_unify (hs : s.Acyclic) (ha : s.Has a) (hb : s.Has b)
    (h : (s.unify a b).1.isSuccess = true) : (s.unify a b).2.Same a b :=
  (hs.merges_unify ha hb h).same_iff.mpr (.inr (.inl ⟨rfl, rfl⟩))

/-- What an equation leaves of a store that says more says more as well, and what can be solved there can
be solved before. -/
theorem Narrows.unify (h : s.Narrows t) (hs : s.Acyclic) (ha : s.Has a) (hb : s.Has b)
    (hsolved : (t.unify a b).1.isSuccess = true) :
    (s.unify a b).1.isSuccess = true ∧ (s.unify a b).2.Narrows (t.unify a b).2 := by
  obtain ⟨hacyclic, -, hiff⟩ := h.acyclic.unify_spec (t := (t.unify a b).2) (h.has ha) (h.has hb) rfl
    (Unification.isSuccess_iff.mp hsolved)
  -- A valuation of the later store solves the equation in the earlier one.
  have hsuccess : (s.unify a b).1.isSuccess = true := by
    rw [Unification.isSuccess_iff]
    intro hfailed
    obtain ⟨hν, heq⟩ := (hiff _).mp (hacyclic.allows_fill fun _ => ⟨""⟩)
    exact (hs.unify_failed_iff (t := (s.unify a b).2) ha hb rfl).mp hfailed _ (h.allows hν) heq
  obtain ⟨-, -, hiff'⟩ := hs.unify_spec (t := (s.unify a b).2) ha hb rfl
    (Unification.isSuccess_iff.mp hsuccess)
  refine ⟨hsuccess, hacyclic, ?_, fun {ν} hν => ?_⟩
  · rw [size_unify, size_unify, h.size_eq]
  · obtain ⟨ht, heq⟩ := (hiff ν).mp hν
    exact (hiff' ν).mpr ⟨h.allows ht, heq⟩

end Store

open Store

/-! ## Leaves that are settled -/

namespace Leaf

variable {s t : Store} {l : Leaf}

/-- A leaf can be passed without a write. -/
def Settled (s : Store) : Leaf → Prop
  | .print c => (s.value c).isSome = true
  | .unify a b => s.Same a b

theorem Settled.pass? (hs : s.Acyclic) (h : l.Settled s) : l.pass? s = some s := by
  cases l with
  | print c => exact if_pos h
  | unify a b =>
    rw [Leaf.pass?, hs.unify_of_same h]
    rfl

/-- A leaf stays settled in stores that say more. -/
theorem Settled.mono (hs : s.Acyclic) (h : l.Settled s) (hle : s.Narrows t) : l.Settled t := by
  cases l with
  | print c =>
    obtain ⟨v, hv⟩ := Option.isSome_iff_exists.mp h
    exact Option.isSome_iff_exists.mpr ⟨v, hle.value hs hv⟩
  | unify a b => exact hle.same hs h

/-- A leaf that has been passed is settled. -/
theorem settled_of_pass? (hs : s.Acyclic) (hcells : ∀ c ∈ l.cells, s.Has c)
    (h : l.pass? s = some t) : s.Narrows t ∧ l.Settled t := by
  cases l with
  | print c =>
    obtain ⟨hvalue, hst⟩ := Option.ite_none_right_eq_some.mp h
    obtain rfl := Option.some.inj hst
    exact ⟨hs.narrows_refl, hvalue⟩
  | unify a b =>
    obtain ⟨hsolved, hst⟩ := Option.ite_none_right_eq_some.mp h
    obtain rfl := Option.some.inj hst
    have ha := hcells a (by simp [cells])
    have hb := hcells b (by simp [cells])
    exact ⟨hs.narrows_unify ha hb hsolved, hs.same_unify ha hb hsolved⟩

end Leaf

/-! ## Branches that are followed again -/

namespace Branch

variable {s t : Store} {b : Branch}

/-- **Settled leaves** are passed without a write. -/
theorem follow?_of_settled (hs : s.Acyclic) (h : ∀ l ∈ b, l.Settled s) : follow? b s = some s := by
  induction b with
  | nil => rfl
  | cons l b ih =>
    obtain ⟨hl, hb⟩ := List.forall_mem_cons.mp h
    rw [follow?_cons, hl.pass? hs, Option.bind_some]
    exact ih hb

/-- The leaves of a branch that has been followed are settled at its end. -/
theorem settled_of_follow? (hs : s.Acyclic) (hcells : ∀ l ∈ b, ∀ c ∈ l.cells, s.Has c)
    (h : follow? b s = some t) : s.Narrows t ∧ ∀ l ∈ b, l.Settled t := by
  induction b generalizing s with
  | nil =>
    obtain rfl := Option.some.inj h
    exact ⟨hs.narrows_refl, by simp⟩
  | cons l b ih =>
    obtain ⟨hl, hb⟩ := List.forall_mem_cons.mp hcells
    obtain ⟨u, hu, h⟩ := Option.bind_eq_some_iff.mp h
    obtain ⟨hsu, hsettled⟩ := Leaf.settled_of_pass? hs hl hu
    obtain ⟨hut, hlater⟩ := ih hsu.acyclic (fun l hl c hc => hsu.has (hb l hl c hc)) h
    exact ⟨hsu.trans hut, List.forall_mem_cons.mpr ⟨hsettled.mono hsu.acyclic hut, hlater⟩⟩

theorem follow?_again (hs : s.Acyclic) (hcells : ∀ l ∈ b, ∀ c ∈ l.cells, s.Has c)
    (h : follow? b s = some t) : follow? b t = some t := by
  obtain ⟨hle, hsettled⟩ := settled_of_follow? hs hcells h
  exact follow?_of_settled hle.acyclic hsettled

/-- A branch of equations that can be followed from a store that says more could be followed before. -/
theorem isSome_follow?_of_narrows (hs : s.Acyclic) (hcells : ∀ l ∈ b, ∀ c ∈ l.cells, s.Has c)
    (hb : ∀ l ∈ b, l.IsEquation) (hle : s.Narrows t) (h : (follow? b t).isSome = true) :
    (follow? b s).isSome = true := by
  induction b generalizing s t with
  | nil => rfl
  | cons l b ih =>
    obtain ⟨⟨x, y, rfl⟩, hequations⟩ := List.forall_mem_cons.mp hb
    obtain ⟨hl, hcells⟩ := List.forall_mem_cons.mp hcells
    have hx := hl x (by simp [Leaf.cells])
    have hy := hl y (by simp [Leaf.cells])
    rw [follow?_cons, Leaf.pass?] at h ⊢
    cases hsolved : (t.unify x y).1.isSuccess with
    | false =>
      rw [hsolved] at h
      cases h
    | true =>
      obtain ⟨hsuccess, hle'⟩ := hle.unify hs hx hy hsolved
      have hsu := hs.narrows_unify hx hy hsuccess
      rw [if_pos hsolved, Option.bind_some] at h
      rw [if_pos hsuccess, Option.bind_some]
      exact ih hsu.acyclic (fun l hl c hc => hsu.has (hcells l hl c hc)) hequations hle' h

end Branch

/-! ## Second searches -/

namespace Goal

open Branch

variable {s : Store} {g : Goal}

/-- A second search goes like the first one where that has failed. -/
theorem run_again_of_failed (h : (g.run s).succeeded = false) : g.run (g.run s).store = g.run s := by
  rw [restores_run g s h]

theorem Plain.succeeded_run_again (hg : g.Plain) (hs : s.Acyclic) (hcells : ∀ c ∈ g.cells, s.Has c)
    (h : (g.run s).succeeded = true) : (g.run (g.run s).store).succeeded = true := by
  obtain ⟨before, b, later, hbranches, hend, -⟩ := hg.exists_followed h
  have hb : b ∈ g.branches := by simp [hbranches]
  refine (hg.succeeded_run_iff _).mpr ⟨b, hb, ?_⟩
  rw [follow?_again hs (fun l hl c hc => hcells c (hg.mem_cells hb hl hc)) hend]
  rfl

/-- Without printings the branch that was followed is the first one again that can be. -/
theorem Equational.store_run_again (hg : g.Equational) (hs : s.Acyclic)
    (hcells : ∀ c ∈ g.cells, s.Has c) (h : (g.run s).succeeded = true) :
    (g.run (g.run s).store).store = (g.run s).store := by
  obtain ⟨before, b, later, hbranches, hend, hbefore⟩ := hg.plain.exists_followed h
  have hhas : ∀ c ∈ g.branches, ∀ l ∈ c, ∀ x ∈ l.cells, s.Has x :=
    fun c hc l hl x hx => hcells x (hg.plain.mem_cells hc hl hx)
  have hb : b ∈ g.branches := by simp [hbranches]
  obtain ⟨hle, -⟩ := settled_of_follow? hs (hhas b hb) hend
  have hclosed : ∀ c ∈ before, follow? c (g.run s).store = none := by
    intro c hc
    have hmem : c ∈ g.branches := by simp [hbranches, hc]
    by_contra hopen
    have hsome := isSome_follow?_of_narrows hs (hhas c hmem) (fun l hl => hg.isEquation hmem hl) hle
      (Option.isSome_iff_ne_none.mpr hopen)
    rw [hbefore c hc] at hsome
    cases hsome
  have hfound : g.branches.findSome? (follow? · (g.run s).store) = some (g.run s).store :=
    List.findSome?_eq_some_iff.mpr ⟨before, b, later, hbranches, follow?_again hs (hhas b hb) hend, hclosed⟩
  rw [hg.plain.findSome?_branches] at hfound
  obtain ⟨-, hstore⟩ := Option.ite_none_right_eq_some.mp hfound
  exact Option.some.inj hstore

/-- **Searching again is stable.** A plain goal that fails does so again, with the same printed and as many
nodes entered. One that succeeds does so again from the store that it left, and if there is no printing in
it the second search leaves that store as it is. -/
theorem run_again (hg : g.Plain) (hs : s.Acyclic) (hcells : ∀ c ∈ g.cells, s.Has c) :
    let first := g.run s
    let second := g.run first.store
    (first.succeeded = false →
      second.succeeded = false ∧ second.printed = first.printed ∧ second.steps = first.steps) ∧
    (first.succeeded = true →
      second.succeeded = true ∧ (g.Equational → second.store = first.store)) := by
  intro first second
  constructor
  · intro h
    have hagain : second = first := run_again_of_failed h
    rw [hagain]
    exact ⟨h, rfl, rfl⟩
  · intro h
    exact ⟨hg.succeeded_run_again hs hcells h, fun hequational => hequational.store_run_again hs hcells h⟩

/-- The printing fails at first, since `Y` is unbound, and is passed the second time. The goal with an
equation in its place undoes that equation at first, and does not even solve it the second time. -/
theorem run_again_printing :
    let s : Store := ⟨#[⟨some "X", .unbound⟩, ⟨none, .bound ⟨"a"⟩⟩, ⟨none, .bound ⟨"b"⟩⟩,
      ⟨some "Y", .aliasOf ⟨0⟩⟩]⟩
    let g : Goal := .and [.or [.print ⟨3⟩, .unify ⟨0⟩ ⟨1⟩], .or [.unify ⟨3⟩ ⟨2⟩, .and []]]
    let h : Goal := .and [.or [.unify ⟨3⟩ ⟨2⟩, .unify ⟨0⟩ ⟨1⟩], .unify ⟨1⟩ ⟨3⟩]
    let g' : Goal := .and [g, .unify ⟨0⟩ ⟨2⟩]
    (g.run s).printed = [] ∧ (g.run (g.run s).store).printed = [⟨"a"⟩] ∧
      (g.run (g.run s).store).succeeded = true ∧
      (h.run s).steps = 10 ∧ (h.run (h.run s).store).steps = 8 ∧
      (h.run (h.run s).store).store = (h.run s).store ∧
      (g'.run (g'.run s).store).succeeded = false := by
  intro s g h g'
  have hs : s.Acyclic := by decide
  have hg : ∀ c ∈ g.cells, s.Has c := show ∀ c ∈ g.cells, c.id < 4 by decide
  have hh : ∀ c ∈ h.cells, s.Has c := show ∀ c ∈ h.cells, c.id < 4 by decide
  have hg' : ∀ c ∈ g'.cells, s.Has c := show ∀ c ∈ g'.cells, c.id < 4 by decide
  have hequational : h.Equational := by
    refine .and (List.forall_mem_cons.mpr ⟨.or ?_, List.forall_mem_singleton.mpr (.unify _ _)⟩)
    exact List.forall_mem_cons.mpr ⟨.unify _ _, List.forall_mem_singleton.mpr (.unify _ _)⟩
  obtain ⟨-, hgagain⟩ := run_again (g := g) (by decide) hs hg
  obtain ⟨-, hhagain⟩ := run_again hequational.plain hs hh
  obtain ⟨hfailed, -⟩ := run_again (g := g') (by decide) hs hg'
  exact ⟨by decide, by decide, (hgagain (by decide)).1, by decide, by decide,
    (hhagain (by decide)).2 hequational, (hfailed (by decide)).1⟩

end Goal

end GoalSearch
