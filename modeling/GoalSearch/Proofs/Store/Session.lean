import GoalSearch.Proofs.Search.Invariant
import GoalSearch.Proofs.Store.Lawful

/-!
# Sessions with a store

Whoever uses a store creates cells, solves equations, reverts the bindings that were reported, collects
them in trails and undoes these, and searches for goals, in any order. A binding can be reverted again
and again, also when other equations have been solved in between. In every state of a session the store
is lawful, and every reported binding is one that made a variable an alias (`cells_of_reachable`).
-/

namespace GoalSearch

open Store

structure Session where
  store : Store
  /-- The symbols of the cells that were created bound. -/
  constants : Constants
  /-- All bindings that were ever reported. -/
  reported : List Binding
  trails : Nat → Trail

namespace Session

def start : Session := ⟨.empty, fun _ => none, [], fun _ => .empty⟩

inductive Step : Session → Session → Prop where
  | createUnnamed (s : Session) : Step s { s with store := s.store.createUnnamed.2 }
  | createNamed (s : Session) (name : String) :
      Step s { s with store := (s.store.createNamed name).2 }
  | createBound (s : Session) (v : Symbol) :
      Step s { s with
        store := (s.store.createBound v).2
        constants := Function.update s.constants (s.store.createBound v).1 (some v) }
  | unify (s : Session) {a b : Cell} (ha : s.store.Has a) (hb : s.store.Has b) :
      Step s { s with
        store := (s.store.unify a b).2
        reported := (s.store.unify a b).1.binding?.toList ++ s.reported }
  | revert (s : Session) {b : Binding} (hb : b ∈ s.reported) :
      Step s { s with store := s.store.revert b }
  | record (s : Session) (i : Nat) {b : Binding} (hb : b ∈ s.reported) :
      Step s { s with trails := Function.update s.trails i ((s.trails i).record b) }
  | extend (s : Session) (i : Nat) (bs : List Binding) (hbs : ∀ b ∈ bs, b ∈ s.reported) :
      Step s { s with trails := Function.update s.trails i ((s.trails i).extend bs) }
  | undo (s : Session) (i : Nat) :
      Step s { s with
        store := ((s.trails i).undo s.store).2
        trails := Function.update s.trails i ((s.trails i).undo s.store).1 }
  | invoke (s : Session) (g future : Goal) (hg : ∀ c ∈ g.cells, s.store.Has c)
      (hfuture : ∀ c ∈ future.cells, s.store.Has c) :
      Step s { s with store := (g.invoke future s.store).store }

/-- A session that began with nothing. -/
inductive Reachable : Session → Prop where
  | start : Reachable start
  | step {s t : Session} (h : Reachable s) (hstep : Step s t) : Reachable t

/-! ## Searches and trails -/

/-- Searches keep a store lawful and create no cells. -/
theorem searchInvariant (constants : Constants) (size : Nat) :
    SearchInvariant (fun c => c.id < size) (fun s => s.Lawful constants ∧ s.size = size)
      (Revertible constants) where
  unify := by
    rintro s a b ha hb ⟨hlawful, rfl⟩
    exact ⟨hlawful.unify ha hb, s.size_unify a b⟩
  binding := by
    rintro s a b made - - ⟨hlawful, -⟩ hmade
    exact hlawful.revertible_of_unify hmade
  revert := by
    rintro s made hmade ⟨hlawful, hsize⟩
    exact ⟨hlawful.revert hmade, (size_setState s _ _).trans hsize⟩

theorem bindings_extend (t : Trail) (bs : List Binding) :
    (t.extend bs).bindings = bs.reverse ++ t.bindings := by
  induction bs generalizing t with
  | nil => rfl
  | cons b later ih =>
    rw [Trail.extend, List.foldl_cons, ← Trail.extend, ih, Trail.record, List.reverse_cons,
      List.append_assoc, List.singleton_append]

/-- Reverting bindings in any order keeps a store lawful. -/
theorem lawful_foldl_revert {constants : Constants} {bs : List Binding} {s : Store}
    (h : s.Lawful constants) (hbs : ∀ b ∈ bs, Revertible constants b) :
    (bs.foldl Store.revert s).Lawful constants ∧ (bs.foldl Store.revert s).size = s.size := by
  induction bs generalizing s with
  | nil => exact ⟨h, rfl⟩
  | cons b later ih =>
    obtain ⟨hb, hlater⟩ := List.forall_mem_cons.mp hbs
    obtain ⟨hlawful, hsize⟩ := ih (h.revert hb) hlater
    exact ⟨hlawful, hsize.trans (size_setState s _ _)⟩

/-! ## Steps -/

/-- A lawful store, and bindings that can be reverted. -/
structure Lawful (s : Session) : Prop where
  store : s.store.Lawful s.constants
  revertible : ∀ b ∈ s.reported, Revertible s.constants b
  /-- Bindings are of cells of the store. -/
  has : ∀ b ∈ s.reported, s.store.Has b.cell
  /-- Trails hold reported bindings. -/
  trails : ∀ i, ∀ b ∈ (s.trails i).bindings, b ∈ s.reported

variable {s t : Session}

theorem lawful_start : start.Lawful where
  store := lawful_empty
  revertible := nofun
  has := nofun
  trails := nofun

theorem Lawful.withStore (h : s.Lawful) {store : Store} (hstore : store.Lawful s.constants)
    (hsize : s.store.size ≤ store.size) : Lawful { s with store := store } where
  store := hstore
  revertible := h.revertible
  has := fun b hb => Nat.lt_of_lt_of_le (h.has b hb) hsize
  trails := h.trails

theorem Lawful.withTrail (h : s.Lawful) (i : Nat) {trail : Trail}
    (htrail : ∀ b ∈ trail.bindings, b ∈ s.reported) :
    Lawful { s with trails := Function.update s.trails i trail } where
  store := h.store
  revertible := h.revertible
  has := h.has
  trails := by
    intro j b hb
    by_cases hj : j = i
    · simp only [hj, Function.update_self] at hb
      exact htrail b hb
    · simp only [Function.update_of_ne hj] at hb
      exact h.trails j b hb

theorem Lawful.createBound (h : s.Lawful) (v : Symbol) :
    Lawful { s with
      store := (s.store.createBound v).2
      constants := Function.update s.constants (s.store.createBound v).1 (some v) } where
  store := h.store.createConstant v
  revertible := by
    intro b hb
    -- reported bindings are of older cells, so none of them is of the new constant
    obtain ⟨hprevious, hconstant⟩ := h.revertible b hb
    have hne : b.cell ≠ (s.store.createBound v).1 := fun heq =>
      s.store.not_has_create none (.bound v) (heq ▸ h.has b hb)
    exact ⟨hprevious, (Function.update_of_ne hne _ _).trans hconstant⟩
  has := fun b hb => (has_create_iff none (.bound v)).mpr (.inl (h.has b hb))
  trails := h.trails

theorem Lawful.unify (h : s.Lawful) {a b : Cell} (ha : s.store.Has a) (hb : s.store.Has b) :
    Lawful { s with
      store := (s.store.unify a b).2
      reported := (s.store.unify a b).1.binding?.toList ++ s.reported } := by
  refine ⟨h.store.unify ha hb, ?_, ?_, fun i made hmade => ?_⟩
  · intro made hmade
    rcases List.mem_append.mp hmade with hnew | hold
    · exact h.store.revertible_of_unify (Option.mem_toList.mp hnew)
    · exact h.revertible made hold
  · intro made hmade
    show made.cell.id < (s.store.unify a b).2.size
    rw [size_unify]
    rcases List.mem_append.mp hmade with hnew | hold
    · exact h.store.acyclic.has_of_unify ha hb (Option.mem_toList.mp hnew)
    · exact h.has made hold
  · exact List.mem_append_right _ (h.trails i made hmade)

/-- Whatever is done, a session stays lawful. -/
theorem Lawful.step (h : s.Lawful) (hstep : Step s t) : t.Lawful := by
  cases hstep with
  | createUnnamed =>
    exact h.withStore (h.store.createVariable none) (by simp [Store.createUnnamed])
  | createNamed name =>
    exact h.withStore (h.store.createVariable (some name)) (by simp [Store.createNamed])
  | createBound v => exact h.createBound v
  | unify ha hb => exact h.unify ha hb
  | @revert b hb =>
    exact h.withStore (h.store.revert (h.revertible b hb)) (size_setState _ _ _).ge
  | record i hb =>
    exact h.withTrail i (List.forall_mem_cons.mpr ⟨hb, h.trails i⟩)
  | extend i bs hbs =>
    refine h.withTrail i ?_
    rw [bindings_extend]
    simpa [or_imp, forall_and] using ⟨hbs, h.trails i⟩
  | undo i =>
    obtain ⟨hlawful, hsize⟩ := lawful_foldl_revert h.store
      fun b hb => h.revertible b (h.trails i b hb)
    exact (h.withStore hlawful hsize.ge).withTrail i nofun
  | invoke g future hg hfuture =>
    obtain ⟨hlawful, hsize⟩ := (searchInvariant s.constants s.store.size).keeps_invoke hg hfuture
      s.store ⟨h.store, rfl⟩
    exact h.withStore hlawful hsize.ge

theorem Reachable.lawful (h : s.Reachable) : s.Lawful := by
  induction h with
  | start => exact lawful_start
  | step _ hstep ih => exact ih.step hstep

/-- **The cells of a session.** In every state of a session the aliases of each cell lead to a cell that
is unbound or bound; a cell that was created bound still holds its symbol; every other cell is unbound or
an alias of another cell; and every binding that was ever reported was a write to an unbound cell. -/
theorem cells_of_reachable (h : s.Reachable) :
    (∀ c, s.store.Has c → s.store.Has (s.store.deref c) ∧ s.store.Leads c (s.store.deref c) ∧
      (s.store.state (s.store.deref c) = .unbound ∨
        ∃ v, s.store.state (s.store.deref c) = .bound v)) ∧
    (∀ c v, s.constants c = some v → s.store.state c = .bound v) ∧
    (∀ c, s.store.Has c → s.constants c = none →
      s.store.state c = .unbound ∨
        ∃ d, s.store.state c = .aliasOf d ∧ s.store.Has d ∧ d ≠ c) ∧
    ∀ b ∈ s.reported, b.previous = .unbound := by
  have hlawful := h.lawful
  have hacyclic := hlawful.store.acyclic
  refine ⟨fun c hc => ?_, fun c v => hlawful.store.constant,
    fun c => hlawful.store.unbound_or_alias, fun b hb => (hlawful.revertible b hb).previous⟩
  exact ⟨hacyclic.has_deref hc, hacyclic.leads_deref c, (hacyclic.isEnd_deref c).cases⟩

/-- `X = Y` and `Y = a` are solved, and the binding of `X` is reverted first. `X = a` is solved, both
are reverted through a trail, and `Y = X` is solved in a search. -/
theorem cells_of_reachable_crossed :
    let cells (first second : CellState) : Store :=
      ⟨#[⟨some "X", first⟩, ⟨some "Y", second⟩, ⟨none, .bound ⟨"a"⟩⟩]⟩
    let made (id : Nat) : Binding := ⟨⟨id⟩, .unbound⟩
    ∃ s : Session, s.Reachable ∧ s.store = cells .unbound (.aliasOf ⟨0⟩) ∧
      s.reported = [made 0, made 1, made 0] ∧
      s.store.Leads ⟨1⟩ ⟨0⟩ ∧ s.store.state ⟨2⟩ = .bound ⟨"a"⟩ := by
  intro cells made
  let constants : Constants := Function.update (fun _ => none) ⟨2⟩ (some ⟨"a"⟩)
  have hcells : Reachable ⟨cells .unbound .unbound, constants, [], fun _ => .empty⟩ :=
    .step (.step (.step .start (.createNamed _ "X")) (.createNamed _ "Y")) (.createBound _ ⟨"a"⟩)
  have hX : Reachable ⟨cells (.aliasOf ⟨1⟩) .unbound, constants, [made 0], fun _ => .empty⟩ :=
    hcells.step (.unify _ (a := ⟨0⟩) (b := ⟨1⟩) (show 0 < 3 by decide) (show 1 < 3 by decide))
  have hY : Reachable ⟨cells (.aliasOf ⟨1⟩) (.aliasOf ⟨2⟩), constants, [made 1, made 0],
      fun _ => .empty⟩ :=
    hX.step (.unify _ (a := ⟨1⟩) (b := ⟨2⟩) (show 1 < 3 by decide) (show 2 < 3 by decide))
  have hreverted : Reachable ⟨cells .unbound (.aliasOf ⟨2⟩), constants, [made 1, made 0],
      fun _ => .empty⟩ :=
    hY.step (.revert _ (b := made 0) (by decide))
  have hagain : Reachable ⟨cells (.aliasOf ⟨2⟩) (.aliasOf ⟨2⟩), constants,
      [made 0, made 1, made 0], fun _ => .empty⟩ :=
    hreverted.step (.unify _ (a := ⟨0⟩) (b := ⟨2⟩) (show 0 < 3 by decide) (show 2 < 3 by decide))
  let trails : Nat → Trail := Function.update (fun _ => .empty) 7 ⟨[made 0, made 1]⟩
  have hrecorded : Reachable ⟨cells (.aliasOf ⟨2⟩) (.aliasOf ⟨2⟩), constants,
      [made 0, made 1, made 0], trails⟩ :=
    hagain.step (.extend _ 7 [made 1, made 0] (by decide))
  have hundone : Reachable ⟨cells .unbound .unbound, constants, [made 0, made 1, made 0],
      Function.update trails 7 .empty⟩ :=
    hrecorded.step (.undo _ 7)
  let g : Goal := .or [.and [.unify ⟨1⟩ ⟨2⟩, .or []], .unify ⟨1⟩ ⟨0⟩]
  have hstore : (g.invoke (.unify ⟨0⟩ ⟨1⟩) (cells .unbound .unbound)).store =
      cells .unbound (.aliasOf ⟨0⟩) := by
    decide
  have hsearched := hundone.step (.invoke _ g (.unify ⟨0⟩ ⟨1⟩)
    (show ∀ c ∈ g.cells, c.id < 3 by decide) (show ∀ c ∈ Goal.cells _, c.id < 3 by decide))
  simp only [hstore] at hsearched
  obtain ⟨hleads, hconstant, -, -⟩ := cells_of_reachable hsearched
  exact ⟨_, hsearched, rfl, rfl, (hleads ⟨1⟩ (show 1 < 3 by decide)).2.1,
    hconstant ⟨2⟩ ⟨"a"⟩ rfl⟩

end Session

end GoalSearch
