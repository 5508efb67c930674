import GoalSearch.Proofs.Search.Invariant
import GoalSearch.Proofs.Store.Content

/-!
# Searches see what a store says

Two searches for the same goal from stores that say the same go the same way: both succeed or both fail,
they print the same, enter as many nodes, and end in stores that say the same again. The cells of the two
goals need not be the same ones, only correspond to each other, and the sides of equations may be
exchanged (`Alike`):

    g.Alike R h → Correspond R next next' → Correspond R (g.runThen next) (h.runThen next')

(`correspond_runThen`). A node that solves an equation relies on what comes later to undo its own
equations, so that after a failure the stores are those that agreed before.
-/

namespace GoalSearch

open Store

/-! ## Steps and prints -/

namespace Run

variable {r : Run} {next : Store → Run}

@[simp] theorem steps_enter (r : Run) : r.enter.steps = r.steps + 1 := by
  simp [steps, enter]

@[simp] theorem printed_enter (r : Run) : r.enter.printed = r.printed := rfl

@[simp] theorem steps_after_tried (index : Nat) (r : Run) :
    (r.after (.tried index)).steps = r.steps := by
  simp [steps, after]

@[simp] theorem steps_after_printed (symbol : Symbol) (r : Run) :
    (r.after (.printed symbol)).steps = r.steps := by
  simp [steps, after]

@[simp] theorem printed_after_printed (symbol : Symbol) (r : Run) :
    (r.after (.printed symbol)).printed = symbol :: r.printed := rfl

@[simp] theorem steps_after_aliased (cell target : Cell) (r : Run) :
    (r.after (.aliased cell target)).steps = r.steps := by
  simp [steps, after]

@[simp] theorem printed_after_aliased (cell target : Cell) (r : Run) :
    (r.after (.aliased cell target)).printed = r.printed := rfl

theorem steps_orElse_of_failed (h : r.succeeded = false) :
    (r.orElse next).steps = r.steps + (next r.store).steps := by
  simp [orElse, h, steps]

theorem printed_orElse_of_failed (h : r.succeeded = false) :
    (r.orElse next).printed = r.printed ++ (next r.store).printed := by
  simp [orElse, h, printed]

@[simp] theorem steps_orUndo (r : Run) (t : Trail) : (r.orUndo t).steps = r.steps := by
  unfold orUndo
  split
  · rfl
  · simp [steps, List.count_eq_zero]

@[simp] theorem printed_orUndo (r : Run) (t : Trail) : (r.orUndo t).printed = r.printed := by
  unfold orUndo
  split
  · rfl
  · simp [printed]

theorem store_orUndo_of_succeeded (t : Trail) (h : r.succeeded = true) :
    (r.orUndo t).store = r.store := by
  simp [orUndo, h]

end Run

/-! ## Goals over corresponding cells -/

/-- Two goals with corresponding cells at the same places, but for the sides of equations, which may be
exchanged. -/
inductive Goal.Alike (R : Cell → Cell → Prop) : Goal → Goal → Prop where
  | terminal : Alike R .terminal .terminal
  | print {c d : Cell} (h : R c d) : Alike R (.print c) (.print d)
  | unify {a b c d : Cell} (hl : R a c) (hr : R b d) : Alike R (.unify a b) (.unify c d)
  | swapped {a b c d : Cell} (hl : R a c) (hr : R b d) : Alike R (.unify a b) (.unify d c)
  | or {gs hs : List Goal} (h : List.Forall₂ (Alike R) gs hs) : Alike R (.or gs) (.or hs)
  | compose {g h g' h' : Goal} (hl : Alike R g h) (hr : Alike R g' h') :
      Alike R (.compose g g') (.compose h h')
  | and {gs hs : List Goal} (h : List.Forall₂ (Alike R) gs hs) : Alike R (.and gs) (.and hs)

/-! ## Runs that go the same way -/

/-- Two runs show the same, and end in stores that say the same. -/
structure Run.Matches (R : Cell → Cell → Prop) (r r' : Run) : Prop where
  succeeded_eq : r.succeeded = r'.succeeded
  printed_eq : r.printed = r'.printed
  steps_eq : r.steps = r'.steps
  agree : Agree R r.store r'.store

/-- From stores that agree, two ways of going on match. -/
def Correspond (R : Cell → Cell → Prop) (next next' : Store → Run) : Prop :=
  ∀ ⦃s t : Store⦄, Agree R s t → (next s).Matches R (next' t)

variable {R : Cell → Cell → Prop} {r r' : Run} {s t : Store} {next next' later later' : Store → Run}

namespace Run

theorem matches_stop (succeeded : Bool) (h : Agree R s t) :
    (stop succeeded s).Matches R (stop succeeded t) :=
  ⟨rfl, rfl, rfl, h⟩

theorem Matches.enter (h : r.Matches R r') : r.enter.Matches R r'.enter where
  succeeded_eq := h.succeeded_eq
  printed_eq := h.printed_eq
  steps_eq := by rw [steps_enter, steps_enter, h.steps_eq]
  agree := h.agree

theorem Matches.after_printed (h : r.Matches R r') (symbol : Symbol) :
    (r.after (.printed symbol)).Matches R (r'.after (.printed symbol)) where
  succeeded_eq := h.succeeded_eq
  printed_eq := by rw [printed_after_printed, printed_after_printed, h.printed_eq]
  steps_eq := by rw [steps_after_printed, steps_after_printed, h.steps_eq]
  agree := h.agree

theorem Matches.after_tried (h : r.Matches R r') (index : Nat) :
    (r.after (.tried index)).Matches R (r'.after (.tried index)) where
  succeeded_eq := h.succeeded_eq
  printed_eq := h.printed_eq
  steps_eq := by rw [steps_after_tried, steps_after_tried, h.steps_eq]
  agree := h.agree

theorem Matches.orElse (h : r.Matches R r') (hlater : Correspond R later later') :
    (r.orElse later).Matches R (r'.orElse later') := by
  cases hr : r.succeeded with
  | true =>
    rw [orElse_of_succeeded later hr, orElse_of_succeeded later' (h.succeeded_eq ▸ hr)]
    exact h
  | false =>
    have hr' : r'.succeeded = false := h.succeeded_eq ▸ hr
    have hnext := hlater h.agree
    refine ⟨?_, ?_, ?_, ?_⟩
    · rw [succeeded_orElse_of_failed later hr, succeeded_orElse_of_failed later' hr']
      exact hnext.succeeded_eq
    · rw [printed_orElse_of_failed hr, printed_orElse_of_failed hr', h.printed_eq,
        hnext.printed_eq]
    · rw [steps_orElse_of_failed hr, steps_orElse_of_failed hr', h.steps_eq, hnext.steps_eq]
    · rw [store_orElse_of_failed later hr, store_orElse_of_failed later' hr']
      exact hnext.agree

end Run

namespace Goal

theorem correspond_finish : Correspond R finish finish :=
  fun _ _ h => (Run.matches_stop true h).enter

/-! ## Equations -/

theorem runThen_unify_of_failed {a b : Cell} (next : Store → Run)
    (h : (s.unify a b).1.isSuccess = false) :
    (Goal.unify a b).runThen next s = (Run.stop false s).enter := by
  rw [runThen, unify_of_not_isSuccess h]

/-- A solved equation shows one node and what comes after it. -/
theorem runThen_unify_of_solved {a b : Cell} (hnext : Restores next)
    (h : (s.unify a b).1.isSuccess = true) :
    let r := next (s.unify a b).2
    let whole := (Goal.unify a b).runThen next s
    whole.succeeded = r.succeeded ∧ whole.printed = r.printed ∧ whole.steps = r.steps + 1 ∧
      whole.store = if r.succeeded then r.store else s := by
  intro r whole
  have hsucceeded : whole.succeeded = r.succeeded ∧ whole.printed = r.printed ∧
      whole.steps = r.steps + 1 ∧ (r.succeeded = true → whole.store = r.store) := by
    simp only [whole, r, runThen]
    cases hu : s.unify a b with
    | mk outcome u =>
      rw [hu] at h
      cases outcome with
      | failed => cases h
      | unchanged => simp
      | aliased binding target =>
        simp only [Run.succeeded_enter, Run.succeeded_after, Run.succeeded_orUndo,
          Run.printed_enter, Run.printed_after_aliased, Run.printed_orUndo, Run.steps_enter,
          Run.steps_after_aliased, Run.steps_orUndo, Run.store_enter, Run.store_after, true_and]
        exact Run.store_orUndo_of_succeeded _
  obtain ⟨hsucceeded, hprinted, hsteps, hstore⟩ := hsucceeded
  refine ⟨hsucceeded, hprinted, hsteps, ?_⟩
  cases hr : r.succeeded with
  | true => exact hstore hr
  | false => exact restores_unify a b hnext s (hsucceeded.trans hr)

/-- Equations that are both solved or both not, and leave stores that agree. -/
theorem matches_unify (hst : Agree R s t) {a b c d : Cell} (hnext : Restores next)
    (hnext' : Restores next') (h : Correspond R next next')
    (hsolve : (s.unify a b).1.isSuccess = (t.unify c d).1.isSuccess ∧
      Agree R (s.unify a b).2 (t.unify c d).2) :
    ((Goal.unify a b).runThen next s).Matches R ((Goal.unify c d).runThen next' t) := by
  obtain ⟨hsolved, hagree⟩ := hsolve
  cases hs : (s.unify a b).1.isSuccess with
  | false =>
    rw [runThen_unify_of_failed next hs, runThen_unify_of_failed next' (hsolved ▸ hs)]
    exact (Run.matches_stop false hst).enter
  | true =>
    obtain ⟨hsucceeded, hprinted, hsteps, hstore⟩ := runThen_unify_of_solved hnext hs
    obtain ⟨hsucceeded', hprinted', hsteps', hstore'⟩ :=
      runThen_unify_of_solved hnext' (hsolved ▸ hs)
    have hmatch := h hagree
    refine ⟨?_, ?_, ?_, ?_⟩
    · rw [hsucceeded, hsucceeded', hmatch.succeeded_eq]
    · rw [hprinted, hprinted', hmatch.printed_eq]
    · rw [hsteps, hsteps', hmatch.steps_eq]
    · rw [hstore, hstore', hmatch.succeeded_eq]
      -- After a failure both stores are as they were before.
      split
      · exact hmatch.agree
      · exact hst

/-! ## Whole searches -/

mutual

/-- **Searches see what a store says.** Goals that are alike keep ways of going on in step. -/
theorem correspond_runThen : ∀ (g h : Goal) {next next' : Store → Run}, g.Alike R h →
    Restores next → Restores next' → Correspond R next next' →
    Correspond R (g.runThen next) (h.runThen next')
  | .terminal, h, next, next', halike, _, _, _ => by
    intro s t hst
    cases halike
    rw [runThen, runThen]
    exact correspond_finish hst
  | .print c, h, next, next', halike, _, _, hcorr => by
    intro s t hst
    cases halike with
    | @print _ d hcd =>
      rw [runThen, runThen, ← hst.value_eq hcd]
      cases s.value c with
      | none => exact (Run.matches_stop false hst).enter
      | some symbol => exact ((hcorr hst).after_printed symbol).enter
  | .unify a b, h, next, next', halike, hnext, hnext', hcorr => by
    intro s t hst
    cases halike with
    | unify hl hr =>
      have hs := hst.acyclic_left.solves_unify (hst.has_left hl) (hst.has_left hr)
      have ht := hst.acyclic_right.solves_unify (hst.has_right hl) (hst.has_right hr)
      exact matches_unify hst hnext hnext' hcorr (hst.solve hs ht hl hr)
    | swapped hl hr =>
      have hs := hst.acyclic_left.solves_unify (hst.has_left hl) (hst.has_left hr)
      have ht := hst.acyclic_right.solves_unify (hst.has_right hr) (hst.has_right hl)
      exact matches_unify hst hnext hnext' hcorr (hst.solve hs ht.symm hl hr)
  | .or gs, h, next, next', halike, hnext, hnext', hcorr => by
    intro s t hst
    cases halike with
    | or hall =>
      rw [runThen, runThen]
      exact (correspond_runAny 0 gs hall hnext hnext' hcorr hst).enter
  | .compose g g', h, next, next', halike, _, _, _ => by
    intro s t hst
    cases halike with
    | compose hl hr =>
      rw [runThen, runThen]
      have hright := correspond_runThen g' _ hr restores_finish restores_finish correspond_finish
      exact (correspond_runThen g _ hl (restores_runThen g' restores_finish)
        (restores_runThen _ restores_finish) hright hst).enter
  | .and gs, h, next, next', halike, hnext, hnext', hcorr => by
    intro s t hst
    cases halike with
    | and hall =>
      rw [runThen, runThen]
      exact (correspond_runAll gs hall hnext hnext' hcorr hst).enter

theorem correspond_runAny : ∀ (index : Nat) (gs : List Goal) {hs : List Goal}
    {next next' : Store → Run}, List.Forall₂ (Alike R) gs hs → Restores next → Restores next' →
    Correspond R next next' → Correspond R (runAny index gs next) (runAny index hs next')
  | index, [], hs, next, next', hall, _, _, _ => by
    intro s t hst
    cases hall
    rw [runAny, runAny]
    exact Run.matches_stop false hst
  | index, g :: gs, hs, next, next', hall, hnext, hnext', hcorr => by
    intro s t hst
    cases hall with
    | cons hg hlater =>
      rw [runAny, runAny]
      have hfirst := correspond_runThen g _ hg hnext hnext' hcorr hst
      exact (hfirst.orElse
        (correspond_runAny (index + 1) gs hlater hnext hnext' hcorr)).after_tried index

theorem correspond_runAll : ∀ (gs : List Goal) {hs : List Goal} {next next' : Store → Run},
    List.Forall₂ (Alike R) gs hs → Restores next → Restores next' → Correspond R next next' →
    Correspond R (runAll gs next) (runAll hs next')
  | [], hs, next, next', hall, _, _, hcorr => by
    intro s t hst
    cases hall
    rw [runAll, runAll]
    exact hcorr hst
  | g :: gs, hs, next, next', hall, hnext, hnext', hcorr => by
    intro s t hst
    cases hall with
    | cons hg hlater =>
      rw [runAll, runAll]
      have hrest := correspond_runAll gs hlater hnext hnext' hcorr
      exact (correspond_runThen g _ hg (restores_runAll gs hnext) (restores_runAll _ hnext') hrest
        hst).enter

end

theorem Alike.correspond_run {g h : Goal} (halike : g.Alike R h) : Correspond R g.run h.run :=
  correspond_runThen g h halike restores_finish restores_finish correspond_finish

theorem Alike.correspond_invoke {g h future future' : Goal} (hg : g.Alike R h)
    (hfuture : future.Alike R future') : Correspond R (g.invoke future) (h.invoke future') :=
  correspond_runThen g h hg (restores_run future) (restores_run future') hfuture.correspond_run

/-! ## The same cells -/

mutual

/-- Only the correspondence between cells that occur counts. -/
theorem Alike.mono {Q : Cell → Cell → Prop} : ∀ (g : Goal) {h : Goal}, g.Alike Q h →
    (∀ {c d}, c ∈ g.cells → Q c d → R c d) → g.Alike R h
  | .terminal, _, halike, _ => by
    cases halike
    exact .terminal
  | .print c, _, halike, himp => by
    cases halike with
    | print hcd => exact .print (himp (by simp [cells]) hcd)
  | .unify a b, _, halike, himp => by
    cases halike with
    | unify hl hr => exact .unify (himp (by simp [cells]) hl) (himp (by simp [cells]) hr)
    | swapped hl hr => exact .swapped (himp (by simp [cells]) hl) (himp (by simp [cells]) hr)
  | .or gs, _, halike, himp => by
    rw [cells] at himp
    cases halike with
    | or hall => exact .or (forall₂_alike_mono gs hall himp)
  | .compose g g', _, halike, himp => by
    rw [cells] at himp
    cases halike with
    | compose hl hr =>
      exact .compose (Alike.mono g hl fun hc => himp (List.mem_append_left _ hc))
        (Alike.mono g' hr fun hc => himp (List.mem_append_right _ hc))
  | .and gs, _, halike, himp => by
    rw [cells] at himp
    cases halike with
    | and hall => exact .and (forall₂_alike_mono gs hall himp)

theorem forall₂_alike_mono {Q : Cell → Cell → Prop} : ∀ (gs : List Goal) {hs : List Goal},
    List.Forall₂ (Alike Q) gs hs → (∀ {c d}, c ∈ cellsOfAll gs → Q c d → R c d) →
    List.Forall₂ (Alike R) gs hs
  | [], _, hall, _ => by
    cases hall
    exact .nil
  | g :: gs, _, hall, himp => by
    rw [cellsOfAll] at himp
    cases hall with
    | cons hg hlater =>
      exact .cons (Alike.mono g hg fun hc => himp (List.mem_append_left _ hc))
        (forall₂_alike_mono gs hlater fun hc => himp (List.mem_append_right _ hc))

end

mutual

/-- A goal is like itself if its cells correspond to themselves. -/
theorem alike_refl : ∀ g : Goal, (∀ c ∈ g.cells, R c c) → g.Alike R g
  | .terminal, _ => .terminal
  | .print c, hcells => .print (hcells c (by simp [cells]))
  | .unify a b, hcells => .unify (hcells a (by simp [cells])) (hcells b (by simp [cells]))
  | .or gs, hcells => by
    rw [cells] at hcells
    exact .or (forall₂_alike_refl gs hcells)
  | .compose g h, hcells => by
    rw [cells] at hcells
    obtain ⟨hg, hh⟩ := List.forall_mem_append.mp hcells
    exact .compose (alike_refl g hg) (alike_refl h hh)
  | .and gs, hcells => by
    rw [cells] at hcells
    exact .and (forall₂_alike_refl gs hcells)

theorem forall₂_alike_refl : ∀ gs : List Goal, (∀ c ∈ cellsOfAll gs, R c c) →
    List.Forall₂ (Alike R) gs gs
  | [], _ => .nil
  | g :: gs, hcells => by
    rw [cellsOfAll] at hcells
    obtain ⟨hg, hgs⟩ := List.forall_mem_append.mp hcells
    exact .cons (alike_refl g hg) (forall₂_alike_refl gs hgs)

end

theorem sizeInvariant (n : Nat) :
    SearchInvariant (fun _ => True) (fun s => s.size = n) fun _ => True where
  unify := fun {s a b} _ _ hs => (size_unify s a b).trans hs
  binding := fun _ _ _ _ => trivial
  revert := fun {s made} _ hs => (size_setState s made.cell made.previous).trans hs

/-- A search creates no cells. -/
theorem size_run (g : Goal) (s : Store) : (g.run s).store.size = s.size :=
  (sizeInvariant s.size).keeps_runThen g (fun _ _ => trivial) SearchInvariant.keeps_finish s rfl

theorem size_invoke (g future : Goal) (s : Store) : (g.invoke future s).store.size = s.size :=
  (sizeInvariant s.size).keeps_invoke (fun _ _ => trivial) (fun _ _ => trivial) s rfl

/-- **A search sees what the store says and nothing else.** Two stores over the same cells have the same
valuations, and two goals and what is to come after them are the same but for the sides of equations.
Then both searches succeed or both fail, print the same, enter as many nodes, and end in stores with the
same valuations, in which each cell stands for the same symbol if for any. -/
theorem invoke_agrees (hs : s.Acyclic) (ht : t.Acyclic) (hsize : t.size = s.size)
    (hsame : ∀ ν, s.Allows ν ↔ t.Allows ν) {g g' future future' : Goal} (hg : g.Alike Eq g')
    (hfuture : future.Alike Eq future') (hcells : ∀ c ∈ g.cells, s.Has c)
    (hfutureCells : ∀ c ∈ future.cells, s.Has c) :
    (g.invoke future s).succeeded = (g'.invoke future' t).succeeded ∧
    (g.invoke future s).printed = (g'.invoke future' t).printed ∧
    (g.invoke future s).steps = (g'.invoke future' t).steps ∧
    (∀ ν, (g.invoke future s).store.Allows ν ↔ (g'.invoke future' t).store.Allows ν) ∧
    ∀ c, (g.invoke future s).store.value c = (g'.invoke future' t).store.value c := by
  have hagree := agree_of_allows_iff hs ht hsize hsame
  have hmatch : (g.invoke future s).Matches _ (g'.invoke future' t) :=
    Alike.correspond_invoke (Alike.mono g hg fun hc heq => ⟨heq, hcells _ hc⟩)
      (Alike.mono future hfuture fun hc heq => ⟨heq, hfutureCells _ hc⟩) hagree
  have hends := hmatch.agree
  have hvaluations : ∀ ν, (g.invoke future s).store.Allows ν ↔
      (g'.invoke future' t).store.Allows ν := by
    intro ν
    constructor
    · refine hends.allows_of_allows fun c hc => ⟨rfl, ?_⟩
      unfold Has at hc ⊢
      rwa [size_invoke, hsize] at hc
    · refine hends.symm.allows_of_allows fun c hc => ⟨rfl, ?_⟩
      unfold Has at hc ⊢
      rwa [size_invoke] at hc
  refine ⟨hmatch.succeeded_eq, hmatch.printed_eq, hmatch.steps_eq, hvaluations, fun c => ?_⟩
  ext v
  rw [hends.acyclic_left.value_eq_some_iff, hends.acyclic_right.value_eq_some_iff]
  simp only [hvaluations]

/-- `X` is an alias of `Y` in one store, and `Y` of `X` in the other. The first alternative prints and
fails, and the second one binds both. -/
theorem invoke_agrees_crossed :
    let fresh : Store := ⟨#[⟨some "X", .unbound⟩, ⟨some "Y", .unbound⟩, ⟨none, .bound ⟨"a"⟩⟩,
      ⟨none, .bound ⟨"b"⟩⟩]⟩
    let s := fresh.setState ⟨0⟩ (.aliasOf ⟨1⟩)
    let t := fresh.setState ⟨1⟩ (.aliasOf ⟨0⟩)
    let g : Goal := .or [.and [.unify ⟨0⟩ ⟨2⟩, .print ⟨1⟩, .unify ⟨1⟩ ⟨3⟩], .unify ⟨1⟩ ⟨3⟩]
    let g' : Goal := .or [.and [.unify ⟨2⟩ ⟨0⟩, .print ⟨1⟩, .unify ⟨1⟩ ⟨3⟩], .unify ⟨3⟩ ⟨1⟩]
    (∀ ν, s.Allows ν ↔ t.Allows ν) ∧
      (g.invoke (.print ⟨0⟩) s).printed = (g'.invoke (.print ⟨0⟩) t).printed ∧
      (g.invoke (.print ⟨0⟩) s).store ≠ (g'.invoke (.print ⟨0⟩) t).store ∧
      ∀ ν, (g.invoke (.print ⟨0⟩) s).store.Allows ν ↔
        (g'.invoke (.print ⟨0⟩) t).store.Allows ν := by
  intro fresh s t g g'
  have hfresh : fresh.Acyclic := by
    have hunbound : ∀ d, CellState.unbound ≠ .aliasOf d := by simp
    have hbound : ∀ v d, CellState.bound v ≠ .aliasOf d := by simp
    have hX := lawful_empty.acyclic.create (some "X") hunbound
    have ha := (hX.create (some "Y") hunbound).create none (hbound ⟨"a"⟩)
    exact ha.create none (hbound ⟨"b"⟩)
  have h0 : fresh.Has ⟨0⟩ := show 0 < 4 by decide
  have h1 : fresh.Has ⟨1⟩ := show 1 < 4 by decide
  have hs : s.Acyclic := hfresh.unify h0 h1
  have ht : t.Acyclic := hfresh.unify h1 h0
  have hsame : ∀ ν, s.Allows ν ↔ t.Allows ν := by
    intro ν
    rw [allows_setState_alias_iff h0 rfl, allows_setState_alias_iff h1 rfl, eq_comm (a := ν ⟨0⟩)]
  have hg : g.Alike Eq g' := by
    refine .or (.cons (.and (.cons ?_ (.cons ?_ (.cons ?_ .nil)))) (.cons ?_ .nil))
    · exact .swapped rfl rfl
    · exact .print rfl
    · exact .unify rfl rfl
    · exact .swapped rfl rfl
  have hfuture : (Goal.print ⟨0⟩).Alike Eq (.print ⟨0⟩) := .print rfl
  obtain ⟨-, hprinted, -, hvaluations, -⟩ := invoke_agrees hs ht rfl hsame hg hfuture
    (show ∀ c ∈ g.cells, c.id < 4 by decide)
    (show ∀ c ∈ Goal.cells _, c.id < 4 by decide)
  exact ⟨hsame, hprinted, by decide, hvaluations⟩

end Goal

end GoalSearch
