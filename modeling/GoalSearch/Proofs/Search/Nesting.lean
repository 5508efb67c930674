import GoalSearch.Proofs.Search.Agreement

/-!
# How deeply a search nests

The invocation of a goal makes other invocations: of goals inside it, but also of the goal that is to come
after it, and a conjunction makes new goals first, in which each conjunct is composed with those behind it.
So the invocations are not those of smaller and smaller parts of one goal. Still they come to an end from
every store without cycles, each in one way (`invokes_iff`), and they nest no deeper than the goals weigh:

    (g.invoke future s).depth ≤ g.weight + future.weight + 1                        (depth_invoke_le)

What carries the induction in both is what is to come: that it returns, and how deeply it nests. Then the
invocations of a goal follow its tree.
-/

namespace GoalSearch

theorem Run.depth_orUndo (r : Run) (t : Trail) : (r.orUndo t).depth = r.depth := by
  unfold Run.orUndo
  split <;> rfl

namespace Goal

/-! ## Invocations -/

/-- Goals in order before another one, each composed with what follows. -/
def chain (gs : List Goal) (future : Goal) : Goal := gs.foldr .compose future

mutual

/-- The invocation of a goal with another goal to come returns, in one of these ways. A rule has the
invocations that are made inside the one it is about, and the chains of aliases that are followed. -/
inductive Invokes : Goal → Goal → Store → Run → Prop where
  | terminal (future : Goal) (s : Store) : Invokes .terminal future s (Run.stop true s).enter
  | print {c e : Cell} {v : Symbol} {future : Goal} {s : Store} {r : Run} (hc : s.Leads c e)
      (hv : s.state e = .bound v) (hnext : Invokes future .terminal s r) :
      Invokes (.print c) future s (r.after (.printed v)).enter
  | printNothing {c e : Cell} {future : Goal} {s : Store} (hc : s.Leads c e)
      (hv : s.state e = .unbound) : Invokes (.print c) future s (Run.stop false s).enter
  | unifyFailed {a b d e : Cell} {future : Goal} {s t : Store} (ha : s.Leads a d) (hb : s.Leads b e)
      (h : s.unify a b = (.failed, t)) : Invokes (.unify a b) future s (Run.stop false t).enter
  | unifyUnchanged {a b d e : Cell} {future : Goal} {s t : Store} {r : Run} (ha : s.Leads a d)
      (hb : s.Leads b e) (h : s.unify a b = (.unchanged, t)) (hnext : Invokes future .terminal t r) :
      Invokes (.unify a b) future s r.enter
  | unifyAliased {a b d e target : Cell} {made : Binding} {future : Goal} {s t : Store} {r : Run}
      (ha : s.Leads a d) (hb : s.Leads b e) (h : s.unify a b = (.aliased made target, t))
      (hnext : Invokes future .terminal t r) :
      Invokes (.unify a b) future s
        ((r.orUndo (Trail.empty.record made)).after (.aliased made.cell target)).enter
  | or {gs : List Goal} {future : Goal} {s : Store} {r : Run} (h : InvokesAny 0 gs future s r) :
      Invokes (.or gs) future s r.enter
  /-- What was to come is dropped. -/
  | compose {g h future : Goal} {s : Store} {r : Run} (hg : Invokes g h s r) :
      Invokes (.compose g h) future s r.enter
  | and {gs : List Goal} {future : Goal} {s : Store} {r : Run}
      (h : Invokes (chain gs future) .terminal s r) : Invokes (.and gs) future s r.enter

/-- The invocations of alternatives in turn, the first of which has the given index. -/
inductive InvokesAny : Nat → List Goal → Goal → Store → Run → Prop where
  | nil (index : Nat) (future : Goal) (s : Store) : InvokesAny index [] future s (Run.stop false s)
  | found {index : Nat} {g future : Goal} {later : List Goal} {s : Store} {r : Run}
      (h : Invokes g future s r) (hr : r.succeeded = true) :
      InvokesAny index (g :: later) future s (r.after (.tried index))
  | next {index : Nat} {g future : Goal} {later : List Goal} {s : Store} {r r' : Run}
      (h : Invokes g future s r) (hr : r.succeeded = false)
      (hlater : InvokesAny (index + 1) later future r.store r') :
      InvokesAny index (g :: later) future s ((r.orElse fun _ => r').after (.tried index))

end

/-! ## Ways to return -/

variable {g h future : Goal} {gs later : List Goal} {s : Store} {r : Run} {n index : Nat}

theorem invokes_terminal_iff : Invokes .terminal future s r ↔ r = finish s := by
  constructor
  · intro h
    cases h
    rfl
  · rintro rfl
    exact .terminal future s

theorem invokes_print_iff (hs : s.Acyclic) {c : Cell} :
    Invokes (.print c) future s r ↔
      match s.value c with
      | some v => ∃ r', Invokes future .terminal s r' ∧ r = (r'.after (.printed v)).enter
      | none => r = (Run.stop false s).enter := by
  have hleads := hs.leads_deref c
  obtain hunbound | ⟨v, hbound⟩ := hleads.isEnd.cases
  · have hvalue : s.value c = none := by simp [Store.value, Store.resolve, hunbound]
    rw [hvalue]
    constructor
    · intro h
      cases h with
      | print hc hv _ =>
        rw [hc.unique hleads, hunbound] at hv
        cases hv
      | printNothing _ _ => rfl
    · rintro rfl
      exact .printNothing hleads hunbound
  · have hvalue : s.value c = some v := by simp [Store.value, Store.resolve, hbound]
    rw [hvalue]
    constructor
    · intro h
      cases h with
      | print hc hv hnext =>
        rw [hc.unique hleads, hbound, CellState.bound.injEq] at hv
        rw [← hv]
        exact ⟨_, hnext, rfl⟩
      | printNothing hc hv =>
        rw [hc.unique hleads, hbound] at hv
        cases hv
    · rintro ⟨r', hnext, rfl⟩
      exact .print hleads hbound hnext

theorem invokes_unify_iff (hs : s.Acyclic) {a b : Cell} :
    Invokes (.unify a b) future s r ↔
      match s.unify a b with
      | (.failed, t) => r = (Run.stop false t).enter
      | (.unchanged, t) => ∃ r', Invokes future .terminal t r' ∧ r = r'.enter
      | (.aliased made target, t) => ∃ r', Invokes future .terminal t r' ∧
          r = ((r'.orUndo (Trail.empty.record made)).after (.aliased made.cell target)).enter := by
  have ha := hs.leads_deref a
  have hb := hs.leads_deref b
  cases hu : s.unify a b with
  | mk outcome t =>
    constructor
    · intro h
      cases h with
      | unifyFailed _ _ h =>
        rw [hu] at h
        cases h
        rfl
      | unifyUnchanged _ _ h hnext =>
        rw [hu] at h
        cases h
        exact ⟨_, hnext, rfl⟩
      | unifyAliased _ _ h hnext =>
        rw [hu] at h
        cases h
        exact ⟨_, hnext, rfl⟩
    · intro h
      cases outcome with
      | failed =>
        obtain rfl := h
        exact .unifyFailed ha hb hu
      | unchanged =>
        obtain ⟨r', hnext, rfl⟩ := h
        exact .unifyUnchanged ha hb hu hnext
      | aliased made target =>
        obtain ⟨r', hnext, rfl⟩ := h
        exact .unifyAliased ha hb hu hnext

theorem invokes_or_iff :
    Invokes (.or gs) future s r ↔ ∃ r', InvokesAny 0 gs future s r' ∧ r = r'.enter := by
  constructor
  · intro h
    cases h with
    | or h => exact ⟨_, h, rfl⟩
  · rintro ⟨r', h, rfl⟩
    exact .or h

theorem invokes_compose_iff :
    Invokes (.compose g h) future s r ↔ ∃ r', Invokes g h s r' ∧ r = r'.enter := by
  constructor
  · intro h
    cases h with
    | compose h => exact ⟨_, h, rfl⟩
  · rintro ⟨r', h, rfl⟩
    exact .compose h

theorem invokes_and_iff :
    Invokes (.and gs) future s r ↔
      ∃ r', Invokes (chain gs future) .terminal s r' ∧ r = r'.enter := by
  constructor
  · intro h
    cases h with
    | and h => exact ⟨_, h, rfl⟩
  · rintro ⟨r', h, rfl⟩
    exact .and h

theorem invokesAny_nil_iff : InvokesAny index [] future s r ↔ r = Run.stop false s := by
  constructor
  · intro h
    cases h
    rfl
  · rintro rfl
    exact .nil index future s

theorem invokesAny_cons_iff :
    InvokesAny index (g :: later) future s r ↔
      ∃ r', Invokes g future s r' ∧
        (r'.succeeded = true ∧ r = r'.after (.tried index) ∨
          r'.succeeded = false ∧ ∃ q, InvokesAny (index + 1) later future r'.store q ∧
            r = (r'.orElse fun _ => q).after (.tried index)) := by
  constructor
  · intro h
    cases h with
    | found h hr => exact ⟨_, h, .inl ⟨hr, rfl⟩⟩
    | next h hr hlater => exact ⟨_, h, .inr ⟨hr, _, hlater, rfl⟩⟩
  · rintro ⟨r', h, ⟨hr, rfl⟩ | ⟨hr, q, hlater, rfl⟩⟩
    · exact .found h hr
    · exact .next h hr hlater

/-! ## Every invocation returns -/

theorem run_terminal : Goal.terminal.run = finish := by
  funext s
  rw [run, runThen]
  rfl

theorem invoke_terminal (g : Goal) : g.invoke .terminal = g.run := by
  funext s
  rw [invoke, run_terminal, run]

theorem run_compose (g h : Goal) (s : Store) : (Goal.compose g h).run s = (g.invoke h s).enter := by
  rw [run, runThen]
  rfl

/-- Composed goals do in order what the goals do one after the other. -/
theorem run_chain (gs : List Goal) (future : Goal) : (chain gs future).run = runAll gs future.run := by
  induction gs with
  | nil =>
    funext s
    rw [runAll]
    rfl
  | cons g later ih =>
    funext s
    rw [runAll, ← ih]
    exact run_compose g (chain later future) s

/-- A store with a number of cells and without cycles. -/
structure Ready (n : Nat) (s : Store) : Prop where
  acyclic : s.Acyclic
  size_eq : s.size = n

theorem Ready.unify (hs : Ready n s) {a b : Cell} (ha : a.id < n) (hb : b.id < n) :
    Ready n (s.unify a b).2 := by
  obtain ⟨hacyclic, rfl⟩ := hs
  exact ⟨hacyclic.unify ha hb, s.size_unify a b⟩

/-- What is to come returns from each store with a number of cells, and in no other way than its search
does. -/
def Returns (n : Nat) (future : Goal) : Prop :=
  ∀ s, Ready n s → ∀ r, Invokes future .terminal s r ↔ r = future.run s

theorem returns_terminal : Returns n .terminal := by
  intro s _ r
  rw [invokes_terminal_iff, run_terminal]

mutual

/-- **An invocation returns**, in one way, if what is to come does. -/
theorem invokes_iff : ∀ (g : Goal) {future : Goal}, (∀ c ∈ g.cells, c.id < n) → Returns n future →
    ∀ s, Ready n s → ∀ r, Invokes g future s r ↔ r = g.invoke future s
  | .terminal, future, _, _ => by
    intro s _ r
    rw [invokes_terminal_iff, invoke, runThen]
    rfl
  | .print c, future, _, hfuture => by
    intro s hs r
    rw [invokes_print_iff hs.acyclic, invoke, runThen]
    cases s.value c with
    | none => rfl
    | some v => simp only [hfuture s hs, exists_eq_left]
  | .unify a b, future, hcells, hfuture => by
    intro s hs r
    have ht := hs.unify (hcells a (by simp [cells])) (hcells b (by simp [cells]))
    rw [invokes_unify_iff hs.acyclic, invoke, runThen]
    generalize s.unify a b = result at ht
    obtain ⟨outcome, t⟩ := result
    cases outcome with
    | failed => rfl
    | unchanged => simp only [hfuture t ht, exists_eq_left]
    | aliased made target => simp only [hfuture t ht, exists_eq_left]
  | .or gs, future, hcells, hfuture => by
    intro s hs r
    rw [cells] at hcells
    rw [invokes_or_iff, invoke, runThen]
    simp only [invokesAny_iff 0 gs hcells hfuture s hs, exists_eq_left]
  | .compose g h, future, hcells, _ => by
    intro s hs r
    rw [cells] at hcells
    obtain ⟨hg, hh⟩ := List.forall_mem_append.mp hcells
    have hlater : Returns n h := by
      rw [Returns, ← invoke_terminal]
      exact invokes_iff h hh returns_terminal
    rw [invokes_compose_iff, invoke, runThen]
    simp only [invokes_iff g hg hlater s hs, exists_eq_left]
    rfl
  | .and gs, future, hcells, hfuture => by
    intro s hs r
    rw [cells] at hcells
    rw [invokes_and_iff, invoke, runThen, ← run_chain]
    simp only [returns_chain gs hcells hfuture s hs, exists_eq_left]

theorem invokesAny_iff : ∀ (index : Nat) (gs : List Goal) {future : Goal},
    (∀ c ∈ cellsOfAll gs, c.id < n) → Returns n future → ∀ s, Ready n s →
    ∀ r, InvokesAny index gs future s r ↔ r = runAny index gs future.run s
  | index, [], future, _, _ => by
    intro s _ r
    rw [invokesAny_nil_iff, runAny]
  | index, g :: later, future, hcells, hfuture => by
    intro s hs r
    rw [cellsOfAll] at hcells
    obtain ⟨hg, hlater⟩ := List.forall_mem_append.mp hcells
    rw [invokesAny_cons_iff, runAny]
    simp only [invokes_iff g hg hfuture s hs, exists_eq_left]
    show _ ↔ r = ((g.invoke future s).orElse (runAny (index + 1) later future.run)).after (.tried index)
    cases hr : (g.invoke future s).succeeded with
    | true => simp [Run.orElse_of_succeeded _ hr]
    | false =>
      -- The later alternatives start from where this one has started.
      have hstore := store_invoke_of_failed g future s hr
      simp only [hstore, invokesAny_iff (index + 1) later hlater hfuture s hs, exists_eq_left]
      simp [Run.orElse, hr, hstore]

theorem returns_chain : ∀ (gs : List Goal) {future : Goal}, (∀ c ∈ cellsOfAll gs, c.id < n) →
    Returns n future → Returns n (chain gs future)
  | [], future, _, hfuture => hfuture
  | g :: later, future, hcells, hfuture => by
    intro s hs r
    rw [cellsOfAll] at hcells
    obtain ⟨hg, hlater⟩ := List.forall_mem_append.mp hcells
    show Invokes (.compose g (chain later future)) .terminal s r ↔
      r = (Goal.compose g (chain later future)).run s
    rw [invokes_compose_iff, run_compose]
    simp only [invokes_iff g hg (returns_chain later hlater hfuture) s hs, exists_eq_left]

end

/-- From a store without cycles an invocation returns what the search for its goal does, and nothing
else. -/
theorem invokes_iff_eq_invoke (hs : s.Acyclic) (hg : ∀ c ∈ g.cells, s.Has c)
    (hfuture : ∀ c ∈ future.cells, s.Has c) (r : Run) :
    Invokes g future s r ↔ r = g.invoke future s := by
  have hreturns : Returns s.size future := by
    rw [Returns, ← invoke_terminal]
    exact invokes_iff future hfuture returns_terminal
  exact invokes_iff g hg hreturns s ⟨hs, rfl⟩ r

/-! ## Weights -/

mutual

/-- How much a goal contributes to the nesting of invocations. -/
def weight : Goal → Nat
  | .terminal => 0
  | .print _ => 1
  | .unify _ _ => 1
  | .or alternatives => 1 + weightAny alternatives
  | .compose left right => 1 + weight left + weight right
  | .and conjuncts => 1 + weightAll conjuncts

def weightAny : List Goal → Nat
  | [] => 0
  | g :: later => weight g + weightAny later

/-- The weights of goals that hold one after the other, and of the nodes that compose them. -/
def weightAll : List Goal → Nat
  | [] => 0
  | g :: later => (weight g + 1) + weightAll later

end

/-! ## How deeply invocations nest -/

/-- Going on nests no deeper than a bound. -/
def NestsWithin (n : Nat) (next : Store → Run) : Prop := ∀ s, (next s).depth ≤ n

theorem NestsWithin.mono {m : Nat} {next : Store → Run} (h : NestsWithin m next) (hle : m ≤ n) :
    NestsWithin n next := fun s => Nat.le_trans (h s) hle

theorem nestsWithin_finish : NestsWithin 1 finish := fun _ => Nat.le_refl 1

theorem NestsWithin.orElse {first later : Store → Run} (hf : NestsWithin n first)
    (hl : NestsWithin n later) : NestsWithin n fun s => (first s).orElse later := by
  intro s
  have hfirst := hf s
  have hlater := hl (first s).store
  show ((first s).orElse later).depth ≤ n
  unfold Run.orElse
  split
  · exact hfirst
  · show max (first s).depth (later (first s).store).depth ≤ n
    omega

theorem nestsWithin_unify {next : Store → Run} (a b : Cell) (hnext : NestsWithin n next) :
    NestsWithin (1 + n) ((Goal.unify a b).runThen next) := by
  intro s
  rw [runThen]
  rcases s.unify a b with ⟨_ | _ | ⟨made, target⟩, t⟩
  · show 0 + 1 ≤ 1 + n
    omega
  · have hle := hnext t
    show (next t).depth + 1 ≤ 1 + n
    omega
  · have hle := hnext t
    show ((next t).orUndo (Trail.empty.record made)).depth + 1 ≤ 1 + n
    rw [Run.depth_orUndo]
    omega

mutual

/-- **A search nests no deeper than its goal weighs**, and what is to come does on top of that. -/
theorem nestsWithin_runThen : ∀ (g : Goal) {n : Nat} {next : Store → Run}, 1 ≤ n →
    NestsWithin n next → NestsWithin (g.weight + n) (g.runThen next)
  | .terminal, n, next, hn, _ => by
    intro s
    rw [runThen, weight]
    show 0 + 1 ≤ 0 + n
    omega
  | .print c, n, next, hn, hnext => by
    intro s
    rw [runThen, weight]
    cases s.value c with
    | none =>
      show 0 + 1 ≤ 1 + n
      omega
    | some v =>
      have hle := hnext s
      show (next s).depth + 1 ≤ 1 + n
      omega
  | .unify a b, n, next, _, hnext => by
    rw [weight]
    exact nestsWithin_unify a b hnext
  | .or gs, n, next, hn, hnext => by
    intro s
    have hle := nestsWithin_runAny 0 gs hn hnext s
    rw [runThen, weight]
    show (runAny 0 gs next s).depth + 1 ≤ 1 + weightAny gs + n
    omega
  | .compose g h, n, next, hn, _ => by
    intro s
    have hlater := nestsWithin_runThen h (Nat.le_refl 1) nestsWithin_finish
    have hle := nestsWithin_runThen g (Nat.le_add_left 1 h.weight) hlater s
    rw [runThen, weight]
    show (g.runThen (h.runThen finish) s).depth + 1 ≤ 1 + g.weight + h.weight + n
    omega
  | .and gs, n, next, hn, hnext => by
    intro s
    have hle := nestsWithin_runAll gs hn hnext s
    rw [runThen, weight]
    show (runAll gs next s).depth + 1 ≤ 1 + weightAll gs + n
    omega

theorem nestsWithin_runAny : ∀ (index : Nat) (gs : List Goal) {n : Nat} {next : Store → Run}, 1 ≤ n →
    NestsWithin n next → NestsWithin (weightAny gs + n) (runAny index gs next)
  | index, [], n, next, _, _ => by
    intro s
    rw [runAny]
    exact Nat.zero_le _
  | index, g :: later, n, next, hn, hnext => by
    have hfirst := (nestsWithin_runThen g hn hnext).mono (Nat.add_le_add_right
      (Nat.le_add_right g.weight (weightAny later)) n)
    have hlater := (nestsWithin_runAny (index + 1) later hn hnext).mono (Nat.add_le_add_right
      (Nat.le_add_left (weightAny later) g.weight) n)
    intro s
    rw [runAny, weightAny]
    exact hfirst.orElse hlater s

theorem nestsWithin_runAll : ∀ (gs : List Goal) {n : Nat} {next : Store → Run}, 1 ≤ n →
    NestsWithin n next → NestsWithin (weightAll gs + n) (runAll gs next)
  | [], n, next, _, hnext => by
    intro s
    have hle := hnext s
    rw [runAll, weightAll]
    omega
  | g :: later, n, next, hn, hnext => by
    intro s
    have hlater := nestsWithin_runAll later hn hnext
    have hle := nestsWithin_runThen g (by omega) hlater s
    rw [runAll, weightAll]
    show (g.runThen (runAll later next) s).depth + 1 ≤ g.weight + 1 + weightAll later + n
    omega

end

theorem depth_invoke_le (g future : Goal) (s : Store) :
    (g.invoke future s).depth ≤ g.weight + future.weight + 1 := by
  have hfuture := nestsWithin_runThen future (Nat.le_refl 1) nestsWithin_finish
  have hle := nestsWithin_runThen g (Nat.le_add_left 1 future.weight) hfuture s
  rw [invoke]
  show (g.runThen (future.runThen finish) s).depth ≤ g.weight + future.weight + 1
  omega

end Goal

end GoalSearch
