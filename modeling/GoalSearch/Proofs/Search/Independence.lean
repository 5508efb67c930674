import GoalSearch.Proofs.Search.Agreement
import GoalSearch.Proofs.Search.Footprint

/-!
# Searches that do not meet

Two goals whose footprints share no unbound cell can be searched for in either order. Each one goes the
same way first and second, and the stores at the end hold the same:

    (h.run (g.run s).store).store.state c = (g.run (h.run s).store).store.state c             (run_commute)

What a search does depends on a part of the store only: the cells that its goal has and those that their
aliases lead to, since no alias leads out of them. Stores that share that part go on sharing it
(`Shares`), whatever they hold elsewhere, and the search takes the same course in both
(`echo_runThen`), its links and undoings among it. The other search leaves that part alone.
-/

namespace GoalSearch

namespace Store

variable {P : Cell → Prop} {s t : Store} {a b c d e : Cell}

/-! ## A part of two stores -/

/-- Two stores hold the same in the cells of a part, and no alias leads out of it. -/
structure Shares (P : Cell → Prop) (s t : Store) : Prop where
  acyclic_left : s.Acyclic
  acyclic_right : t.Acyclic
  has_left : ∀ {c}, P c → s.Has c
  has_right : ∀ {c}, P c → t.Has c
  state_eq : ∀ {c}, P c → s.state c = t.state c
  closed : ∀ {c d}, P c → s.state c = .aliasOf d → P d

namespace Shares

/-- Chains stay within the part. -/
theorem leads (h : Shares P s t) (hleads : s.Leads c e) (hc : P c) : P e ∧ t.Leads c e := by
  induction hleads with
  | here hend =>
    refine ⟨hc, .here fun d hd => ?_⟩
    rw [← h.state_eq hc] at hd
    exact hend d hd
  | link hx _ ih =>
    obtain ⟨he, hleads⟩ := ih (h.closed hc hx)
    exact ⟨he, .link (by rw [← h.state_eq hc, hx]) hleads⟩

theorem deref (h : Shares P s t) (hc : P c) : P (s.deref c) ∧ t.deref c = s.deref c := by
  obtain ⟨he, hleads⟩ := h.leads (h.acyclic_left.leads_deref c) hc
  exact ⟨he, hleads.deref_eq⟩

theorem value_eq (h : Shares P s t) (hc : P c) : s.value c = t.value c := by
  obtain ⟨he, hderef⟩ := h.deref hc
  rw [value, value, resolve, resolve, hderef, h.state_eq he]

/-- The same is written to a cell of both. -/
theorem setState (h : Shares P s t) (hc : P c) {state : CellState}
    (hclosed : ∀ d, state = .aliasOf d → P d) (hs : (s.setState c state).Acyclic)
    (ht : (t.setState c state).Acyclic) : Shares P (s.setState c state) (t.setState c state) where
  acyclic_left := hs
  acyclic_right := ht
  has_left := fun hx => (has_setState c state).mpr (h.has_left hx)
  has_right := fun hx => (has_setState c state).mpr (h.has_right hx)
  state_eq := by
    intro x hx
    by_cases hxc : x = c
    · rw [hxc, state_setState_self s c _ (h.has_left hc), state_setState_self t c _ (h.has_right hc)]
    · rw [state_setState_ne s _ hxc, state_setState_ne t _ hxc]
      exact h.state_eq hx
  closed := by
    intro x y hx hy
    by_cases hxc : x = c
    · rw [hxc, state_setState_self s c _ (h.has_left hc)] at hy
      exact hclosed y hy
    · rw [state_setState_ne s _ hxc] at hy
      exact h.closed hx hy

theorem link (h : Shares P s t) (hc : P c) (hd : P d) (hs : (s.link c d).2.Acyclic)
    (ht : (t.link c d).2.Acyclic) : Shares P (s.link c d).2 (t.link c d).2 :=
  h.setState hc (fun _ he => CellState.aliasOf.inj he ▸ hd) hs ht

/-- An equation does the same in both stores. -/
theorem unify (h : Shares P s t) (ha : P a) (hb : P b) :
    (t.unify a b).1 = (s.unify a b).1 ∧ Shares P (s.unify a b).2 (t.unify a b).2 := by
  obtain ⟨hl, hleft⟩ := h.deref ha
  obtain ⟨hr, hright⟩ := h.deref hb
  have hs := h.acyclic_left.unify (h.has_left ha) (h.has_left hb)
  have ht := h.acyclic_right.unify (h.has_right ha) (h.has_right hb)
  -- The second store is asked about the same representatives, and holds the same in them.
  have hu : t.unify a b =
      if s.deref a = s.deref b then (.unchanged, t)
      else if s.state (s.deref a) = .unbound then t.link (s.deref a) (s.deref b)
      else if s.state (s.deref b) = .unbound then t.link (s.deref b) (s.deref a)
      else if s.state (s.deref a) = s.state (s.deref b) then (.unchanged, t)
      else (.failed, t) := by
    rw [h.state_eq hl, h.state_eq hr, Store.unify, hleft, hright]
  rw [hu] at ht ⊢
  have hcase := s.unify_case a b
  generalize s.unify a b = result at hcase hs
  cases hcase with
  | same heq =>
    rw [if_pos heq]
    exact ⟨rfl, h⟩
  | linkLeft hne hunbound =>
    rw [if_neg hne, if_pos hunbound] at ht ⊢
    exact ⟨by simp [Store.link, h.state_eq hl], h.link hl hr hs ht⟩
  | linkRight hne hbound hunbound =>
    rw [if_neg hne, if_neg hbound, if_pos hunbound] at ht ⊢
    exact ⟨by simp [Store.link, h.state_eq hr], h.link hr hl hs ht⟩
  | equal hbound heq =>
    by_cases hsame : s.deref a = s.deref b
    · rw [if_pos hsame]
      exact ⟨rfl, h⟩
    · rw [if_neg hsame, if_neg hbound, if_neg (heq ▸ hbound), if_pos heq]
      exact ⟨rfl, h⟩
  | clash hbound hbound' hne =>
    have hsame : s.deref a ≠ s.deref b := fun heq => hne (heq ▸ rfl)
    rw [if_neg hsame, if_neg hbound, if_neg hbound', if_neg hne]
    exact ⟨rfl, h⟩

end Shares

end Store

open Store

variable {P : Cell → Prop} {s t : Store} {g h : Goal}

/-! ## Searches in stores that share a part -/

namespace Run

variable {r r' : Run}

/-- Two runs that take the same course, in stores that share a part at the end. -/
structure Echoes (P : Cell → Prop) (r r' : Run) : Prop where
  succeeded_eq : r'.succeeded = r.succeeded
  events_eq : r'.events = r.events
  shares : Shares P r.store r'.store

/-- Going on from stores that share a part takes the same course. -/
def Echo (P : Cell → Prop) (next : Store → Run) : Prop :=
  ∀ ⦃s t⦄, Shares P s t → (next s).Echoes P (next t)

theorem echoes_stop (succeeded : Bool) (h : Shares P s t) :
    (stop succeeded s).Echoes P (stop succeeded t) := ⟨rfl, rfl, h⟩

theorem Echoes.enter (h : r.Echoes P r') : r.enter.Echoes P r'.enter :=
  ⟨h.succeeded_eq, congrArg (Event.entered :: ·) h.events_eq, h.shares⟩

theorem Echoes.after (event : Event) (h : r.Echoes P r') : (r.after event).Echoes P (r'.after event) :=
  ⟨h.succeeded_eq, congrArg (event :: ·) h.events_eq, h.shares⟩

theorem Echoes.orElse {later : Store → Run} (h : r.Echoes P r') (hlater : Echo P later) :
    (r.orElse later).Echoes P (r'.orElse later) := by
  have hsucceeded := h.succeeded_eq
  cases hr : r.succeeded with
  | true =>
    rw [hr] at hsucceeded
    rwa [orElse_of_succeeded later hr, orElse_of_succeeded later hsucceeded]
  | false =>
    rw [hr] at hsucceeded
    have hnext := hlater h.shares
    rw [Run.orElse, Run.orElse, hr, hsucceeded]
    exact ⟨hnext.succeeded_eq, congrArg₂ (· ++ ·) h.events_eq hnext.events_eq, hnext.shares⟩

/-- The binding of an equation in the part is undone in both stores, or kept in both. -/
theorem Echoes.orUndo {made : Binding} (h : r.Echoes P r') (hcell : P made.cell)
    (hprevious : made.previous = .unbound) :
    (r.orUndo (Trail.empty.record made)).Echoes P (r'.orUndo (Trail.empty.record made)) := by
  obtain ⟨cell, previous⟩ := made
  obtain rfl : previous = .unbound := hprevious
  have hsucceeded := h.succeeded_eq
  cases hr : r.succeeded with
  | true =>
    rw [hr] at hsucceeded
    rwa [Run.orUndo, Run.orUndo, hr, hsucceeded]
  | false =>
    rw [hr] at hsucceeded
    rw [Run.orUndo, Run.orUndo, hr, hsucceeded]
    have hclosed : ∀ d, CellState.unbound = .aliasOf d → P d := by simp
    refine ⟨rfl, congrArg (· ++ _) h.events_eq, ?_⟩
    exact h.shares.setState hcell hclosed (h.shares.acyclic_left.setState_unbound cell)
      (h.shares.acyclic_right.setState_unbound cell)

end Run

namespace Goal

open Run

theorem echo_finish : Echo P finish := fun _ _ h => (echoes_stop true h).enter

theorem echo_unify {a b : Cell} (ha : P a) (hb : P b) {next : Store → Run} (hnext : Echo P next) :
    Echo P ((Goal.unify a b).runThen next) := by
  intro s t h
  obtain ⟨houtcome, hshares⟩ := h.unify ha hb
  have hbinding : ∀ made, (s.unify a b).1.binding? = some made →
      P made.cell ∧ made.previous = .unbound := by
    intro made hmade
    obtain ⟨hcell | hcell, -, hprevious⟩ := binding_of_unify hmade <;> rw [hcell]
    · exact ⟨(h.deref ha).1, hprevious⟩
    · exact ⟨(h.deref hb).1, hprevious⟩
  rw [runThen, runThen]
  generalize s.unify a b = result at houtcome hshares hbinding
  generalize t.unify a b = result' at houtcome hshares
  obtain ⟨outcome, u⟩ := result
  obtain ⟨outcome', u'⟩ := result'
  obtain rfl : outcome' = outcome := houtcome
  cases outcome' with
  | failed => exact (echoes_stop false hshares).enter
  | unchanged => exact (hnext hshares).enter
  | aliased made target =>
    obtain ⟨hcell, hprevious⟩ := hbinding made rfl
    exact (((hnext hshares).orUndo hcell hprevious).after _).enter

mutual

/-- **A search depends on the part of the store that its cells are in.** -/
theorem echo_runThen : ∀ (g : Goal) {next : Store → Run}, (∀ c ∈ g.cells, P c) → Echo P next →
    Echo P (g.runThen next)
  | .terminal, next, _, _ => by
    intro s t h
    rw [runThen, runThen]
    exact echo_finish h
  | .print c, next, hcells, hnext => by
    intro s t h
    rw [runThen, runThen, ← h.value_eq (hcells c (by simp [cells]))]
    cases s.value c with
    | none => exact (echoes_stop false h).enter
    | some symbol => exact ((hnext h).after (.printed symbol)).enter
  | .unify a b, next, hcells, hnext =>
    echo_unify (hcells a (by simp [cells])) (hcells b (by simp [cells])) hnext
  | .or gs, next, hcells, hnext => by
    intro s t h
    rw [cells] at hcells
    rw [runThen, runThen]
    exact (echo_runAny 0 gs hcells hnext h).enter
  | .compose g g', next, hcells, _ => by
    intro s t h
    rw [cells] at hcells
    obtain ⟨hg, hg'⟩ := List.forall_mem_append.mp hcells
    rw [runThen, runThen]
    exact (echo_runThen g hg (echo_runThen g' hg' echo_finish) h).enter
  | .and gs, next, hcells, hnext => by
    intro s t h
    rw [cells] at hcells
    rw [runThen, runThen]
    exact (echo_runAll gs hcells hnext h).enter

theorem echo_runAny : ∀ (index : Nat) (gs : List Goal) {next : Store → Run},
    (∀ c ∈ cellsOfAll gs, P c) → Echo P next → Echo P (runAny index gs next)
  | index, [], next, _, _ => by
    intro s t h
    rw [runAny, runAny]
    exact echoes_stop false h
  | index, g :: later, next, hcells, hnext => by
    intro s t h
    rw [cellsOfAll] at hcells
    obtain ⟨hg, hlater⟩ := List.forall_mem_append.mp hcells
    rw [runAny, runAny]
    have hfirst := echo_runThen g hg hnext h
    exact (hfirst.orElse (echo_runAny (index + 1) later hlater hnext)).after (.tried index)

theorem echo_runAll : ∀ (gs : List Goal) {next : Store → Run}, (∀ c ∈ cellsOfAll gs, P c) →
    Echo P next → Echo P (runAll gs next)
  | [], next, _, hnext => by
    intro s t h
    rw [runAll, runAll]
    exact hnext h
  | g :: later, next, hcells, hnext => by
    intro s t h
    rw [cellsOfAll] at hcells
    obtain ⟨hg, hlater⟩ := List.forall_mem_append.mp hcells
    rw [runAll, runAll]
    exact (echo_runThen g hg (echo_runAll later hlater hnext) h).enter

end

/-! ## The part of a goal -/

/-- A cell of the store that leads into the footprint of a goal. -/
def LeadsInto (g : Goal) (s : Store) (c : Cell) : Prop := s.Has c ∧ s.deref c ∈ g.footprint s

/-- The footprints of two goals have no unbound cell in common. -/
def Apart (g h : Goal) (s : Store) : Prop := ∀ c ∈ g.footprint s, c ∈ h.footprint s → s.state c ≠ .unbound

theorem Apart.symm (hapart : g.Apart h s) : h.Apart g s := fun c hh hg => hapart c hg hh

theorem leadsInto_of_mem_cells (hcells : ∀ c ∈ g.cells, s.Has c) : ∀ c ∈ g.cells, g.LeadsInto s c :=
  fun c hc => ⟨hcells c hc, mem_footprint hc⟩

theorem leadsInto_of_mem_footprint (hs : s.Acyclic) (hcells : ∀ c ∈ g.cells, s.Has c) {c : Cell}
    (hc : c ∈ g.footprint s) : g.LeadsInto s c := by
  have hend := isEnd_of_mem_footprint hs hc
  obtain ⟨d, hd, heq⟩ := List.mem_map.mp hc
  refine ⟨heq ▸ hs.has_deref (hcells d hd), ?_⟩
  rwa [deref_of_isEnd hend]

/-- A search leaves alone what does not lead into its footprint. -/
theorem state_run_of_not_leadsInto (hs : s.Acyclic) (hcells : ∀ c ∈ g.cells, s.Has c) {c : Cell}
    (hc : ¬g.LeadsInto s c) : (g.run s).store.state c = s.state c := by
  rcases (linkedWithin_run hs hcells).state c with heq | ⟨hmem, -, -⟩
  · exact heq
  · exact absurd (leadsInto_of_mem_footprint hs hcells hmem) hc

/-- A search leaves alone what leads into the footprint of a goal that is apart from its own. -/
theorem Apart.state_run (hapart : g.Apart h s) (hs : s.Acyclic) (hcells : ∀ c ∈ g.cells, s.Has c)
    {c : Cell} (hc : h.LeadsInto s c) : (g.run s).store.state c = s.state c := by
  rcases (linkedWithin_run hs hcells).state c with heq | ⟨hmem, hunbound, -⟩
  · exact heq
  · have hfootprint := hc.2
    rw [deref_of_isEnd (isEnd_of_unbound hunbound)] at hfootprint
    exact absurd hunbound (hapart c hmem hfootprint)

/-- So it leaves behind a store that shares the part of that goal. -/
theorem Apart.shares (hapart : g.Apart h s) (hs : s.Acyclic) (hcells : ∀ c ∈ g.cells, s.Has c) :
    Shares (h.LeadsInto s) s (g.run s).store where
  acyclic_left := hs
  acyclic_right := (linkedWithin_run hs hcells).acyclic
  has_left := fun hc => hc.1
  has_right := fun hc => (linkedWithin_run hs hcells).has.mpr hc.1
  state_eq := fun hc => (hapart.state_run hs hcells hc).symm
  closed := by
    intro c d hc hd
    refine ⟨hs.has_of_alias hd, ?_⟩
    rw [← hs.deref_of_alias hd]
    exact hc.2

/-- The footprint of that goal is where it was. -/
theorem Apart.footprint_run (hapart : g.Apart h s) (hs : s.Acyclic) (hg : ∀ c ∈ g.cells, s.Has c)
    (hh : ∀ c ∈ h.cells, s.Has c) : h.footprint (g.run s).store = h.footprint s :=
  List.map_congr_left fun c hc =>
    ((hapart.shares hs hg).deref (leadsInto_of_mem_cells hh c hc)).2

theorem Apart.echoes_run (hapart : g.Apart h s) (hs : s.Acyclic) (hg : ∀ c ∈ g.cells, s.Has c)
    (hh : ∀ c ∈ h.cells, s.Has c) : (h.run s).Echoes (h.LeadsInto s) (h.run (g.run s).store) :=
  echo_runThen h (leadsInto_of_mem_cells hh) echo_finish (hapart.shares hs hg)

/-- What a cell holds after both searches: what the later goal makes of it if it leads into its
footprint, and else what the earlier one has made of it. -/
theorem Apart.state_run_run (hapart : g.Apart h s) (hs : s.Acyclic) (hg : ∀ c ∈ g.cells, s.Has c)
    (hh : ∀ c ∈ h.cells, s.Has c) (c : Cell) :
    (h.LeadsInto s c → (h.run (g.run s).store).store.state c = (h.run s).store.state c) ∧
    (¬h.LeadsInto s c → (h.run (g.run s).store).store.state c = (g.run s).store.state c) := by
  constructor
  · intro hc
    exact ((hapart.echoes_run hs hg hh).shares.state_eq hc).symm
  · intro hc
    have hlinked := linkedWithin_run hs hg
    have hagain := linkedWithin_run (g := h) hlinked.acyclic fun d hd => hlinked.has.mpr (hh d hd)
    rw [hapart.footprint_run hs hg hh] at hagain
    rcases hagain.state c with heq | ⟨hmem, -, -⟩
    · exact heq
    · exact absurd (leadsInto_of_mem_footprint hs hh hmem) hc

/-- After searches in either order each cell holds the same. -/
theorem Apart.state_run_comm (hapart : g.Apart h s) (hs : s.Acyclic) (hg : ∀ c ∈ g.cells, s.Has c)
    (hh : ∀ c ∈ h.cells, s.Has c) (c : Cell) :
    (h.run (g.run s).store).store.state c = (g.run (h.run s).store).store.state c := by
  obtain ⟨hin, hout⟩ := hapart.state_run_run hs hg hh c
  obtain ⟨hin', hout'⟩ := hapart.symm.state_run_run hs hh hg c
  by_cases hcg : g.LeadsInto s c
  · by_cases hch : h.LeadsInto s c
    · rw [hin hch, hin' hcg, hapart.state_run hs hg hch, hapart.symm.state_run hs hh hcg]
    · rw [hout hch, hin' hcg]
  · by_cases hch : h.LeadsInto s c
    · rw [hin hch, hout' hcg]
    · rw [hout hch, hout' hcg, state_run_of_not_leadsInto hs hg hcg,
        state_run_of_not_leadsInto hs hh hch]

/-- The later search takes the course that it would have taken first. -/
theorem Apart.run_second (hapart : g.Apart h s) (hs : s.Acyclic) (hg : ∀ c ∈ g.cells, s.Has c)
    (hh : ∀ c ∈ h.cells, s.Has c) :
    let first := h.run s
    let second := h.run (g.run s).store
    second.succeeded = first.succeeded ∧ second.printed = first.printed ∧
      second.steps = first.steps := by
  intro first second
  have hechoes : first.Echoes (h.LeadsInto s) second := hapart.echoes_run hs hg hh
  exact ⟨hechoes.succeeded_eq, congrArg (List.filterMap _) hechoes.events_eq,
    congrArg (List.count _) hechoes.events_eq⟩

/-- **A goal touches only what it mentions, and goals that share nothing unbound commute.** A search changes
only unbound cells among the representatives of the goal's cells, and makes them aliases of others of
these. If no unbound cell represents cells of both of two goals, then each of them succeeds or fails,
prints, and enters as many nodes, whether it is searched for before the other one or after it, and in
either order each cell holds the same at the end. The goals may have nodes of any kind, and may share bound
cells and the chains of aliases that lead to them. -/
theorem run_commute (hs : s.Acyclic) (hg : ∀ c ∈ g.cells, s.Has c) (hh : ∀ c ∈ h.cells, s.Has c) :
    let first := g.run s
    let second := h.run first.store
    let first' := h.run s
    let second' := g.run first'.store
    (∀ c, first.store.state c ≠ s.state c →
      c ∈ g.footprint s ∧ s.state c = .unbound ∧
        ∃ d ∈ g.footprint s, first.store.state c = .aliasOf d) ∧
    ((∀ c ∈ g.footprint s, c ∈ h.footprint s → s.state c ≠ .unbound) →
      (second'.succeeded = first.succeeded ∧ second'.printed = first.printed ∧
        second'.steps = first.steps) ∧
      (second.succeeded = first'.succeeded ∧ second.printed = first'.printed ∧
        second.steps = first'.steps) ∧
      ∀ c, second.store.state c = second'.store.state c) := by
  intro first second first' second'
  constructor
  · intro c hc
    rcases (linkedWithin_run hs hg).state c with heq | hlink
    · exact absurd heq hc
    · exact hlink
  · intro hdisjoint
    have hapart : g.Apart h s := hdisjoint
    exact ⟨hapart.symm.run_second hs hh hg, hapart.run_second hs hg hh,
      hapart.state_run_comm hs hg hh⟩

/-- Both goals have the constant `a`, by one alias of it. The first one solves an equation of `X` that it
undoes before it solves another one, and the second one has an alternative that fails. -/
theorem run_commute_sharing_constant :
    let s : Store := ⟨#[⟨some "X", .unbound⟩, ⟨some "Y", .unbound⟩, ⟨none, .bound ⟨"a"⟩⟩,
      ⟨none, .bound ⟨"b"⟩⟩, ⟨none, .aliasOf ⟨0⟩⟩, ⟨none, .aliasOf ⟨4⟩⟩, ⟨none, .aliasOf ⟨2⟩⟩]⟩
    let g : Goal := .compose (.or [.and [.unify ⟨5⟩ ⟨3⟩, .unify ⟨6⟩ ⟨3⟩], .unify ⟨6⟩ ⟨4⟩])
      (.and [.print ⟨0⟩, .terminal])
    let h : Goal := .and [.unify ⟨1⟩ ⟨6⟩, .print ⟨1⟩, .or [.unify ⟨1⟩ ⟨3⟩, .print ⟨1⟩]]
    (g.run s).store.state ⟨0⟩ = .aliasOf ⟨2⟩ ∧ (h.run s).printed = [⟨"a"⟩, ⟨"a"⟩] ∧
      (h.run (g.run s).store).printed = [⟨"a"⟩, ⟨"a"⟩] ∧
      (g.run (h.run s).store).printed = (g.run s).printed ∧
      ∀ c, (h.run (g.run s).store).store.state c = (g.run (h.run s).store).store.state c := by
  intro s g h
  have hs : s.Acyclic := by decide
  have hg : ∀ c ∈ g.cells, s.Has c := show ∀ c ∈ g.cells, c.id < 7 by decide
  have hh : ∀ c ∈ h.cells, s.Has c := show ∀ c ∈ h.cells, c.id < 7 by decide
  obtain ⟨-, hcommute⟩ := run_commute hs hg hh
  obtain ⟨⟨-, hprinted, -⟩, ⟨-, hprinted', -⟩, hstate⟩ := hcommute (by decide)
  have hfirst : (h.run s).printed = [⟨"a"⟩, ⟨"a"⟩] := by decide
  exact ⟨by decide, hfirst, hprinted'.trans hfirst, hprinted, hstate⟩

end Goal

end GoalSearch
