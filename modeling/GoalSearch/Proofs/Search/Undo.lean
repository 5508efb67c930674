import GoalSearch.Proofs.Search.Agreement

/-!
# Links are undone in reverse order

The events of a search tell all that it writes. Each node keeps its own trail, and there is no stack that
they share, but the events go like those of a stack: a cell that is undone is always the one that became
an alias last of those that are still aliases. Replaying the events from the store that the search began
with checks this event by event, and it ends in the store that the search ended in:

    Moment.replay? ⟨s, []⟩ (g.invoke future s).events = some ⟨(g.invoke future s).store, opened⟩

where no link is left open if the search fails (`invoke_nests`). From one moment to the next, the open
links are exactly what tells the store from the one at the beginning (`Moment.Since.step`), and so they
are after every part of a search.
-/

namespace GoalSearch

open Store

/-! ## Moments of a search -/

/-- A cell that has become an alias, and of which cell. -/
structure Link where
  cell : Cell
  target : Cell
deriving DecidableEq, Repr

/-- What there is at a moment of a search: the store, and the links that have not been undone, latest
first. -/
structure Moment where
  store : Store
  opened : List Link
deriving DecidableEq, Repr

namespace Moment

/-- The moment after an event. Only an unbound cell can become an alias, and only the latest link that is
open can be undone, which makes its cell unbound again. -/
def step? (m : Moment) : Event → Option Moment
  | .aliased cell target =>
    if m.store.Has cell ∧ m.store.state cell = .unbound then
      some ⟨m.store.setState cell (.aliasOf target), ⟨cell, target⟩ :: m.opened⟩
    else none
  | .undone binding =>
    match m.opened with
    | [] => none
    | link :: earlier =>
      if binding = ⟨link.cell, .unbound⟩ then some ⟨m.store.revert binding, earlier⟩ else none
  | .entered | .printed _ | .tried _ => some m

def replay? (m : Moment) (events : List Event) : Option Moment := events.foldlM step? m

variable {m m' : Moment} {s : Store} {event : Event} {events later : List Event}

theorem step?_aliased_iff {cell target : Cell} : m.step? (.aliased cell target) = some m' ↔
    (m.store.Has cell ∧ m.store.state cell = .unbound) ∧
      m' = ⟨m.store.setState cell (.aliasOf target), ⟨cell, target⟩ :: m.opened⟩ := by
  rw [step?, Option.ite_none_right_eq_some, Option.some.injEq, eq_comm (b := m')]

/-- An undo concerns the latest link that is open. -/
theorem step?_undone_iff {binding : Binding} : m.step? (.undone binding) = some m' ↔
    ∃ link earlier, m.opened = link :: earlier ∧ binding = ⟨link.cell, .unbound⟩ ∧
      m' = ⟨m.store.revert binding, earlier⟩ := by
  obtain ⟨store, opened⟩ := m
  cases opened with
  | nil => simp [step?]
  | cons link earlier =>
    have hstep : step? ⟨store, link :: earlier⟩ (.undone binding) =
        if binding = ⟨link.cell, .unbound⟩ then some ⟨store.revert binding, earlier⟩ else none := rfl
    rw [hstep, Option.ite_none_right_eq_some, Option.some.injEq, eq_comm (b := m')]
    simp

theorem replay?_cons : m.replay? (event :: events) = (m.step? event).bind (·.replay? events) := rfl

theorem replay?_append :
    m.replay? (events ++ later) = (m.replay? events).bind (·.replay? later) :=
  List.foldlM_append

/-! ### What has changed since the beginning -/

/-- The open links tell a moment's store from an earlier one: their cells were unbound and are aliases, and
all other cells are as they were. -/
structure Since (s : Store) (m : Moment) : Prop where
  size_eq : m.store.size = s.size
  unbound : ∀ l ∈ m.opened, s.state l.cell = .unbound
  linked : ∀ l ∈ m.opened, m.store.state l.cell = .aliasOf l.target
  unchanged : ∀ {c : Cell}, (∀ l ∈ m.opened, l.cell ≠ c) → m.store.state c = s.state c
  nodup : (m.opened.map Link.cell).Nodup

theorem since_start (s : Store) : Since s ⟨s, []⟩ where
  size_eq := rfl
  unbound := by simp
  linked := by simp
  unchanged := fun _ => rfl
  nodup := .nil

/-- A cell that is unbound has no open link. -/
theorem Since.not_opened (h : Since s m) {c : Cell} (hc : m.store.state c = .unbound) :
    ∀ l ∈ m.opened, l.cell ≠ c := by
  rintro l hl rfl
  have hlinked := h.linked l hl
  rw [hc] at hlinked
  cases hlinked

theorem Since.aliased (h : Since s m) {c d : Cell} (hhas : m.store.Has c)
    (hunbound : m.store.state c = .unbound) :
    Since s ⟨m.store.setState c (.aliasOf d), ⟨c, d⟩ :: m.opened⟩ := by
  have hnew := h.not_opened hunbound
  refine ⟨(size_setState _ _ _).trans h.size_eq, ?_, ?_, ?_, ?_⟩
  · refine List.forall_mem_cons.mpr ⟨?_, h.unbound⟩
    rw [← h.unchanged hnew]
    exact hunbound
  · refine List.forall_mem_cons.mpr ⟨state_setState_self _ c _ hhas, fun l hl => ?_⟩
    rw [state_setState_ne _ _ (hnew l hl)]
    exact h.linked l hl
  · intro x hx
    obtain ⟨hne, hx⟩ := List.forall_mem_cons.mp hx
    rw [state_setState_ne _ _ (Ne.symm hne)]
    exact h.unchanged hx
  · refine List.nodup_cons.mpr ⟨fun hmem => ?_, h.nodup⟩
    obtain ⟨l, hl, hcell⟩ := List.mem_map.mp hmem
    exact hnew l hl hcell

theorem Since.undone {store : Store} {link : Link} {earlier : List Link}
    (h : Since s ⟨store, link :: earlier⟩) :
    Since s ⟨store.revert ⟨link.cell, .unbound⟩, earlier⟩ := by
  obtain ⟨hnew, hnodup⟩ := List.nodup_cons.mp h.nodup
  have hne : ∀ l ∈ earlier, l.cell ≠ link.cell := fun l hl hcell =>
    hnew (List.mem_map.mpr ⟨l, hl, hcell⟩)
  refine ⟨(size_setState _ _ _).trans h.size_eq, fun l hl => h.unbound l (List.mem_cons_of_mem _ hl),
    fun l hl => ?_, ?_, hnodup⟩
  · rw [revert, state_setState_ne _ _ (hne l hl)]
    exact h.linked l (List.mem_cons_of_mem _ hl)
  · intro x hx
    by_cases hcell : x = link.cell
    · rw [hcell, revert, state_setState_unbound]
      exact (h.unbound link List.mem_cons_self).symm
    · rw [revert, state_setState_ne _ _ hcell]
      exact h.unchanged (List.forall_mem_cons.mpr ⟨Ne.symm hcell, hx⟩)

/-- **One event** keeps in step what is open and what has changed. -/
theorem Since.step (h : Since s m) (hstep : m.step? event = some m') : Since s m' := by
  cases event with
  | aliased cell target =>
    obtain ⟨⟨hhas, hunbound⟩, rfl⟩ := step?_aliased_iff.mp hstep
    exact h.aliased hhas hunbound
  | undone binding =>
    obtain ⟨store, opened⟩ := m
    obtain ⟨link, earlier, rfl, rfl, rfl⟩ := step?_undone_iff.mp hstep
    exact h.undone
  | entered =>
    cases hstep
    exact h
  | printed symbol =>
    cases hstep
    exact h
  | tried index =>
    cases hstep
    exact h

theorem Since.replay (h : Since s m) (hreplay : m.replay? events = some m') : Since s m' := by
  induction events generalizing m with
  | nil =>
    cases hreplay
    exact h
  | cons event events ih =>
    rw [replay?_cons] at hreplay
    obtain ⟨u, hu, hreplay⟩ := Option.bind_eq_some_iff.mp hreplay
    exact ih (h.step hu) hreplay

/-- A cell has another state exactly if it has an open link. -/
theorem Since.changed_iff (h : Since s m) {c : Cell} :
    m.store.state c ≠ s.state c ↔ ∃ l ∈ m.opened, l.cell = c := by
  constructor
  · intro hchanged
    by_contra hnone
    exact hchanged (h.unchanged fun l hl hcell => hnone ⟨l, hl, hcell⟩)
  · rintro ⟨l, hl, rfl⟩
    rw [h.linked l hl, h.unbound l hl]
    simp

/-- A cell that was bound or an alias is as it was. -/
theorem Since.state_eq (h : Since s m) {c : Cell} (hc : s.state c ≠ .unbound) :
    m.store.state c = s.state c := by
  refine h.unchanged ?_
  rintro l hl rfl
  exact hc (h.unbound l hl)

/-- What can be replayed can be replayed up to any event. -/
theorem exists_replay?_of_le {earlier : List Event} (hreplay : m.replay? events = some m')
    (hle : earlier <+: events) : ∃ u, m.replay? earlier = some u := by
  obtain ⟨rest, rfl⟩ := hle
  rw [replay?_append] at hreplay
  obtain ⟨u, hu, -⟩ := Option.bind_eq_some_iff.mp hreplay
  exact ⟨u, hu⟩

end Moment

/-! ## Runs -/

/-- The events of a run can be replayed from the store that it began with, behind whatever links are open
there, and they lead to the store that it ended in. A run that fails leaves no link of its own open. -/
structure Run.Nests (s : Store) (r : Run) (opened : List Link) : Prop where
  replay : ∀ base, Moment.replay? ⟨s, base⟩ r.events = some ⟨r.store, opened ++ base⟩
  nil_of_failed : r.succeeded = false → opened = []

/-- From stores of a size, a way of going on undoes its links in order. -/
def Nesting (n : Nat) (next : Store → Run) : Prop :=
  ∀ s : Store, s.Acyclic → s.size = n → ∃ opened, (next s).Nests s opened

variable {s : Store} {r : Run} {opened : List Link} {n : Nat} {next later : Store → Run}

namespace Run

theorem nests_stop (succeeded : Bool) (s : Store) : (stop succeeded s).Nests s [] :=
  ⟨fun _ => rfl, fun _ => rfl⟩

theorem Nests.enter (h : r.Nests s opened) : r.enter.Nests s opened :=
  ⟨fun base => h.replay base, h.nil_of_failed⟩

theorem Nests.after_printed (h : r.Nests s opened) (symbol : Symbol) :
    (r.after (.printed symbol)).Nests s opened :=
  ⟨fun base => h.replay base, h.nil_of_failed⟩

theorem Nests.after_tried (h : r.Nests s opened) (index : Nat) :
    (r.after (.tried index)).Nests s opened :=
  ⟨fun base => h.replay base, h.nil_of_failed⟩

/-- After a run that fails, a further one goes on with the links that were open before. -/
theorem Nests.orElse {opened' : List Link} (h : r.Nests s opened) (hfailed : r.succeeded = false)
    (hlater : (later r.store).Nests r.store opened') : (r.orElse later).Nests s opened' := by
  obtain rfl := h.nil_of_failed hfailed
  refine ⟨fun base => ?_, fun hs => hlater.nil_of_failed ?_⟩
  · have hevents : (r.orElse later).events = r.events ++ (later r.store).events := by
      simp [Run.orElse, hfailed]
    rw [hevents, Moment.replay?_append, h.replay base, store_orElse_of_failed later hfailed]
    exact hlater.replay base
  · rwa [succeeded_orElse_of_failed later hfailed] at hs

/-- The link of an equation is open as long as what comes after it goes on, and is undone behind that. -/
theorem Nests.link {cell target : Cell} (hhas : s.Has cell) (hunbound : s.state cell = .unbound)
    (h : r.Nests (s.setState cell (.aliasOf target)) opened) :
    ((r.orUndo (Trail.empty.record ⟨cell, s.state cell⟩)).after (.aliased cell target)).Nests s
      (if r.succeeded then opened ++ [⟨cell, target⟩] else []) := by
  have hopens : ∀ base, Moment.step? ⟨s, base⟩ (.aliased cell target) =
      some ⟨s.setState cell (.aliasOf target), ⟨cell, target⟩ :: base⟩ := fun base =>
    Moment.step?_aliased_iff.mpr ⟨⟨hhas, hunbound⟩, rfl⟩
  cases hs : r.succeeded with
  | true =>
    refine ⟨fun base => ?_, fun hfailed => ?_⟩
    · rw [orUndo, if_pos hs, after, Moment.replay?_cons, hopens, if_pos rfl, List.append_assoc]
      exact h.replay _
    · rw [succeeded_after, succeeded_orUndo, hs] at hfailed
      cases hfailed
  | false =>
    refine ⟨fun base => ?_, fun _ => rfl⟩
    obtain rfl := h.nil_of_failed hs
    have hevents : (r.orUndo (Trail.empty.record ⟨cell, s.state cell⟩)).events =
        r.events ++ [.undone ⟨cell, s.state cell⟩] := by
      simp [orUndo, hs, Trail.record, Trail.empty]
    have hundoes : ∀ base, Moment.step? ⟨r.store, ⟨cell, target⟩ :: base⟩
        (.undone ⟨cell, .unbound⟩) = some ⟨r.store.revert ⟨cell, .unbound⟩, base⟩ := fun base =>
      Moment.step?_undone_iff.mpr ⟨_, _, rfl, rfl, rfl⟩
    rw [store_after, store_orUndo_of_failed _ hs, after, hevents, Moment.replay?_cons, hopens,
      Option.bind_some, Moment.replay?_append, h.replay, hunbound, Option.bind_some, List.nil_append,
      Moment.replay?_cons, hundoes]
    rfl

end Run

/-! ## Searches -/

namespace Goal

theorem nesting_finish : Nesting n finish := fun s _ _ => ⟨[], (Run.nests_stop true s).enter⟩

theorem nesting_unify {a b : Cell} (ha : a.id < n) (hb : b.id < n) (hnext : Nesting n next) :
    Nesting n ((Goal.unify a b).runThen next) := by
  intro s hs hsize
  rw [← hsize] at ha hb
  have hacyclic := hs.unify ha hb
  have hsize' := (size_unify s a b).trans hsize
  have hcase := s.unify_case a b
  rw [runThen]
  generalize s.unify a b = result at hcase hacyclic hsize'
  cases hcase with
  | same _ =>
    obtain ⟨opened, h⟩ := hnext s hs hsize
    exact ⟨opened, h.enter⟩
  | linkLeft _ hl =>
    obtain ⟨opened, h⟩ := hnext _ hacyclic hsize'
    exact ⟨_, (h.link (hs.has_deref ha) hl).enter⟩
  | linkRight _ _ hr =>
    obtain ⟨opened, h⟩ := hnext _ hacyclic hsize'
    exact ⟨_, (h.link (hs.has_deref hb) hr).enter⟩
  | equal _ _ =>
    obtain ⟨opened, h⟩ := hnext s hs hsize
    exact ⟨opened, h.enter⟩
  | clash _ _ _ => exact ⟨[], (Run.nests_stop false s).enter⟩

theorem nesting_orElse {first : Store → Run} (hfirst : Nesting n first) (hrestores : Restores first)
    (hlater : Nesting n later) : Nesting n fun s => (first s).orElse later := by
  intro s hs hsize
  obtain ⟨opened, h⟩ := hfirst s hs hsize
  dsimp only
  cases hsucceeded : (first s).succeeded with
  | true =>
    rw [Run.orElse_of_succeeded later hsucceeded]
    exact ⟨opened, h⟩
  | false =>
    obtain ⟨opened', h'⟩ := hlater s hs hsize
    rw [← hrestores s hsucceeded] at h'
    exact ⟨opened', h.orElse hsucceeded h'⟩

mutual

/-- A search undoes its links in order if what is to come does. -/
theorem nesting_runThen : ∀ (g : Goal) {next : Store → Run}, (∀ c ∈ g.cells, c.id < n) →
    Restores next → Nesting n next → Nesting n (g.runThen next)
  | .terminal, next, _, _, _ => by
    intro s _ _
    rw [runThen]
    exact ⟨[], (Run.nests_stop true s).enter⟩
  | .print cell, next, _, _, hnext => by
    intro s hs hsize
    rw [runThen]
    cases s.value cell with
    | none => exact ⟨[], (Run.nests_stop false s).enter⟩
    | some symbol =>
      obtain ⟨opened, h⟩ := hnext s hs hsize
      exact ⟨opened, (h.after_printed symbol).enter⟩
  | .unify a b, next, hcells, _, hnext =>
    nesting_unify (hcells a (by simp [cells])) (hcells b (by simp [cells])) hnext
  | .or alternatives, next, hcells, hrestores, hnext => by
    rw [cells] at hcells
    intro s hs hsize
    rw [runThen]
    obtain ⟨opened, h⟩ := nesting_runAny 0 alternatives hcells hrestores hnext s hs hsize
    exact ⟨opened, h.enter⟩
  | .compose left right, next, hcells, _, _ => by
    rw [cells] at hcells
    obtain ⟨hleft, hright⟩ := List.forall_mem_append.mp hcells
    have hnext := nesting_runThen right hright restores_finish nesting_finish
    intro s hs hsize
    rw [runThen]
    obtain ⟨opened, h⟩ :=
      nesting_runThen left hleft (restores_runThen right restores_finish) hnext s hs hsize
    exact ⟨opened, h.enter⟩
  | .and conjuncts, next, hcells, hrestores, hnext => by
    rw [cells] at hcells
    intro s hs hsize
    rw [runThen]
    obtain ⟨opened, h⟩ := nesting_runAll conjuncts hcells hrestores hnext s hs hsize
    exact ⟨opened, h.enter⟩

theorem nesting_runAny : ∀ (index : Nat) (gs : List Goal) {next : Store → Run},
    (∀ c ∈ cellsOfAll gs, c.id < n) → Restores next → Nesting n next →
    Nesting n (runAny index gs next)
  | index, [], next, _, _, _ => by
    intro s _ _
    rw [runAny]
    exact ⟨[], Run.nests_stop false s⟩
  | index, g :: later, next, hcells, hrestores, hnext => by
    rw [cellsOfAll] at hcells
    obtain ⟨hg, hlater⟩ := List.forall_mem_append.mp hcells
    intro s hs hsize
    rw [runAny]
    obtain ⟨opened, h⟩ := nesting_orElse (nesting_runThen g hg hrestores hnext)
      (restores_runThen g hrestores) (nesting_runAny (index + 1) later hlater hrestores hnext) s hs hsize
    exact ⟨opened, h.after_tried index⟩

theorem nesting_runAll : ∀ (gs : List Goal) {next : Store → Run},
    (∀ c ∈ cellsOfAll gs, c.id < n) → Restores next → Nesting n next → Nesting n (runAll gs next)
  | [], next, _, _, hnext => by
    intro s hs hsize
    rw [runAll]
    exact hnext s hs hsize
  | g :: later, next, hcells, hrestores, hnext => by
    rw [cellsOfAll] at hcells
    obtain ⟨hg, hlater⟩ := List.forall_mem_append.mp hcells
    intro s hs hsize
    rw [runAll]
    obtain ⟨opened, h⟩ := nesting_runThen g hg (restores_runAll later hrestores)
      (nesting_runAll later hlater hrestores hnext) s hs hsize
    exact ⟨opened, h.enter⟩

end

/-- **Links are undone in reverse order.** The events of a search, replayed from the store that it began
with, always undo the latest open link and make its cell unbound. If the search fails no link is left
open. Otherwise the open links are exactly the cells that have changed: these were unbound, and are
aliases of the targets that the events told. No cell that was bound or an alias is written to, at any
moment of the search. -/
theorem invoke_nests (hs : s.Acyclic) {g future : Goal} (hg : ∀ c ∈ g.cells, s.Has c)
    (hfuture : ∀ c ∈ future.cells, s.Has c) :
    let r := g.invoke future s
    ∃ opened, Moment.replay? ⟨s, []⟩ r.events = some ⟨r.store, opened⟩ ∧
      (r.succeeded = false → opened = []) ∧
      (∀ c, r.store.state c ≠ s.state c ↔ ∃ l ∈ opened, l.cell = c) ∧
      (∀ l ∈ opened, s.state l.cell = .unbound ∧ r.store.state l.cell = .aliasOf l.target) ∧
      (opened.map Link.cell).Nodup ∧
      ∀ events, events <+: r.events → ∃ m, Moment.replay? ⟨s, []⟩ events = some m ∧
        ∀ c, s.state c ≠ .unbound → m.store.state c = s.state c := by
  intro r
  have hnesting : Nesting s.size (g.invoke future) :=
    nesting_runThen g hg (restores_run future)
      (nesting_runThen future hfuture restores_finish nesting_finish)
  obtain ⟨opened, h⟩ := hnesting s hs rfl
  have hreplay := h.replay []
  rw [List.append_nil] at hreplay
  have hsince := (Moment.since_start s).replay hreplay
  refine ⟨opened, hreplay, h.nil_of_failed, fun c => hsince.changed_iff,
    fun l hl => ⟨hsince.unbound l hl, hsince.linked l hl⟩, hsince.nodup, fun events hle => ?_⟩
  obtain ⟨m, hm⟩ := Moment.exists_replay?_of_le hreplay hle
  exact ⟨m, hm, fun c hc => ((Moment.since_start s).replay hm).state_eq hc⟩

/-- The first alternative links `X` and then `Y`, and gives up when `X` is to be `b`. The second one links
`X` and `Y` elsewhere; what comes next links `Z` through `Y`, has to undo that, and links it again. -/
theorem invoke_nests_alternatives :
    let s : Store := ⟨#[⟨some "X", .unbound⟩, ⟨some "Y", .unbound⟩, ⟨some "Z", .unbound⟩,
      ⟨none, .bound ⟨"a"⟩⟩, ⟨none, .bound ⟨"b"⟩⟩]⟩
    let g : Goal := .or [.and [.unify ⟨0⟩ ⟨1⟩, .unify ⟨1⟩ ⟨3⟩, .unify ⟨0⟩ ⟨4⟩],
      .and [.unify ⟨3⟩ ⟨0⟩, .unify ⟨1⟩ ⟨2⟩]]
    let future : Goal := .or [.and [.unify ⟨1⟩ ⟨4⟩, .unify ⟨0⟩ ⟨4⟩], .unify ⟨2⟩ ⟨3⟩]
    let r := g.invoke future s
    let opened : List Link := [⟨⟨2⟩, ⟨3⟩⟩, ⟨⟨1⟩, ⟨2⟩⟩, ⟨⟨0⟩, ⟨3⟩⟩]
    r.succeeded = true ∧
      r.events.filter (fun | .aliased .. | .undone _ => true | _ => false) =
        [.aliased ⟨0⟩ ⟨1⟩, .aliased ⟨1⟩ ⟨3⟩, .undone ⟨⟨1⟩, .unbound⟩, .undone ⟨⟨0⟩, .unbound⟩,
          .aliased ⟨0⟩ ⟨3⟩, .aliased ⟨1⟩ ⟨2⟩, .aliased ⟨2⟩ ⟨4⟩, .undone ⟨⟨2⟩, .unbound⟩,
          .aliased ⟨2⟩ ⟨3⟩] ∧
      Moment.replay? ⟨s, []⟩ r.events = some ⟨r.store, opened⟩ ∧
      ∀ c, r.store.state c ≠ s.state c ↔ ∃ l ∈ opened, l.cell = c := by
  intro s g future r opened
  have hreplay : Moment.replay? ⟨s, []⟩ r.events = some ⟨r.store, opened⟩ := by decide
  obtain ⟨opened', hreplay', -, hchanged, -⟩ := invoke_nests (s := s) (by decide)
    (show ∀ c ∈ g.cells, c.id < 5 by decide) (show ∀ c ∈ future.cells, c.id < 5 by decide)
  obtain rfl : opened' = opened := by
    have heq := hreplay'.symm.trans hreplay
    rw [Option.some.injEq, Moment.mk.injEq] at heq
    exact heq.2
  exact ⟨by decide, by decide, hreplay, hchanged⟩

end Goal

end GoalSearch
