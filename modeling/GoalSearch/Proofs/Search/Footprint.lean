import GoalSearch.Proofs.Search.Invariant
import GoalSearch.Proofs.Store.Content
import GoalSearch.Proofs.Store.Lawful

/-!
# What a search can change

The footprint of a goal in a store are the representatives of its cells. A search writes to no other cells,
and makes aliases of each other of those that are unbound:

    (g.run s).store.state c ≠ s.state c → c ∈ g.footprint s                     (linkedWithin_run)

The search follows aliases that it has made itself. They lead from the footprint into the footprint again
(`LinkedWithin.deref_mem`), which carries the induction, and it does not matter when an equation is undone
in between (`linkInvariant`).
-/

namespace GoalSearch

/-- The representatives of the cells of a goal. -/
def Goal.footprint (g : Goal) (s : Store) : List Cell := g.cells.map s.deref

namespace Store

variable {s t : Store} {T : List Cell} {a b c d e : Cell}

/-! ## Links among ends -/

/-- The second store is the first one, but that some cells of a list which were unbound there are aliases
of cells of that list. -/
structure LinkedWithin (T : List Cell) (s t : Store) : Prop where
  acyclic : t.Acyclic
  size_eq : t.size = s.size
  state : ∀ c, t.state c = s.state c ∨
    c ∈ T ∧ s.state c = .unbound ∧ ∃ d ∈ T, t.state c = .aliasOf d

theorem Acyclic.linkedWithin_refl (hs : s.Acyclic) (T : List Cell) : LinkedWithin T s s :=
  ⟨hs, rfl, fun _ => .inl rfl⟩

namespace LinkedWithin

theorem has (h : LinkedWithin T s t) : t.Has c ↔ s.Has c := has_congr h.size_eq

/-- Aliases are never given up. -/
theorem state_of_alias (h : LinkedWithin T s t) (hc : s.state c = .aliasOf d) :
    t.state c = .aliasOf d := by
  rcases h.state c with heq | ⟨-, hunbound, -⟩
  · rw [heq, hc]
  · rw [hc] at hunbound
    cases hunbound

theorem unbound_of_unbound (h : LinkedWithin T s t) (hc : t.state c = .unbound) :
    s.state c = .unbound := by
  rcases h.state c with heq | ⟨-, hunbound, -⟩
  · rw [← heq, hc]
  · exact hunbound

/-- Where a chain has led, it goes on from there. -/
theorem deref_deref (h : LinkedWithin T s t) (hleads : s.Leads c e) : t.deref c = t.deref e := by
  induction hleads with
  | here _ => rfl
  | link hc _ ih => rw [h.acyclic.deref_of_alias (h.state_of_alias hc), ih]

/-- A chain that goes on from a cell of the list ends at a cell of the list. -/
theorem mem_of_leads (h : LinkedWithin T s t) (hT : ∀ c ∈ T, s.IsEnd c) (hleads : t.Leads c e)
    (hc : c ∈ T) : e ∈ T := by
  induction hleads with
  | here _ => exact hc
  | @link x y z hx _ ih =>
    rcases h.state x with heq | ⟨-, -, d, hd, hlink⟩
    · rw [heq] at hx
      exact absurd hx (hT x hc y)
    · rw [hx, CellState.aliasOf.injEq] at hlink
      exact ih (hlink ▸ hd)

/-- **The representatives stay within the list.** -/
theorem deref_mem (h : LinkedWithin T s t) (hs : s.Acyclic) (hT : ∀ c ∈ T, s.IsEnd c)
    (hc : s.deref c ∈ T) : t.deref c ∈ T := by
  rw [h.deref_deref (hs.leads_deref c)]
  exact h.mem_of_leads hT (h.acyclic.leads_deref _) hc

/-- One more link, from an unbound cell of the list to a cell of the list. -/
theorem link (h : LinkedWithin T s t) (hc : c ∈ T) (hunbound : t.state c = .unbound) (hhas : t.Has c)
    (hd : d ∈ T) (hacyclic : (t.link c d).2.Acyclic) : LinkedWithin T s (t.link c d).2 where
  acyclic := hacyclic
  size_eq := (size_setState t c _).trans h.size_eq
  state := by
    intro x
    rw [Store.link]
    by_cases hx : x = c
    · rw [hx, state_setState_self t c _ hhas]
      exact .inr ⟨hc, h.unbound_of_unbound hunbound, d, hd, rfl⟩
    · rw [state_setState_ne t _ hx]
      exact h.state x

/-- A link is taken back. -/
theorem setState_unbound (h : LinkedWithin T s t) (hc : s.state c = .unbound) :
    LinkedWithin T s (t.setState c .unbound) where
  acyclic := h.acyclic.setState_unbound c
  size_eq := (size_setState t c _).trans h.size_eq
  state := by
    intro x
    by_cases hx : x = c
    · rw [hx, state_setState_unbound, hc]
      exact .inl rfl
    · rw [state_setState_ne t _ hx]
      exact h.state x

theorem unify (h : LinkedWithin T s t) (hs : s.Acyclic) (hT : ∀ c ∈ T, s.IsEnd c) (ha : s.Has a)
    (hb : s.Has b) (haT : s.deref a ∈ T) (hbT : s.deref b ∈ T) :
    LinkedWithin T s (t.unify a b).2 := by
  have hacyclic := h.acyclic.unify (h.has.mpr ha) (h.has.mpr hb)
  have hleft := h.deref_mem hs hT haT
  have hright := h.deref_mem hs hT hbT
  have hleftHas := h.acyclic.has_deref (h.has.mpr ha)
  have hrightHas := h.acyclic.has_deref (h.has.mpr hb)
  have hcase := t.unify_case a b
  generalize t.unify a b = result at hcase hacyclic ⊢
  cases hcase with
  | same _ => exact h
  | equal _ _ => exact h
  | clash _ _ _ => exact h
  | linkLeft _ hl => exact h.link hleft hl hleftHas hright hacyclic
  | linkRight _ _ hr => exact h.link hright hr hrightHas hleft hacyclic

end LinkedWithin

/-- Solving and undoing equations between cells whose representatives are on a list of ends. -/
theorem Acyclic.linkInvariant (hs : s.Acyclic) (hT : ∀ c ∈ T, s.IsEnd c) :
    SearchInvariant (fun c => s.Has c ∧ s.deref c ∈ T) (LinkedWithin T s)
      fun made => made.previous = .unbound ∧ s.state made.cell = .unbound where
  unify := by
    rintro t a b ⟨ha, haT⟩ ⟨hb, hbT⟩ h
    exact h.unify hs hT ha hb haT hbT
  binding := by
    rintro t a b made - - h hmade
    obtain ⟨-, hunbound, hprevious⟩ := binding_of_unify hmade
    exact ⟨hprevious, h.unbound_of_unbound hunbound⟩
  revert := by
    rintro t ⟨cell, previous⟩ ⟨hprevious, hunbound⟩ h
    obtain rfl : previous = .unbound := hprevious
    exact h.setState_unbound hunbound

end Store

namespace Goal

variable {s : Store} {g : Goal} {c : Cell}

theorem mem_footprint (hc : c ∈ g.cells) : s.deref c ∈ g.footprint s := List.mem_map_of_mem hc

theorem isEnd_of_mem_footprint (hs : s.Acyclic) (hc : c ∈ g.footprint s) : s.IsEnd c := by
  obtain ⟨d, -, rfl⟩ := List.mem_map.mp hc
  exact hs.isEnd_deref d

/-- **A search changes nothing but its footprint**: unbound cells of it become aliases of other cells of
it. -/
theorem linkedWithin_run (hs : s.Acyclic) (hcells : ∀ c ∈ g.cells, s.Has c) :
    Store.LinkedWithin (g.footprint s) s (g.run s).store := by
  have h := hs.linkInvariant fun c hc => isEnd_of_mem_footprint (g := g) hs hc
  exact h.keeps_runThen g (fun c hc => ⟨hcells c hc, mem_footprint hc⟩) SearchInvariant.keeps_finish s
    (hs.linkedWithin_refl _)

end Goal

end GoalSearch
