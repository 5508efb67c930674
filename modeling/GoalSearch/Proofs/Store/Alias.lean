import GoalSearch.Store
import Mathlib.Data.Fintype.Card
import Mathlib.Data.Nat.Find

/-!
# Chains of aliases

Where following the aliases of a store leads, said without a bound on the number of links, and why
the bound that `Store.deref` has is enough:

    s.Acyclic → s.Leads c (s.deref c)                                       (leads_deref)

A chain that ends visits each cell at most once, so it has no more links than the store has cells.
-/

namespace GoalSearch

namespace Store

def Has (s : Store) (c : Cell) : Prop := c.id < s.size

/-- A cell that is no alias. -/
def IsEnd (s : Store) (c : Cell) : Prop := ∀ d, s.state c ≠ .aliasOf d

instance (s : Store) (c : Cell) : Decidable (s.IsEnd c) :=
  match h : s.state c with
  | .aliasOf d => isFalse fun hend => hend d h
  | .unbound => isTrue fun d hd => by simp [h] at hd
  | .bound _ => isTrue fun d hd => by simp [h] at hd

/-- Following aliases from a cell ends at a cell. -/
inductive Leads (s : Store) : Cell → Cell → Prop where
  | here {c : Cell} (h : s.IsEnd c) : Leads s c c
  | link {c d e : Cell} (h : s.state c = .aliasOf d) (hd : Leads s d e) : Leads s c e

/-- Following aliases from any cell of the store ends, at a cell of the store. -/
def Acyclic (s : Store) : Prop := ∀ c, s.Has c → ∃ e, s.Has e ∧ s.Leads c e

variable {s : Store} {c d e : Cell}

/-! ## Ends of chains -/

theorem has_congr {t : Store} (h : t.size = s.size) : t.Has c ↔ s.Has c := by
  unfold Has
  rw [h]

theorem has_create (s : Store) (name : Option String) (state : CellState) :
    (s.create name state).2.Has (s.create name state).1 := by
  show s.size < (s.create name state).2.size
  rw [size_create]
  omega

theorem state_of_not_has (h : ¬s.Has c) : s.state c = .unbound := by
  have hslot : s.slots[c.id]? = none := Array.getElem?_eq_none (Nat.le_of_not_lt h)
  simp [state, hslot]

theorem has_of_ne_unbound (h : s.state c ≠ .unbound) : s.Has c := by
  by_contra hc
  exact h (state_of_not_has hc)

theorem isEnd_of_unbound (h : s.state c = .unbound) : s.IsEnd c := by
  intro d hd
  rw [h] at hd
  cases hd

theorem isEnd_of_bound {v : Symbol} (h : s.state c = .bound v) : s.IsEnd c := by
  intro d hd
  rw [h] at hd
  cases hd

theorem acyclic_of_isEnd (h : ∀ c, s.IsEnd c) : s.Acyclic :=
  fun c hc => ⟨c, hc, .here (h c)⟩

/-- A cell at the end of a chain holds nothing or a symbol. -/
theorem IsEnd.cases (h : s.IsEnd c) :
    s.state c = .unbound ∨ ∃ v, s.state c = .bound v := by
  cases hc : s.state c with
  | unbound => exact .inl rfl
  | bound v => exact .inr ⟨v, rfl⟩
  | aliasOf d => exact absurd hc (h d)

theorem Leads.isEnd (h : s.Leads c e) : s.IsEnd e := by
  induction h with
  | here h => exact h
  | link _ _ ih => exact ih

theorem Leads.unique (h : s.Leads c d) (h' : s.Leads c e) : d = e := by
  induction h with
  | here h =>
    cases h' with
    | here _ => rfl
    | link hc _ => exact absurd hc (h _)
  | link hc _ ih =>
    cases h' with
    | here h => exact absurd hc (h _)
    | link hc' hd =>
      rw [hc, CellState.aliasOf.injEq] at hc'
      rw [← hc'] at hd
      exact ih hd

/-! ## Following a number of links -/

theorem derefWithin_of_isEnd (h : s.IsEnd c) (n : Nat) : s.derefWithin n c = c := by
  cases n with
  | zero => rfl
  | succ n =>
    rw [derefWithin]
    split
    · next d hd => exact absurd hd (h d)
    · rfl

theorem derefWithin_of_alias (h : s.state c = .aliasOf d) (n : Nat) :
    s.derefWithin (n + 1) c = s.derefWithin n d := by
  rw [derefWithin, h]

theorem derefWithin_add (m n : Nat) (c : Cell) :
    s.derefWithin (m + n) c = s.derefWithin n (s.derefWithin m c) := by
  induction m generalizing c with
  | zero => rw [Nat.zero_add, derefWithin]
  | succ m ih =>
    rw [Nat.add_right_comm]
    by_cases h : s.IsEnd c
    · rw [derefWithin_of_isEnd h, derefWithin_of_isEnd h, derefWithin_of_isEnd h]
    · obtain ⟨d, hd⟩ := not_forall_not.mp h
      rw [derefWithin_of_alias hd, derefWithin_of_alias hd, ih]

theorem Leads.exists_derefWithin (h : s.Leads c e) : ∃ n, s.derefWithin n c = e := by
  induction h with
  | here _ => exact ⟨0, rfl⟩
  | link hc _ ih =>
    obtain ⟨n, hn⟩ := ih
    exact ⟨n + 1, by rw [derefWithin_of_alias hc, hn]⟩

theorem leads_derefWithin {n : Nat} (h : s.IsEnd (s.derefWithin n c)) :
    s.Leads c (s.derefWithin n c) := by
  induction n generalizing c with
  | zero => exact .here h
  | succ n ih =>
    by_cases hc : s.IsEnd c
    · rw [derefWithin_of_isEnd hc]
      exact .here hc
    · obtain ⟨d, hd⟩ := not_forall_not.mp hc
      rw [derefWithin_of_alias hd] at h ⊢
      exact .link hd (ih h)

/-! ## The bound -/

/-- A cell of a chain that does not end in fewer links is a cell of the store, since all others
hold nothing. -/
theorem has_of_not_isEnd (h : ¬s.IsEnd c) : s.Has c := by
  refine has_of_ne_unbound fun hunbound => h ?_
  exact isEnd_of_unbound hunbound

/-- **A chain that ends has no more links than the store has cells.** -/
theorem Leads.exists_le_size (h : s.Leads c e) : ∃ n ≤ s.size, s.derefWithin n c = e := by
  obtain ⟨k, hk⟩ := h.exists_derefWithin
  have hex : ∃ n, s.IsEnd (s.derefWithin n c) := ⟨k, by rw [hk]; exact h.isEnd⟩
  have hend := Nat.find_spec hex
  refine ⟨Nat.find hex, ?_, (leads_derefWithin hend).unique h⟩
  have hbefore : ∀ i < Nat.find hex, ¬s.IsEnd (s.derefWithin i c) := fun i => Nat.find_min hex
  -- two equal cells on the way would make the chain end earlier by the links between them
  have hinj : ∀ i j, i < j → j < Nat.find hex → s.derefWithin i c ≠ s.derefWithin j c := by
    intro i j hij hj heq
    refine hbefore (i + (Nat.find hex - j)) (by omega) ?_
    rw [derefWithin_add, heq, ← derefWithin_add, Nat.add_sub_cancel' (Nat.le_of_lt hj)]
    exact hend
  let visit : Fin (Nat.find hex) → Fin s.size := fun i =>
    ⟨(s.derefWithin i c).id, has_of_not_isEnd (hbefore i i.isLt)⟩
  have hvisit : Function.Injective visit := by
    intro i j hij
    have heq : s.derefWithin i c = s.derefWithin j c :=
      congrArg Cell.mk (Fin.mk.inj hij)
    by_contra hne
    rcases Nat.lt_or_gt_of_ne (Fin.val_ne_of_ne hne) with hlt | hlt
    · exact hinj i j hlt j.isLt heq
    · exact hinj j i hlt i.isLt heq.symm
  simpa using Fintype.card_le_of_injective visit hvisit

theorem Leads.deref_eq (h : s.Leads c e) : s.deref c = e := by
  obtain ⟨n, hn, heq⟩ := h.exists_le_size
  have hadd := derefWithin_add (s := s) n (s.size - n) c
  rw [Nat.add_sub_cancel' hn, heq, derefWithin_of_isEnd h.isEnd] at hadd
  exact hadd

/-- The representative of a cell is where its aliases lead. -/
theorem Acyclic.leads_deref (h : s.Acyclic) (c : Cell) : s.Leads c (s.deref c) := by
  by_cases hc : s.Has c
  · obtain ⟨e, -, he⟩ := h c hc
    rw [he.deref_eq]
    exact he
  · have hend := isEnd_of_unbound (state_of_not_has hc)
    rw [(Leads.here hend).deref_eq]
    exact .here hend

theorem Acyclic.isEnd_deref (h : s.Acyclic) (c : Cell) : s.IsEnd (s.deref c) :=
  (h.leads_deref c).isEnd

theorem Acyclic.has_deref (h : s.Acyclic) (hc : s.Has c) : s.Has (s.deref c) := by
  obtain ⟨e, hhas, he⟩ := h c hc
  rw [he.deref_eq]
  exact hhas

theorem Acyclic.deref_of_alias (h : s.Acyclic) (hc : s.state c = .aliasOf d) :
    s.deref c = s.deref d :=
  (Leads.link hc (h.leads_deref d)).deref_eq

theorem deref_of_isEnd (h : s.IsEnd c) : s.deref c = c := (Leads.here h).deref_eq

instance (s : Store) (c : Cell) : Decidable (s.Has c) := Nat.decLt c.id s.size

theorem mem_cells : c ∈ s.cells ↔ s.Has c := by
  simp only [cells, List.mem_map, List.mem_range]
  constructor
  · rintro ⟨n, hn, rfl⟩
    exact hn
  · intro hc
    exact ⟨c.id, hc, rfl⟩

/-- Whether a store has no cycle can be seen by following the bounded number of links from each cell. -/
theorem acyclic_iff : s.Acyclic ↔ ∀ c ∈ s.cells, s.Has (s.deref c) ∧ s.IsEnd (s.deref c) := by
  constructor
  · intro h c hc
    exact ⟨h.has_deref (mem_cells.mp hc), h.isEnd_deref c⟩
  · intro h c hc
    obtain ⟨hhas, hend⟩ := h c (mem_cells.mpr hc)
    exact ⟨s.deref c, hhas, leads_derefWithin hend⟩

instance (s : Store) : Decidable s.Acyclic := decidable_of_iff _ acyclic_iff.symm

/-! ## Linking the end of a chain -/

theorem has_setState (c : Cell) (state : CellState) : (s.setState c state).Has d ↔ s.Has d :=
  has_congr (size_setState s c state)

/-- Where chains lead after an end was made an alias of another one. -/
theorem Leads.setState_alias {r t : Cell} (hhas : s.Has r) (hr : s.IsEnd r) (ht : s.IsEnd t)
    (hne : r ≠ t) (h : s.Leads c e) :
    (s.setState r (.aliasOf t)).Leads c (if e = r then t else e) := by
  have hself : (s.setState r (.aliasOf t)).state r = .aliasOf t :=
    state_setState_self s r _ hhas
  have hother : ∀ x, x ≠ r → (s.setState r (.aliasOf t)).state x = s.state x :=
    fun x hx => state_setState_ne s _ hx
  have hend : ∀ x, x ≠ r → s.IsEnd x → (s.setState r (.aliasOf t)).IsEnd x := by
    intro x hx hxend d
    rw [hother x hx]
    exact hxend d
  induction h with
  | @here x hx =>
    split
    · next heq =>
      rw [heq]
      exact .link hself (.here (hend t hne.symm ht))
    · next hxr => exact .here (hend x hxr hx)
  | @link x y z hx _ ih =>
    have hxr : x ≠ r := by
      rintro rfl
      exact hr y hx
    exact .link (by rw [hother x hxr, hx]) ih

/-- Linking two ends makes no cycle. -/
theorem Acyclic.setState_alias {r t : Cell} (h : s.Acyclic) (hhas : s.Has r) (hr : s.IsEnd r)
    (hthas : s.Has t) (ht : s.IsEnd t) (hne : r ≠ t) :
    (s.setState r (.aliasOf t)).Acyclic := by
  intro c hc
  rw [has_setState] at hc
  obtain ⟨e, he, hleads⟩ := h c hc
  refine ⟨if e = r then t else e, ?_, hleads.setState_alias hhas hr ht hne⟩
  rw [has_setState]
  split
  · exact hthas
  · exact he

end Store

end GoalSearch
