import GoalSearch.Proofs.Store.Alias
import GoalSearch.Store.Unify
import Mathlib.Logic.Function.Basic

/-!
# Valuations

What a store says about its variables, apart from how its aliases run: it allows some assignments of
symbols to cells and excludes the others. A store without cycles allows at least one, whatever the
unbound representatives are to stand for (`Acyclic.allows_fill`), and solving an equation allows
exactly those among them in which the equation holds (`Acyclic.unify_spec`).
-/

namespace GoalSearch

abbrev Valuation := Cell → Symbol

namespace Store

/-- A valuation agrees with what each cell holds. -/
structure Allows (s : Store) (ν : Valuation) : Prop where
  /-- A bound cell stands for its symbol. -/
  bound : ∀ {c : Cell} {v : Symbol}, s.state c = .bound v → ν c = v
  /-- An alias stands for what its target stands for. -/
  link : ∀ {c d : Cell}, s.state c = .aliasOf d → ν c = ν d

variable {s t : Store} {a b c d e : Cell} {ν : Valuation}

theorem Allows.leads (h : s.Allows ν) (hc : s.Leads c e) : ν c = ν e := by
  induction hc with
  | here _ => rfl
  | link hc _ ih => rw [h.link hc, ih]

theorem Allows.deref (h : s.Allows ν) (hs : s.Acyclic) (c : Cell) : ν (s.deref c) = ν c :=
  (h.leads (hs.leads_deref c)).symm

/-! ## Growing stores -/

/-- Two valuations agree on the cells of a store. -/
def SameOn (s : Store) (ν μ : Valuation) : Prop := ∀ c, s.Has c → μ c = ν c

theorem SameOn.refl (s : Store) (ν : Valuation) : s.SameOn ν ν := fun _ _ => rfl

theorem SameOn.trans {μ κ : Valuation} (h : s.SameOn ν μ) (h' : t.SameOn μ κ)
    (hle : s.size ≤ t.size) : s.SameOn ν κ := by
  intro c hc
  have hct : t.Has c := Nat.lt_of_lt_of_le hc hle
  rw [h' c hct, h c hc]

/-- Without aliases only the cells of the store count. -/
theorem Allows.congr {μ : Valuation} (h : s.Allows ν) (hends : ∀ c, s.IsEnd c)
    (heq : s.SameOn ν μ) : s.Allows μ where
  bound := by
    intro c v hc
    have hhas : s.Has c := has_of_ne_unbound (by simp [hc])
    rw [heq c hhas]
    exact h.bound hc
  link := fun {c d} hc => absurd hc (hends c d)

theorem sameOn_update (s : Store) (ν : Valuation) (name : Option String) (state : CellState)
    (v : Symbol) : s.SameOn ν (Function.update ν (s.create name state).1 v) := by
  intro c hc
  refine Function.update_of_ne ?_ v ν
  rintro rfl
  exact Nat.lt_irrefl _ hc

/-- A new cell stands for a symbol that it may stand for. -/
theorem Allows.create (h : s.Allows ν) (hends : ∀ c, s.IsEnd c) (name : Option String)
    {state : CellState} {v : Symbol} (hstate : state = .unbound ∨ state = .bound v) :
    (s.create name state).2.Allows (Function.update ν (s.create name state).1 v) where
  bound := by
    intro c v' hc
    by_cases hnew : c = (s.create name state).1
    · rw [hnew, state_create_self] at hc
      rcases hstate with hunbound | hbound
      · rw [hunbound] at hc
        cases hc
      · rw [hbound, CellState.bound.injEq] at hc
        rw [hnew, Function.update_self, hc]
    · rw [state_create_ne s name state hnew] at hc
      rw [Function.update_of_ne hnew]
      exact h.bound hc
  link := by
    intro c d hc
    by_cases hnew : c = (s.create name state).1
    · rw [hnew, state_create_self] at hc
      rcases hstate with hunbound | hbound
      · rw [hunbound] at hc
        cases hc
      · rw [hbound] at hc
        cases hc
    · rw [state_create_ne s name state hnew] at hc
      exact absurd hc (hends c d)

/-! ## A valuation for each store -/

/-- The valuation in which the unbound representatives stand for given symbols. -/
def fill (s : Store) (free : Valuation) : Valuation := fun c =>
  match s.resolve c with
  | .bound v => v
  | .unbound d => free d

theorem resolve_of_alias (hs : s.Acyclic) (h : s.state c = .aliasOf d) :
    s.resolve c = s.resolve d := by
  unfold resolve
  rw [hs.deref_of_alias h]

theorem resolve_of_bound {v : Symbol} (h : s.state c = .bound v) : s.resolve c = .bound v := by
  unfold resolve
  rw [deref_of_isEnd (isEnd_of_bound h), h]

/-- A store without cycles has a valuation, whatever its unbound representatives stand for. -/
theorem Acyclic.allows_fill (hs : s.Acyclic) (free : Valuation) : s.Allows (s.fill free) where
  bound := by
    intro c v h
    unfold fill
    rw [resolve_of_bound h]
  link := by
    intro c d h
    unfold fill
    rw [resolve_of_alias hs h]

/-! ## Equations -/

/-- Making an unbound cell an alias adds an equation. -/
theorem allows_setState_alias_iff (hhas : s.Has c) (hc : s.state c = .unbound) :
    (s.setState c (.aliasOf d)).Allows ν ↔ s.Allows ν ∧ ν c = ν d := by
  have hself : (s.setState c (.aliasOf d)).state c = .aliasOf d :=
    state_setState_self s c _ hhas
  have hother : ∀ x, x ≠ c → (s.setState c (.aliasOf d)).state x = s.state x :=
    fun x hx => state_setState_ne s _ hx
  constructor
  · intro h
    refine ⟨⟨?_, ?_⟩, h.link hself⟩
    · intro x v hx
      have hne : x ≠ c := by
        rintro rfl
        rw [hc] at hx
        cases hx
      exact h.bound (by rw [hother x hne, hx])
    · intro x y hx
      have hne : x ≠ c := by
        rintro rfl
        rw [hc] at hx
        cases hx
      exact h.link (by rw [hother x hne, hx])
  · rintro ⟨h, heq⟩
    refine ⟨?_, ?_⟩
    · intro x v hx
      by_cases hne : x = c
      · rw [hne, hself] at hx
        cases hx
      · rw [hother x hne] at hx
        exact h.bound hx
    · intro x y hx
      by_cases hne : x = c
      · rw [hne, hself, CellState.aliasOf.injEq] at hx
        rw [hne, ← hx]
        exact heq
      · rw [hother x hne] at hx
        exact h.link hx

/-- An equation that cannot be solved holds in no valuation. -/
theorem Acyclic.ne_of_unify_failed (hs : s.Acyclic) (h : s.unify a b = (.failed, t))
    (hν : s.Allows ν) : ν a ≠ ν b := by
  have hcase := s.unify_case a b
  rw [h] at hcase
  cases hcase with
  | clash hl hr hne =>
    obtain hl' | ⟨v, hv⟩ := (hs.isEnd_deref a).cases
    · exact absurd hl' hl
    obtain hr' | ⟨w, hw⟩ := (hs.isEnd_deref b).cases
    · exact absurd hr' hr
    rw [← hν.deref hs a, ← hν.deref hs b, hν.bound hv, hν.bound hw]
    rintro rfl
    exact hne (hv.trans hw.symm)

/-- Making an unbound representative an alias of another one leaves the valuations in which the two
stand for the same. -/
theorem Acyclic.link_spec (hs : s.Acyclic) (hc : s.Has c) (hunbound : s.state c = .unbound)
    (hd : s.Has d) (hend : s.IsEnd d) (hne : c ≠ d) :
    (s.link c d).2.Acyclic ∧ (s.link c d).2.size = s.size ∧
      ∀ ν, (s.link c d).2.Allows ν ↔ s.Allows ν ∧ ν c = ν d :=
  ⟨hs.setState_alias hc (isEnd_of_unbound hunbound) hd hend hne, size_setState s c _,
    fun _ => allows_setState_alias_iff hc hunbound⟩

/-- **Solving an equation** leaves the valuations in which it holds, and makes no cycle. -/
theorem Acyclic.unify_spec (hs : s.Acyclic) (ha : s.Has a) (hb : s.Has b) {u : Unification}
    (h : s.unify a b = (u, t)) (hu : u ≠ .failed) :
    t.Acyclic ∧ t.size = s.size ∧ ∀ ν, t.Allows ν ↔ s.Allows ν ∧ ν a = ν b := by
  have hcase := s.unify_case a b
  have heq : ∀ ν, s.Allows ν → (ν a = ν b ↔ ν (s.deref a) = ν (s.deref b)) := by
    intro ν hν
    rw [hν.deref hs, hν.deref hs]
  have hunchanged : (∀ ν, s.Allows ν → ν a = ν b) → (Unification.unchanged, s) = (u, t) →
      t.Acyclic ∧ t.size = s.size ∧ ∀ ν, t.Allows ν ↔ s.Allows ν ∧ ν a = ν b := by
    intro hall hsame
    rw [← (Prod.mk.inj hsame).2]
    exact ⟨hs, rfl, fun ν => ⟨fun hν => ⟨hν, hall ν hν⟩, fun hν => hν.1⟩⟩
  generalize hres : s.unify a b = result at hcase h
  cases hcase with
  | same hlr =>
    refine hunchanged (fun ν hν => ?_) h
    rw [heq ν hν, hlr]
  | equal hl hst =>
    refine hunchanged (fun ν hν => ?_) h
    obtain hl' | ⟨v, hv⟩ := (hs.isEnd_deref a).cases
    · exact absurd hl' hl
    rw [heq ν hν, hν.bound hv, hν.bound (hst ▸ hv)]
  | linkLeft hne hl =>
    obtain ⟨hacyclic, hsize, hiff⟩ :=
      hs.link_spec (hs.has_deref ha) hl (hs.has_deref hb) (hs.isEnd_deref b) hne
    rw [h] at hacyclic hsize hiff
    refine ⟨hacyclic, hsize, fun ν => (hiff ν).trans (and_congr_right fun hν => ?_)⟩
    exact (heq ν hν).symm
  | linkRight hne hl hr =>
    obtain ⟨hacyclic, hsize, hiff⟩ :=
      hs.link_spec (hs.has_deref hb) hr (hs.has_deref ha) (hs.isEnd_deref a) hne.symm
    rw [h] at hacyclic hsize hiff
    refine ⟨hacyclic, hsize, fun ν => (hiff ν).trans (and_congr_right fun hν => ?_)⟩
    rw [heq ν hν]
    exact eq_comm
  | clash _ _ _ => exact absurd (Prod.mk.inj h).1.symm hu

end Store

end GoalSearch
