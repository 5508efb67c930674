import GoalSearch.Proofs.Store.Lawful
import GoalSearch.Proofs.Store.Valuation

/-!
# What a store says

Of each pair of cells a store says whether they stand for the same, and of each cell for which symbol it
stands, if for any. That is all that a search can find out, and all that the valuations of a store
determine (`Acyclic.same_iff_forall_allows`, `Acyclic.value_eq_some_iff`). How the aliases run says no
more.

Two stores may be compared along a relation between their cells, which need not be the same ones
(`Agree`). An equation is solved in both stores or in neither, and leaves stores that agree again
(`Agree.unify`), since what it adds can be said without telling which of its sides was made an alias
(`Merges`).
-/

namespace GoalSearch

namespace Store

variable {s t s' t' : Store} {a b c d e x y : Cell} {v : Symbol}

/-- Two cells stand for the same: for one symbol, or for one variable. -/
def Same (s : Store) (a b : Cell) : Prop := s.resolve a = s.resolve b

/-! ## Representatives -/

theorem resolve_of_unbound (h : s.state (s.deref c) = .unbound) :
    s.resolve c = .unbound (s.deref c) := by
  rw [resolve, h]

theorem resolve_of_deref_bound (h : s.state (s.deref c) = .bound v) : s.resolve c = .bound v := by
  rw [resolve, h]

theorem value_eq_some_iff_resolve : s.value c = some v ↔ s.resolve c = .bound v := by
  unfold value
  cases s.resolve c with
  | unbound d => simp
  | bound w => simp

theorem value_of_unbound (h : s.state (s.deref c) = .unbound) : s.value c = none := by
  rw [value, resolve_of_unbound h]

theorem Same.value_eq (h : s.Same a b) : s.value a = s.value b := by
  unfold value
  rw [show s.resolve a = s.resolve b from h]

theorem resolve_of_value_none (h : s.value c = none) : s.resolve c = .unbound (s.deref c) := by
  cases hstate : s.state (s.deref c) with
  | unbound => exact resolve_of_unbound hstate
  | bound v =>
    rw [value, resolve_of_deref_bound hstate] at h
    cases h
  | aliasOf d => rw [resolve, hstate]

/-- Cells that stand for no symbol are the same variable exactly if they stand for the same. -/
theorem sameVariable_iff_same (ha : s.value a = none) (hb : s.value b = none) :
    s.sameVariable a b = true ↔ s.Same a b := by
  rw [Same, resolve_of_value_none ha, resolve_of_value_none hb, Resolved.unbound.injEq]
  exact decide_eq_true_iff

theorem same_of_deref_eq (h : s.deref a = s.deref b) : s.Same a b := by
  rw [Same, resolve, h, ← resolve]

/-- Cells whose representatives are bound to one symbol stand for the same. -/
theorem Acyclic.same_of_state_eq (hs : s.Acyclic) (hbound : s.state (s.deref a) ≠ .unbound)
    (h : s.state (s.deref a) = s.state (s.deref b)) : s.Same a b := by
  obtain hunbound | ⟨v, hv⟩ := (hs.isEnd_deref a).cases
  · exact absurd hunbound hbound
  · rw [Same, resolve_of_deref_bound hv, resolve_of_deref_bound (h ▸ hv)]

/-- A cell stands for an unbound variable exactly if that one represents it. -/
theorem resolve_eq_unbound_iff (hd : s.state d = .unbound) :
    s.resolve c = .unbound d ↔ s.deref c = d := by
  constructor
  · intro h
    rw [resolve] at h
    split at h
    · cases h
    · exact Resolved.unbound.inj h
  · rintro rfl
    exact resolve_of_unbound hd

/-- What cells stand for after an unbound variable was made an alias of another representative. -/
theorem Acyclic.resolve_link (hs : s.Acyclic) (hd : s.Has d) (hunbound : s.state d = .unbound)
    (hend : s.IsEnd e) (hne : d ≠ e) (x : Cell) :
    (s.link d e).2.resolve x = if s.resolve x = .unbound d then s.resolve e else s.resolve x := by
  have hstate : ∀ c, c ≠ d → (s.link d e).2.state c = s.state c :=
    fun c hc => state_setState_ne s _ hc
  have hderef : (s.link d e).2.deref x = if s.deref x = d then e else s.deref x :=
    ((hs.leads_deref x).setState_alias hd (isEnd_of_unbound hunbound) hend hne).deref_eq
  by_cases hx : s.deref x = d
  · rw [if_pos ((resolve_eq_unbound_iff hunbound).mpr hx)]
    rw [if_pos hx] at hderef
    rw [resolve, hderef, hstate e hne.symm, resolve, deref_of_isEnd hend]
  · rw [if_neg fun h => hx ((resolve_eq_unbound_iff hunbound).mp h)]
    rw [if_neg hx] at hderef
    rw [resolve, hderef, hstate _ hx, resolve]

/-! ## Equations -/

/-- A store says what another one does, and besides that two cells stand for the same. -/
structure Merges (s t : Store) (a b : Cell) : Prop where
  same_iff : ∀ {x y : Cell}, t.Same x y ↔
    s.Same x y ∨ (s.Same x a ∧ s.Same y b) ∨ (s.Same x b ∧ s.Same y a)
  value_iff : ∀ {x : Cell} {v : Symbol}, t.value x = some v ↔
    s.value x = some v ∨ (s.Same x a ∧ s.value b = some v) ∨ (s.Same x b ∧ s.value a = some v)

/-- The sides of an equation may be exchanged. -/
theorem Merges.symm (h : s.Merges t a b) : s.Merges t b a where
  same_iff := by
    intro x y
    rw [h.same_iff, or_comm (a := s.Same x a ∧ s.Same y b)]
  value_iff := by
    intro x v
    rw [h.value_iff, or_comm (a := s.Same x a ∧ s.value b = some v)]

/-- What is said already need not be added. -/
theorem Same.merges (h : s.Same a b) : s.Merges s a b where
  same_iff := by
    intro x y
    refine ⟨.inl, ?_⟩
    rintro (hxy | ⟨hx, hy⟩ | ⟨hx, hy⟩)
    · exact hxy
    · exact hx.trans (h.trans hy.symm)
    · exact hx.trans (h.symm.trans hy.symm)
  value_iff := by
    intro x v
    refine ⟨.inl, ?_⟩
    rintro (hx | ⟨hx, hb⟩ | ⟨hx, ha⟩)
    · exact hx
    · rw [Same.value_eq hx, h.value_eq, hb]
    · rw [Same.value_eq hx, ← h.value_eq, ha]

theorem Acyclic.merges_link (hs : s.Acyclic) (ha : s.Has a) (hunbound : s.state (s.deref a) = .unbound)
    (hne : s.deref a ≠ s.deref b) : s.Merges (s.link (s.deref a) (s.deref b)).2 a b := by
  have hresolve := hs.resolve_link (hs.has_deref ha) hunbound (hs.isEnd_deref b) hne
  have hb : s.resolve (s.deref b) = s.resolve b := by
    rw [resolve, deref_of_isEnd (hs.isEnd_deref b), ← resolve]
  rw [← resolve_of_unbound hunbound, hb] at hresolve
  refine ⟨?_, ?_⟩
  · intro x y
    unfold Same
    rw [hresolve x, hresolve y]
    split <;> split <;> rename_i hx hy
    · simp [hx, hy]
    · simp only [hx, true_and, Ne.symm hy, false_or, hy, and_false, or_false]
      exact eq_comm
    · simp only [hx, hy, and_true, false_and, false_or]
    · simp [hx, hy]
  · intro x v
    have hnone : s.value a ≠ some v := by
      rw [value_of_unbound hunbound]
      simp
    simp only [hnone, and_false, or_false]
    rw [value_eq_some_iff_resolve, hresolve x]
    split
    · next hx =>
      have hxnone : s.value x ≠ some v := by
        rw [Same.value_eq hx]
        exact hnone
      simp only [hxnone, false_or, Same, hx, true_and]
      exact value_eq_some_iff_resolve.symm
    · next hx => simp only [Same, hx, false_and, or_false, value_eq_some_iff_resolve]

/-- An equation that is solved adds that its sides stand for the same. -/
theorem Acyclic.merges_unify (hs : s.Acyclic) (ha : s.Has a) (hb : s.Has b)
    (h : (s.unify a b).1.isSuccess = true) : s.Merges (s.unify a b).2 a b := by
  have hcase := s.unify_case a b
  generalize s.unify a b = result at h hcase
  cases hcase with
  | same hlr => exact (same_of_deref_eq hlr).merges
  | linkLeft hne hl => exact hs.merges_link ha hl hne
  | linkRight hne _ hr => exact (hs.merges_link hb hr hne.symm).symm
  | equal hl hlr => exact (hs.same_of_state_eq hl hlr).merges
  | clash _ _ _ => cases h

/-- An equation is solved unless its sides stand for different symbols. -/
theorem Acyclic.unify_isSuccess_iff (hs : s.Acyclic) :
    (s.unify a b).1.isSuccess = true ↔ s.Same a b ∨ s.value a = none ∨ s.value b = none := by
  have hcase := s.unify_case a b
  generalize s.unify a b = result at hcase
  cases hcase with
  | same hlr => exact iff_of_true rfl (.inl (same_of_deref_eq hlr))
  | linkLeft _ hl => exact iff_of_true rfl (.inr (.inl (value_of_unbound hl)))
  | linkRight _ _ hr => exact iff_of_true rfl (.inr (.inr (value_of_unbound hr)))
  | equal hl hlr => exact iff_of_true rfl (.inl (hs.same_of_state_eq hl hlr))
  | clash hl hr hne =>
    obtain hunbound | ⟨v, hv⟩ := (hs.isEnd_deref a).cases
    · exact absurd hunbound hl
    obtain hunbound | ⟨w, hw⟩ := (hs.isEnd_deref b).cases
    · exact absurd hunbound hr
    have hvw : v ≠ w := by
      rintro rfl
      exact hne (hv.trans hw.symm)
    refine iff_of_false Bool.false_ne_true ?_
    simp [Same, value, resolve_of_deref_bound hv, resolve_of_deref_bound hw, hvw]

/-- An equation that is not solved changes nothing. -/
theorem unify_of_not_isSuccess (h : (s.unify a b).1.isSuccess = false) :
    s.unify a b = (.failed, s) := by
  have hcase := s.unify_case a b
  generalize s.unify a b = result at h hcase
  cases hcase with
  | same _ => cases h
  | linkLeft _ _ => cases h
  | linkRight _ _ _ => cases h
  | equal _ _ => cases h
  | clash _ _ _ => rfl

theorem Acyclic.unify (hs : s.Acyclic) (ha : s.Has a) (hb : s.Has b) :
    (s.unify a b).2.Acyclic := by
  by_cases h : (s.unify a b).1 = .failed
  · rw [unify_of_not_isSuccess (by rw [h]; rfl)]
    exact hs
  · exact (hs.unify_spec ha hb rfl h).1

/-- What comes of an equation, whichever of its sides was made an alias. -/
structure Solves (s : Store) (a b : Cell) (solved : Bool) (t : Store) : Prop where
  /-- It is solved unless its sides stand for different symbols. -/
  solved_iff : solved = true ↔ s.Same a b ∨ s.value a = none ∨ s.value b = none
  merges : solved = true → s.Merges t a b
  /-- If it is not solved, nothing changes. -/
  eq_of_failed : solved = false → t = s
  acyclic : t.Acyclic
  size_eq : t.size = s.size

theorem Acyclic.solves_unify (hs : s.Acyclic) (ha : s.Has a) (hb : s.Has b) :
    s.Solves a b (s.unify a b).1.isSuccess (s.unify a b).2 where
  solved_iff := hs.unify_isSuccess_iff
  merges := hs.merges_unify ha hb
  eq_of_failed := fun h => by rw [unify_of_not_isSuccess h]
  acyclic := hs.unify ha hb
  size_eq := size_unify s a b

/-- The sides of an equation may be exchanged. -/
theorem Solves.symm {solved : Bool} (h : s.Solves a b solved t) : s.Solves b a solved t where
  solved_iff := by
    have hsame : s.Same a b ↔ s.Same b a := eq_comm
    rw [h.solved_iff, hsame, or_comm (a := s.value a = none)]
  merges := fun hsolved => (h.merges hsolved).symm
  eq_of_failed := h.eq_of_failed
  acyclic := h.acyclic
  size_eq := h.size_eq

/-! ## Stores that agree -/

/-- Two stores say the same about cells that correspond to each other. -/
structure Agree (R : Cell → Cell → Prop) (s t : Store) : Prop where
  acyclic_left : s.Acyclic
  acyclic_right : t.Acyclic
  has_left : ∀ {c d : Cell}, R c d → s.Has c
  has_right : ∀ {c d : Cell}, R c d → t.Has d
  same_iff : ∀ {a b c d : Cell}, R a c → R b d → (s.Same a b ↔ t.Same c d)
  value_eq : ∀ {c d : Cell}, R c d → s.value c = t.value d

variable {R : Cell → Cell → Prop}

theorem Agree.symm (h : Agree R s t) : Agree (fun d c => R c d) t s where
  acyclic_left := h.acyclic_right
  acyclic_right := h.acyclic_left
  has_left := h.has_right
  has_right := h.has_left
  same_iff := fun hac hbd => (h.same_iff hac hbd).symm
  value_eq := fun hcd => (h.value_eq hcd).symm

theorem Agree.merges (h : Agree R s t) (hs : s.Merges s' a b) (ht : t.Merges t' c d)
    (hac : R a c) (hbd : R b d) :
    (∀ {x y z w : Cell}, R x z → R y w → (s'.Same x y ↔ t'.Same z w)) ∧
      ∀ {x z : Cell}, R x z → s'.value x = t'.value z := by
  constructor
  · intro x y z w hxz hyw
    rw [hs.same_iff, ht.same_iff, h.same_iff hxz hyw, h.same_iff hxz hac, h.same_iff hxz hbd,
      h.same_iff hyw hac, h.same_iff hyw hbd]
  · intro x z hxz
    ext v
    rw [hs.value_iff, ht.value_iff, h.value_eq hxz, h.value_eq hac, h.value_eq hbd,
      h.same_iff hxz hac, h.same_iff hxz hbd]

/-- **Corresponding equations** are both solved or both not, and leave stores that agree again. -/
theorem Agree.solve (h : Agree R s t) {solved solved' : Bool} (hs : s.Solves a b solved s')
    (ht : t.Solves c d solved' t') (hac : R a c) (hbd : R b d) :
    solved = solved' ∧ Agree R s' t' := by
  have hsolved : solved = solved' := by
    rw [Bool.eq_iff_iff, hs.solved_iff, ht.solved_iff, h.same_iff hac hbd, h.value_eq hac,
      h.value_eq hbd]
  refine ⟨hsolved, ?_⟩
  subst hsolved
  cases solved with
  | false =>
    rw [hs.eq_of_failed rfl, ht.eq_of_failed rfl]
    exact h
  | true =>
    obtain ⟨hsame, hvalue⟩ := h.merges (hs.merges rfl) (ht.merges rfl) hac hbd
    refine ⟨hs.acyclic, ht.acyclic, ?_, ?_, hsame, hvalue⟩
    · intro x z hxz
      show x.id < s'.size
      rw [hs.size_eq]
      exact h.has_left hxz
    · intro x z hxz
      show z.id < t'.size
      rw [ht.size_eq]
      exact h.has_right hxz

/-! ## What valuations tell -/

/-- There is a symbol besides any given one. -/
theorem exists_symbol_ne (v : Symbol) : ∃ w : Symbol, w ≠ v := by
  by_cases h : v = ⟨"a"⟩
  · refine ⟨⟨"b"⟩, ?_⟩
    rw [h]
    decide
  · exact ⟨⟨"a"⟩, Ne.symm h⟩

/-- A cell that stands for a symbol does so in every valuation. -/
theorem Allows.eq_of_value {ν : Valuation} (hν : s.Allows ν) (hs : s.Acyclic)
    (h : s.value c = some v) : ν c = v := by
  have hresolve := value_eq_some_iff_resolve.mp h
  rw [← hν.deref hs c]
  obtain hunbound | ⟨w, hw⟩ := (hs.isEnd_deref c).cases
  · rw [resolve_of_unbound hunbound] at hresolve
    cases hresolve
  · rw [resolve_of_deref_bound hw, Resolved.bound.injEq] at hresolve
    rw [hν.bound hw, hresolve]

/-- Cells that stand for the same do so in every valuation. -/
theorem Allows.eq_of_same {ν : Valuation} (hν : s.Allows ν) (hs : s.Acyclic) (h : s.Same a b) :
    ν a = ν b := by
  cases ha : s.value a with
  | some v => rw [hν.eq_of_value hs ha, hν.eq_of_value hs (h.value_eq.symm.trans ha)]
  | none =>
    have hb : s.value b = none := h.value_eq.symm.trans ha
    have hab : s.deref a = s.deref b :=
      Resolved.unbound.inj ((resolve_of_value_none ha).symm.trans (h.trans (resolve_of_value_none hb)))
    rw [← hν.deref hs a, ← hν.deref hs b, hab]

/-- A cell stands for a symbol exactly if it does in every valuation of the store. -/
theorem Acyclic.value_eq_some_iff (hs : s.Acyclic) :
    s.value c = some v ↔ ∀ ν, s.Allows ν → ν c = v := by
  refine ⟨fun h ν hν => hν.eq_of_value hs h, fun h => ?_⟩
  rw [value_eq_some_iff_resolve]
  obtain ⟨w, hw⟩ := exists_symbol_ne v
  have hfill := h _ (hs.allows_fill fun _ => w)
  unfold fill at hfill
  cases hc : s.resolve c with
  | bound u =>
    rw [hc] at hfill
    rw [show u = v from hfill]
  | unbound d =>
    rw [hc] at hfill
    exact absurd hfill hw

/-- Cells stand for the same exactly if they do in every valuation of the store. -/
theorem Acyclic.same_iff_forall_allows (hs : s.Acyclic) :
    s.Same a b ↔ ∀ ν, s.Allows ν → ν a = ν b := by
  refine ⟨fun h ν hν => hν.eq_of_same hs h, fun h => ?_⟩
  -- One valuation tells a variable from a symbol, and another one tells two variables apart.
  have hbound : ∀ {x y : Cell} {u : Symbol}, (∀ ν, s.Allows ν → ν x = ν y) →
      s.resolve x = .bound u → s.resolve y = .bound u := by
    intro x y u hxy hx
    rw [← value_eq_some_iff_resolve, hs.value_eq_some_iff] at hx ⊢
    intro ν hν
    rw [← hxy ν hν, hx ν hν]
  unfold Same
  cases ha : s.resolve a with
  | bound u => rw [hbound h ha]
  | unbound d =>
    cases hb : s.resolve b with
    | bound u =>
      rw [hbound (fun ν hν => (h ν hν).symm) hb] at ha
      cases ha
    | unbound e =>
      have hfill := h _ (hs.allows_fill fun x => if x = d then ⟨"a"⟩ else ⟨"b"⟩)
      simp only [fill, ha, hb, if_true] at hfill
      split at hfill
      · next hde => rw [hde]
      · simp at hfill

/-- The cell that an alias of the store points to is a cell of the store. -/
theorem Acyclic.has_of_alias (hs : s.Acyclic) (h : s.state c = .aliasOf d) : s.Has d := by
  by_cases hd : s.IsEnd d
  · have hc : s.Has c := has_of_ne_unbound (by simp [h])
    have hhas := hs.has_deref hc
    rwa [hs.deref_of_alias h, deref_of_isEnd hd] at hhas
  · exact has_of_not_isEnd hd

section SameValuations

variable (hs : s.Acyclic) (ht : t.Acyclic) (h : ∀ ν, s.Allows ν ↔ t.Allows ν)

include hs ht h

/-- In stores with the same valuations a cell stands for the same symbol, if for any. -/
theorem value_eq_of_allows_iff (c : Cell) : s.value c = t.value c := by
  ext v
  simp only [hs.value_eq_some_iff, ht.value_eq_some_iff, h]

theorem same_iff_of_allows_iff : s.Same a b ↔ t.Same a b := by
  simp only [hs.same_iff_forall_allows, ht.same_iff_forall_allows, h]

/-- The unbound variables are the same as well. -/
theorem sameVariable_eq_of_allows_iff (ha : s.isUnbound a = true) (hb : s.isUnbound b = true) :
    s.sameVariable a b = t.sameVariable a b := by
  have hvalue := value_eq_of_allows_iff hs ht h
  have ha : s.value a = none := by simpa [isUnbound] using ha
  have hb : s.value b = none := by simpa [isUnbound] using hb
  rw [Bool.eq_iff_iff, sameVariable_iff_same ha hb,
    sameVariable_iff_same (hvalue a ▸ ha) (hvalue b ▸ hb), same_iff_of_allows_iff hs ht h]

end SameValuations

/-- Stores with the same valuations agree on all cells. -/
theorem agree_of_allows_iff (hs : s.Acyclic) (ht : t.Acyclic) (hsize : t.size = s.size)
    (h : ∀ ν, s.Allows ν ↔ t.Allows ν) : Agree (fun c d => c = d ∧ s.Has c) s t where
  acyclic_left := hs
  acyclic_right := ht
  has_left := fun hcd => hcd.2
  has_right := by
    rintro c _ ⟨rfl, hc⟩
    show c.id < t.size
    rw [hsize]
    exact hc
  same_iff := by
    rintro a b _ _ ⟨rfl, -⟩ ⟨rfl, -⟩
    exact same_iff_of_allows_iff hs ht h
  value_eq := by
    rintro c _ ⟨rfl, -⟩
    exact value_eq_of_allows_iff hs ht h c

/-- Stores that agree on all cells have the same valuations. -/
theorem Agree.allows_of_allows (h : Agree R s t) (hrefl : ∀ c, t.Has c → R c c) {ν : Valuation}
    (hν : s.Allows ν) : t.Allows ν where
  bound := by
    intro c v hc
    have hhas : t.Has c := has_of_ne_unbound (by simp [hc])
    refine hν.eq_of_value h.acyclic_left ?_
    rw [h.value_eq (hrefl c hhas), value_eq_some_iff_resolve]
    exact resolve_of_bound hc
  link := by
    intro c d hc
    have hhas : t.Has c := has_of_ne_unbound (by simp [hc])
    have hd := h.acyclic_right.has_of_alias hc
    refine hν.eq_of_same h.acyclic_left ((h.same_iff (hrefl c hhas) (hrefl d hd)).mpr ?_)
    exact resolve_of_alias h.acyclic_right hc

/-- Stores that agree on all cells have the same valuations, in either direction. -/
theorem Agree.allows_iff {n : Nat} (h : Agree (fun c d => c = d ∧ c.id < n) s t) (hs : s.size = n)
    (ht : t.size = n) (ν : Valuation) : s.Allows ν ↔ t.Allows ν := by
  constructor
  · refine h.allows_of_allows fun c hc => ⟨rfl, ?_⟩
    rw [← ht]
    exact hc
  · refine h.symm.allows_of_allows fun c hc => ⟨rfl, ?_⟩
    rw [← hs]
    exact hc

end Store

end GoalSearch
