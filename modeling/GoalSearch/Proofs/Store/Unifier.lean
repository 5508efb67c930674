import GoalSearch.Proofs.Store.Content

/-!
# Equations are solved in the most general way

Solving an equation takes away just those valuations in which it does not hold, and it writes no more
than that needs (`Acyclic.unify_most_general`):

* it fails if it holds in none of the valuations of the store, and then nothing is written;
* it makes no binding if it holds in all of them, and then nothing is written either;
* otherwise one unbound cell becomes an alias, which the binding reports and its reverting takes back.

The cells may stand anywhere on chains that other cells share. What tells the cases apart is whether the
two cells stand for the same already (`Acyclic.binding?_unify_eq_none_iff`).
-/

namespace GoalSearch

namespace Store

variable {s t : Store} {a b c d : Cell} {outcome : Unification} {made : Binding}

/-! ## When an equation is solved -/

/-- An equation fails exactly if it holds in no valuation. -/
theorem Acyclic.unify_failed_iff (hs : s.Acyclic) (ha : s.Has a) (hb : s.Has b)
    (h : s.unify a b = (outcome, t)) : outcome = .failed ↔ ∀ ν, s.Allows ν → ν a ≠ ν b := by
  constructor
  · rintro rfl ν hν
    exact hs.ne_of_unify_failed h hν
  · intro hnone
    by_contra hsolved
    obtain ⟨hacyclic, -, hiff⟩ := hs.unify_spec ha hb h hsolved
    obtain ⟨hν, heq⟩ := (hiff _).mp (hacyclic.allows_fill fun _ => ⟨""⟩)
    exact hnone _ hν heq

/-- An unbound representative tells the cells that it represents from all others. -/
theorem not_same_of_unbound (ha : s.state (s.deref a) = .unbound) (hne : s.deref b ≠ s.deref a) :
    ¬s.Same b a := by
  intro hsame
  rw [Same, resolve_of_unbound ha, resolve_eq_unbound_iff ha] at hsame
  exact hne hsame

/-- An equation that is solved makes no binding exactly if its sides stand for the same already. -/
theorem Acyclic.binding?_unify_eq_none_iff (hs : s.Acyclic) (h : s.unify a b = (outcome, t))
    (hsolved : outcome ≠ .failed) : outcome.binding? = none ↔ s.Same a b := by
  have hcase := s.unify_case a b
  rw [h] at hcase
  cases hcase with
  | same hlr => exact iff_of_true rfl (same_of_deref_eq hlr)
  | linkLeft hne hl =>
    exact iff_of_false (by simp [Unification.binding?])
      fun hsame => not_same_of_unbound hl hne.symm hsame.symm
  | linkRight hne _ hr =>
    exact iff_of_false (by simp [Unification.binding?]) (not_same_of_unbound hr hne)
  | equal hl hlr => exact iff_of_true rfl (hs.same_of_state_eq hl hlr)
  | clash _ _ _ => exact absurd rfl hsolved

/-! ## What is written -/

/-- A binding tells what has been written between two stores: one cell, which was unbound. -/
structure Reports (made : Binding) (s t : Store) : Prop where
  changed_iff : ∀ {c : Cell}, t.state c ≠ s.state c ↔ c = made.cell
  unbound : s.state made.cell = .unbound
  revert_eq : t.revert made = s

theorem reports_link (hc : s.Has c) (hunbound : s.state c = .unbound) :
    Reports ⟨c, s.state c⟩ s (s.link c d).2 where
  changed_iff := by
    intro x
    constructor
    · intro hchanged
      by_contra hne
      exact hchanged (state_setState_ne s _ hne)
    · rintro rfl
      rw [link, state_setState_self s x _ hc, hunbound]
      simp
  unbound := hunbound
  revert_eq := setState_setState_state s c _

/-- The binding of an equation reports the write. -/
theorem Acyclic.reports_unify (hs : s.Acyclic) (ha : s.Has a) (hb : s.Has b)
    (h : s.unify a b = (outcome, t)) (hmade : outcome.binding? = some made) : Reports made s t := by
  have hcase := s.unify_case a b
  rw [h] at hcase
  cases hcase with
  | same _ => cases hmade
  | linkLeft _ hl =>
    cases hmade
    exact reports_link (hs.has_deref ha) hl
  | linkRight _ _ hr =>
    cases hmade
    exact reports_link (hs.has_deref hb) hr
  | equal _ _ => cases hmade
  | clash _ _ _ => cases hmade

/-- Without a binding nothing is written. -/
theorem eq_of_binding?_unify_eq_none (h : s.unify a b = (outcome, t))
    (hmade : outcome.binding? = none) : t = s := by
  have hcase := s.unify_case a b
  rw [h] at hcase
  cases hcase with
  | same _ => rfl
  | linkLeft _ _ => cases hmade
  | linkRight _ _ _ => cases hmade
  | equal _ _ => rfl
  | clash _ _ _ => rfl

/-- **Solving an equation is most general.** It fails if it holds in no valuation of the store. Otherwise
it leaves exactly the valuations in which it holds, and it writes nothing if these are all. -/
theorem Acyclic.unify_most_general (hs : s.Acyclic) (ha : s.Has a) (hb : s.Has b)
    (h : s.unify a b = (outcome, t)) :
    (outcome = .failed ↔ ∀ ν, s.Allows ν → ν a ≠ ν b) ∧
    (outcome = .failed → t = s) ∧
    (outcome ≠ .failed →
      t.Acyclic ∧ (∀ ν, t.Allows ν ↔ s.Allows ν ∧ ν a = ν b) ∧
      (outcome.binding? = none ↔ ∀ ν, s.Allows ν → ν a = ν b) ∧
      (outcome.binding? = none → t = s) ∧
      ∀ made, outcome.binding? = some made → Reports made s t) := by
  refine ⟨hs.unify_failed_iff ha hb h, ?_, fun hsolved => ?_⟩
  · rintro rfl
    exact eq_of_binding?_unify_eq_none h rfl
  · obtain ⟨hacyclic, -, hiff⟩ := hs.unify_spec ha hb h hsolved
    refine ⟨hacyclic, hiff, ?_, eq_of_binding?_unify_eq_none h, fun made hmade => ?_⟩
    · rw [hs.binding?_unify_eq_none_iff h hsolved, hs.same_iff_forall_allows]
    · exact hs.reports_unify ha hb h hmade

/-- `X` and `Z` are aliases of `Y`, and `V` is an alias of a constant. The equation between `X` and `V`
writes to `Y`, and `Z` stands for the constant as well from then on. -/
theorem unify_most_general_shared :
    let s : Store := ⟨#[⟨some "X", .aliasOf ⟨1⟩⟩, ⟨some "Y", .unbound⟩, ⟨some "Z", .aliasOf ⟨1⟩⟩,
      ⟨none, .bound ⟨"a"⟩⟩, ⟨some "V", .aliasOf ⟨3⟩⟩]⟩
    let t := (s.unify ⟨0⟩ ⟨4⟩).2
    s.Acyclic ∧ t.Acyclic ∧ (∀ ν, t.Allows ν ↔ s.Allows ν ∧ ν ⟨0⟩ = ν ⟨4⟩) ∧
      (∃ made, (s.unify ⟨0⟩ ⟨4⟩).1.binding? = some made ∧ made.cell = ⟨1⟩ ∧ Reports made s t) ∧
      t.value ⟨2⟩ = some ⟨"a"⟩ := by
  intro s t
  have hs : s.Acyclic := by decide
  obtain ⟨-, -, hsolved⟩ := hs.unify_most_general (a := ⟨0⟩) (b := ⟨4⟩) (show 0 < 5 by decide)
    (show 4 < 5 by decide) rfl
  obtain ⟨ht, hiff, -, -, hreports⟩ := hsolved (by decide)
  exact ⟨hs, ht, hiff, ⟨_, rfl, rfl, hreports _ rfl⟩, by decide⟩

end Store

end GoalSearch
