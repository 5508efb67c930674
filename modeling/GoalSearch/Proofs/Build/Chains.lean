import GoalSearch.Proofs.Build.Growth

/-!
# Chains of scopes

Scopes may nest in any way in which they can be opened: each of them stands in nothing or right inside an
older one (`Scopes.Nested`). A name that gets a meaning in a scope is then seen from there and from the
scopes inside, and a build gives meanings in a scope only to variables that nothing around it means:

    n ≤ w.scopes.scopes.size → w.scopes.Has root →
      Preserves (fun u => w.scopes.Extends n u.scopes) (goal (applyRule root limit left) i e) (extends_goal)

So a lookup from one of the first `n` scopes, those that were there, has the same result ever after, unless
it was a lookup of a variable without a meaning. The frame of an application is not among these scopes, and
its parameters may hide names of the scopes around it.
-/

namespace GoalSearch

namespace Scopes

variable {ss ss' ss'' : Scopes} {i j k root : ScopeId} {name : String} {m : Meaning}

/-! ## Lookups -/

theorem lookup_of_outermost (h : ss.enclosing i = []) (name : String) :
    ss.lookup i name = (ss.names i).find? name := by
  unfold lookup chain
  rw [h, List.findSome?_cons, List.findSome?_nil]
  cases (ss.names i).find? name <;> rfl

theorem lookup_of_inside (h : ss.enclosing i = ss.chain j) (name : String) :
    ss.lookup i name = ((ss.names i).find? name).or (ss.lookup j name) := by
  unfold lookup
  rw [chain, h, List.findSome?_cons]
  cases (ss.names i).find? name <;> rfl

theorem lookup_of_find? (h : (ss.names i).find? name = some m) : ss.lookup i name = some m := by
  unfold lookup
  rw [chain, List.findSome?_cons, h]

theorem lookup_congr (henclosing : ss'.enclosing i = ss.enclosing i)
    (hnames : ∀ k ∈ ss.chain i, ss'.names k = ss.names k) (name : String) :
    ss'.lookup i name = ss.lookup i name := by
  have hchain : ss'.chain i = ss.chain i := congrArg (i :: ·) henclosing
  unfold lookup
  rw [hchain]
  generalize ss.chain i = scopes at hnames
  induction scopes with
  | nil => rfl
  | cons k later ih =>
    rw [List.findSome?_cons, List.findSome?_cons, hnames k List.mem_cons_self,
      ih fun k hk => hnames k (List.mem_cons_of_mem _ hk)]

theorem Has.enclosing_openChild (h : ss.Has i) (root : ScopeId) :
    (ss.openChild root).2.enclosing i = ss.enclosing i := by
  rw [Scopes.enclosing_openChild]
  refine if_neg fun hi => ss.not_has_openChild root ?_
  rw [← hi]
  exact h

/-! ## Nesting -/

/-- Every scope stands in nothing, or right inside an older one. -/
def Nested (ss : Scopes) : Prop :=
  ∀ i, ss.enclosing i = [] ∨ ∃ parent : ScopeId, parent.id < i.id ∧ ss.enclosing i = ss.chain parent

theorem nested_empty : empty.Nested := fun _ => .inl rfl

theorem Nested.of_enclosing_eq (h : ss.Nested) (heq : ∀ i, ss'.enclosing i = ss.enclosing i) :
    ss'.Nested := by
  intro i
  simp only [chain, heq]
  exact h i

theorem Nested.bind (h : ss.Nested) (i : ScopeId) (name : String) (m : Meaning) :
    (ss.bind i name m).Nested :=
  h.of_enclosing_eq fun j => enclosing_bind ss i j name m

theorem Nested.openRoot (h : ss.Nested) (names : NameTable Meaning) :
    (ss.openRoot names).2.Nested := by
  refine h.of_enclosing_eq fun i => ?_
  by_cases hi : i.id = ss.scopes.size
  · simp [enclosing, Scopes.openRoot, hi]
  · simp [enclosing, Scopes.openRoot, Array.getElem?_push, hi]

theorem Nested.openChild (h : ss.Nested) (hroot : ss.Has root) : (ss.openChild root).2.Nested := by
  -- No scope stands in the new one, so that the chains of the others stay what they are.
  have hchain : ∀ {j}, ss.Has j → (ss.openChild root).2.chain j = ss.chain j :=
    fun {j} hj => congrArg (j :: ·) (hj.enclosing_openChild root)
  intro i
  rw [enclosing_openChild]
  split
  · next hi =>
    refine .inr ⟨root, ?_, (hchain hroot).symm⟩
    rw [hi]
    exact hroot
  · obtain henclosing | ⟨parent, hlt, henclosing⟩ := h i
    · exact .inl henclosing
    · by_cases hi : ss.Has i
      · refine .inr ⟨parent, hlt, ?_⟩
        rw [henclosing, hchain (Nat.lt_trans hlt hi)]
      · refine .inl ?_
        simp [enclosing, Array.getElem?_eq_none (Nat.le_of_not_lt hi)]

/-- Scopes are reached from the outermost ones, inwards. -/
theorem Nested.induction {motive : ScopeId → Prop} (h : ss.Nested)
    (outermost : ∀ i, ss.enclosing i = [] → motive i)
    (inside : ∀ i parent, parent.id < i.id → ss.enclosing i = ss.chain parent → motive parent →
      motive i) (i : ScopeId) : motive i := by
  induction hn : i.id using Nat.strongRecOn generalizing i with
  | ind n ih =>
    obtain henclosing | ⟨parent, hlt, henclosing⟩ := h i
    · exact outermost i henclosing
    · exact inside i parent hlt henclosing (ih parent.id (hn ▸ hlt) parent rfl)

theorem Nested.lt_of_mem_enclosing (h : ss.Nested) (hk : k ∈ ss.enclosing i) : k.id < i.id := by
  induction i using h.induction with
  | outermost i henclosing =>
    rw [henclosing] at hk
    cases hk
  | inside i parent hlt henclosing ih =>
    rw [henclosing] at hk
    obtain rfl | hk := List.mem_cons.mp hk
    · exact hlt
    · exact Nat.lt_trans (ih hk) hlt

theorem Nested.le_of_mem_chain (h : ss.Nested) (hk : k ∈ ss.chain i) : k.id ≤ i.id := by
  obtain rfl | hk := List.mem_cons.mp hk
  · exact Nat.le_refl _
  · exact Nat.le_of_lt (h.lt_of_mem_enclosing hk)

/-- A name that gets a meaning in a scope where it had none has a new meaning nowhere else than where it had
none either. -/
theorem Nested.lookup_bind (h : ss.Nested) (hl : ss.lookup i name = none) (m : Meaning) (j : ScopeId)
    (other : String) :
    (ss.bind i name m).lookup j other = ss.lookup j other ∨
      ss.lookup j other = none ∧ other = name := by
  by_cases hsame : j = i ∧ other = name
  · obtain ⟨rfl, rfl⟩ := hsame
    exact .inr ⟨hl, rfl⟩
  have hnames : ∀ {j}, ¬(j = i ∧ other = name) →
      ((ss.bind i name m).names j).find? other = (ss.names j).find? other := by
    intro j hne
    by_cases hj : j = i
    · by_cases hi : ss.Has i
      · rw [find?_bind hi, if_neg hne]
      · have hnone : ∀ {ss : Scopes}, ¬ss.Has i → (ss.names i).find? other = none := by
          intro ss hi
          cases hm : (ss.names i).find? other with
          | none => rfl
          | some m => exact absurd (has_of_find? hm) hi
        rw [hj, hnone hi, hnone fun hbind => hi (has_bind.mp hbind)]
    · rw [names_bind_ne ss name m hj]
  induction j using h.induction with
  | outermost j henclosing =>
    rw [lookup_of_outermost henclosing, lookup_of_outermost ((enclosing_bind ..).trans henclosing)]
    exact .inl (hnames hsame)
  | inside j parent _ henclosing ih =>
    have henclosing' : (ss.bind i name m).enclosing j = (ss.bind i name m).chain parent := by
      rw [enclosing_bind, henclosing, chain, chain, enclosing_bind]
    rw [lookup_of_inside henclosing, lookup_of_inside henclosing', hnames hsame]
    cases (ss.names j).find? other with
    | some m' => exact .inl rfl
    | none =>
      simp only [Option.none_or]
      by_cases hparent : parent = i ∧ other = name
      · obtain ⟨rfl, rfl⟩ := hparent
        exact .inr ⟨hl, rfl⟩
      · exact ih hparent

/-! ## Further names -/

/-- Scopes after further ones were opened, and after variables got meanings in them that they did not have
there, as seen from the first `n` scopes. -/
structure Extends (n : Nat) (ss ss' : Scopes) : Prop where
  nested : ss'.Nested
  size_le : ss.scopes.size ≤ ss'.scopes.size
  enclosing_eq : ∀ {i : ScopeId}, i.id < n → ss'.enclosing i = ss.enclosing i
  lookup_cases : ∀ {i : ScopeId}, i.id < n → ∀ name,
    ss'.lookup i name = ss.lookup i name ∨ ss.lookup i name = none ∧ isVariableName name = true

section Extends

variable {n : Nat}

theorem Nested.extends_refl (h : ss.Nested) (n : Nat) : ss.Extends n ss :=
  ⟨h, Nat.le_refl _, fun _ => rfl, fun _ _ => .inl rfl⟩

theorem Extends.trans (h : ss.Extends n ss') (h' : ss'.Extends n ss'') : ss.Extends n ss'' where
  nested := h'.nested
  size_le := h.size_le.trans h'.size_le
  enclosing_eq := by
    intro i hi
    rw [h'.enclosing_eq hi, h.enclosing_eq hi]
  lookup_cases := by
    intro i hi name
    obtain heq | hnew := h.lookup_cases hi name
    · rw [← heq]
      exact h'.lookup_cases hi name
    · exact .inr hnew

theorem Extends.lookup_eq_some (h : ss.Extends n ss') (hi : i.id < n)
    (hl : ss.lookup i name = some m) : ss'.lookup i name = some m := by
  obtain heq | ⟨hnone, -⟩ := h.lookup_cases hi name
  · rw [heq, hl]
  · rw [hl] at hnone
    cases hnone

theorem Extends.lookup_eq_none (h : ss.Extends n ss') (hi : i.id < n)
    (hl : ss'.lookup i name = none) : ss.lookup i name = none := by
  obtain heq | ⟨hnone, -⟩ := h.lookup_cases hi name
  · rw [← heq, hl]
  · exact hnone

/-- A variable gets a meaning in a scope where it had none. -/
theorem Nested.extends_bind (h : ss.Nested) (hl : ss.lookup i name = none)
    (hvar : isVariableName name = true) (m : Meaning) (n : Nat) :
    ss.Extends n (ss.bind i name m) where
  nested := h.bind i name m
  size_le := by simp [Scopes.bind]
  enclosing_eq := fun {j} _ => enclosing_bind ss i j name m
  lookup_cases := by
    intro j _ other
    obtain heq | ⟨hnone, rfl⟩ := h.lookup_bind hl m j other
    · exact .inl heq
    · exact .inr ⟨hnone, hvar⟩

theorem Nested.extends_openChild (h : ss.Nested) (hroot : ss.Has root) (hn : n ≤ ss.scopes.size) :
    ss.Extends n (ss.openChild root).2 where
  nested := h.openChild hroot
  size_le := by simp [Scopes.openChild]
  enclosing_eq := fun hi => Has.enclosing_openChild (Nat.lt_of_lt_of_le hi hn) root
  lookup_cases := fun hi name =>
    .inl (lookup_congr (Has.enclosing_openChild (Nat.lt_of_lt_of_le hi hn) root)
      (fun k _ => names_openChild ss root k) name)

/-- What is written to a later scope is not seen from the first ones. -/
theorem Extends.bind_later (h : ss.Extends n ss') (hj : n ≤ j.id) (name : String) (m : Meaning) :
    ss.Extends n (ss'.bind j name m) where
  nested := h.nested.bind j name m
  size_le := by simpa [Scopes.bind] using h.size_le
  enclosing_eq := by
    intro i hi
    rw [enclosing_bind, h.enclosing_eq hi]
  lookup_cases := by
    intro i hi other
    have hsame : (ss'.bind j name m).lookup i other = ss'.lookup i other := by
      refine lookup_congr (enclosing_bind ..) (fun k hk => names_bind_ne ss' name m ?_) other
      rintro rfl
      exact absurd (h.nested.le_of_mem_chain hk) (Nat.not_le.mpr (Nat.lt_of_lt_of_le hi hj))
    rw [hsame]
    exact h.lookup_cases hi other

end Extends

end Scopes

namespace Build

variable {w : Workspace} {root : ScopeId} {n : Nat}

theorem extends_term (n : Nat) (w : Workspace) (i : ScopeId) (x : Expr) :
    Preserves (fun u => w.scopes.Extends n u.scopes) (term i x) := by
  refine preserves_term (fun _ _ h => h) ?_
  intro u name _ hl hvar hu
  exact hu.trans (hu.nested.extends_bind hl hvar (.cell (u.store.createNamed name).1) n)

theorem extends_bindArguments {f : ScopeId} (hf : n ≤ f.id) (w : Workspace) (i : ScopeId)
    (params : List String) (args : List Expr) :
    Preserves (fun u => w.scopes.Extends n u.scopes) (bindArguments f i params args) := by
  refine preserves_bindArguments (fun x _ => extends_term n w i x) ?_
  intro param _ x v c u _ _ hu
  exact hu.bind_later hf param (.cell c)

theorem extends_applyRule (hn : n ≤ w.scopes.scopes.size) (hroot : w.scopes.Has root)
    (limit left : Nat) (name : String) (args : List Expr) (i : ScopeId) :
    Preserves (fun u => w.scopes.Extends n u.scopes) (applyRule root limit left name args i) := by
  induction left generalizing name args i with
  | zero =>
    rw [applyRule]
    exact (preserves_rule i name args.length).bind fun _ => preserves_throw _
  | succ left ih =>
    rw [applyRule]
    refine (preserves_rule i name args.length).bind fun r => ?_
    intro u hu
    -- The frame comes after the scopes of `u`, so that it comes after the first scopes of `w`.
    have hle : n ≤ u.scopes.scopes.size := hn.trans hu.size_le
    have hopen := hu.nested.extends_openChild (Nat.lt_of_lt_of_le hroot hu.size_le) hle
    have hargs := extends_bindArguments (f := (u.scopes.openChild root).1) hle w i r.params args
    have hbody := preserves_goal (extends_term n w (u.scopes.openChild root).1)
      (fun name args => ih name args (u.scopes.openChild root).1) r.body
    exact (hargs.bind fun _ => hbody) _ (hu.trans hopen)

/-- **Building extends scopes**, whichever scope it is done in. -/
theorem extends_goal (hn : n ≤ w.scopes.scopes.size) (hroot : w.scopes.Has root) (limit left : Nat)
    (i : ScopeId) (e : Expr) :
    Preserves (fun u => w.scopes.Extends n u.scopes) (goal (applyRule root limit left) i e) :=
  preserves_goal (extends_term n w i)
    (fun name args => extends_applyRule hn hroot limit left name args i) e

end Build

end GoalSearch
