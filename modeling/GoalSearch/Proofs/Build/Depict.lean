import GoalSearch.Proofs.Build.Follow
import GoalSearch.Proofs.Search.Agreement

/-!
# Outlines tell how searches go

A goal that has been built depicts its outline (`Depicts`), and what the outline says is all that the
search depends on:

    Depicts base s labels g T → Depicts base' s' labels' g' T' → T.Alike Q T' →
      (g.run s).Matches (Corresponds base base' labels labels' Q) (g'.run s')    (Depicts.matches_run)

The tokens of the two outlines may differ, as long as what corresponds to one token is one token
(`Faithful`). Cells correspond if their tokens do. Two cells of one constant are different cells but
stand for the same symbol, so that the stores agree all the same.
-/

namespace GoalSearch

open Store

/-! ## Outlines that are alike -/

/-- Two outlines are the same but for their tokens, which correspond to each other. -/
inductive Outline.Alike (Q : Token → Token → Prop) : Outline → Outline → Prop where
  | print {t u : Token} (h : Q t u) : Alike Q (.print t) (.print u)
  | unify {t t' u u' : Token} (hl : Q t u) (hr : Q t' u') : Alike Q (.unify t t') (.unify u u')
  | or {ts us : List Outline} (h : List.Forall₂ (Alike Q) ts us) : Alike Q (.or ts) (.or us)
  | and {ts us : List Outline} (h : List.Forall₂ (Alike Q) ts us) : Alike Q (.and ts) (.and us)

/-- Corresponding tokens stand for the same symbol, if for any, and what corresponds to one token is one
token, in both directions. -/
structure Faithful (Q : Token → Token → Prop) : Prop where
  eq_iff : ∀ {t t' u u'}, Q t u → Q t' u' → (t = t' ↔ u = u')
  state_eq : ∀ {t u}, Q t u → t.slot.state = u.slot.state

theorem faithful_eq : Faithful Eq where
  eq_iff := by
    rintro t t' _ _ rfl rfl
    rfl
  state_eq := by
    rintro t _ rfl
    rfl

mutual

theorem Outline.alike_refl : ∀ T : Outline, T.Alike Eq T
  | .print _ => .print rfl
  | .unify _ _ => .unify rfl rfl
  | .or ts => .or (forall₂_alike_refl ts)
  | .and ts => .and (forall₂_alike_refl ts)

theorem Outline.forall₂_alike_refl : ∀ ts : List Outline, List.Forall₂ (Outline.Alike Eq) ts ts
  | [] => .nil
  | T :: ts => .cons (Outline.alike_refl T) (forall₂_alike_refl ts)

end

mutual

theorem Outline.Alike.mono {Q Q' : Token → Token → Prop} (himp : ∀ {t u}, Q t u → Q' t u) :
    ∀ (T : Outline) {T' : Outline}, T.Alike Q T' → T.Alike Q' T'
  | .print _, _, h => by
    cases h with
    | print h => exact .print (himp h)
  | .unify _ _, _, h => by
    cases h with
    | unify hl hr => exact .unify (himp hl) (himp hr)
  | .or ts, _, h => by
    cases h with
    | or h => exact .or (Outline.forall₂_alike_mono himp ts h)
  | .and ts, _, h => by
    cases h with
    | and h => exact .and (Outline.forall₂_alike_mono himp ts h)

theorem Outline.forall₂_alike_mono {Q Q' : Token → Token → Prop} (himp : ∀ {t u}, Q t u → Q' t u) :
    ∀ (ts : List Outline) {us : List Outline}, List.Forall₂ (Outline.Alike Q) ts us →
      List.Forall₂ (Outline.Alike Q') ts us
  | [], _, h => by
    cases h
    exact .nil
  | T :: ts, _, h => by
    cases h with
    | cons h hlater =>
      exact .cons (Outline.Alike.mono himp T h) (Outline.forall₂_alike_mono himp ts hlater)

end

section Goals

variable {P P' : Cell → Token → Prop} {Q : Token → Token → Prop}

/-- Cells correspond if their tokens do. -/
def Through (P : Cell → Token → Prop) (Q : Token → Token → Prop) (P' : Cell → Token → Prop)
    (c c' : Cell) : Prop :=
  ∃ t t', P c t ∧ Q t t' ∧ P' c' t'

mutual

theorem Outline.Alike.goals : ∀ (T : Outline) {T' : Outline} {g g' : Goal}, T.Alike Q T' →
    g.Outlined P T → g'.Outlined P' T' → g.Alike (Through P Q P') g'
  | .print _, _, _, _, h, hg, hg' => by
    cases h with
    | print h =>
      cases hg with
      | print hc =>
        cases hg' with
        | print hc' => exact .print ⟨_, _, hc, h, hc'⟩
  | .unify _ _, _, _, _, h, hg, hg' => by
    cases h with
    | unify hl hr =>
      cases hg with
      | unify ha hb =>
        cases hg' with
        | unify ha' hb' => exact .unify ⟨_, _, ha, hl, ha'⟩ ⟨_, _, hb, hr, hb'⟩
  | .or ts, _, _, _, h, hg, hg' => by
    cases h with
    | or h =>
      cases hg with
      | or hgs =>
        cases hg' with
        | or hgs' => exact .or (Outline.forall₂_alike_goals ts h hgs hgs')
  | .and ts, _, _, _, h, hg, hg' => by
    cases h with
    | and h =>
      cases hg with
      | and hgs =>
        cases hg' with
        | and hgs' => exact .and (Outline.forall₂_alike_goals ts h hgs hgs')

theorem Outline.forall₂_alike_goals : ∀ (ts : List Outline) {us : List Outline}
    {gs gs' : List Goal}, List.Forall₂ (Outline.Alike Q) ts us →
    List.Forall₂ (Goal.Outlined P) gs ts → List.Forall₂ (Goal.Outlined P') gs' us →
    List.Forall₂ (Goal.Alike (Through P Q P')) gs gs'
  | [], _, _, _, h, hgs, hgs' => by
    cases h
    cases hgs
    cases hgs'
    exact .nil
  | T :: ts, _, _, _, h, hgs, hgs' => by
    cases h with
    | cons h hlater =>
      cases hgs with
      | cons hg hgs =>
        cases hgs' with
        | cons hg' hgs' =>
          exact .cons (Outline.Alike.goals T h hg hg')
            (Outline.forall₂_alike_goals ts hlater hgs hgs')

end

end Goals

/-! ## Goals that depict outlines -/

/-- A goal over the cells that a build has added to a store depicts an outline. -/
structure Depicts (base s : Store) (labels : List Token) (g : Goal) (T : Outline) : Prop where
  acyclic : s.Acyclic
  slots_eq : s.slots = base.slots ++ (labels.map Token.slot).toArray
  unique : ∀ {c d n x}, Stands base labels c (.var n x) →
    Stands base labels d (.var n x) → c = d
  outlined : g.Outlined (Stands base labels) T

section Depicts

variable {base base' s s' : Store} {labels labels' : List Token} {g g' : Goal} {T T' : Outline}
  {c d : Cell} {t u : Token}

theorem Depicts.getElem?_slots (h : Depicts base s labels g T) (hc : Stands base labels c t) :
    s.slots[c.id]? = some t.slot := by
  obtain ⟨k, rfl, hk⟩ := hc
  show s.slots[base.slots.size + k]? = some t.slot
  rw [h.slots_eq, Array.getElem?_append_right (Nat.le_add_right base.slots.size k)]
  simp [hk]

theorem Depicts.has (h : Depicts base s labels g T) (hc : Stands base labels c t) : s.Has c := by
  obtain ⟨hlt, -⟩ := Array.getElem?_eq_some_iff.mp (h.getElem?_slots hc)
  exact hlt

theorem Depicts.state_eq (h : Depicts base s labels g T) (hc : Stands base labels c t) :
    s.state c = t.slot.state := by
  rw [Store.state, h.getElem?_slots hc]

/-- A cell that was created by the build is its own representative. -/
theorem Depicts.deref_eq (h : Depicts base s labels g T) (hc : Stands base labels c t) :
    s.deref c = c := by
  refine deref_of_isEnd fun d => ?_
  rw [h.state_eq hc]
  cases t <;> simp [Token.slot]

theorem Depicts.value_eq (h : Depicts base s labels g T) (hc : Stands base labels c t) :
    s.value c = match t.slot.state with
      | .bound v => some v
      | _ => none := by
  rw [value, resolve, h.deref_eq hc, h.state_eq hc]
  cases t <;> rfl

/-- Cells stand for the same exactly if they were created for the same. -/
theorem Depicts.same_iff (h : Depicts base s labels g T) (hc : Stands base labels c t)
    (hd : Stands base labels d u) : s.Same c d ↔ t = u := by
  rw [Same, resolve, resolve, h.deref_eq hc, h.deref_eq hd, h.state_eq hc, h.state_eq hd]
  cases t with
  | constant x =>
    cases u with
    | constant y => simp [Token.slot]
    | var k y => simp [Token.slot]
  | var n x =>
    cases u with
    | constant y => simp [Token.slot]
    | var k y =>
      simp only [Token.slot, Resolved.unbound.injEq]
      constructor
      · rintro rfl
        exact hc.unique hd
      · intro htu
        rw [htu] at hc
        exact h.unique hc hd

variable {Q : Token → Token → Prop}

/-- Stores in which builds have created cells for corresponding tokens agree about these cells. -/
theorem Depicts.agree (h : Depicts base s labels g T) (h' : Depicts base' s' labels' g' T')
    (hQ : Faithful Q) : Agree (Through (Stands base labels) Q (Stands base' labels')) s s' where
  acyclic_left := h.acyclic
  acyclic_right := h'.acyclic
  has_left := by
    rintro c d ⟨t, u, hc, -, -⟩
    exact h.has hc
  has_right := by
    rintro c d ⟨t, u, -, -, hd⟩
    exact h'.has hd
  same_iff := by
    rintro a b c d ⟨t, u, ha, htu, hc⟩ ⟨t', u', hb, htu', hd⟩
    rw [h.same_iff ha hb, h'.same_iff hc hd, hQ.eq_iff htu htu']
  value_eq := by
    rintro c d ⟨t, u, hc, htu, hd⟩
    rw [h.value_eq hc, h'.value_eq hd, hQ.state_eq htu]

/-- **Searches for goals with outlines that are alike match.** -/
theorem Depicts.matches_run (h : Depicts base s labels g T) (h' : Depicts base' s' labels' g' T')
    (hQ : Faithful Q) (halike : T.Alike Q T') :
    (g.run s).Matches (Through (Stands base labels) Q (Stands base' labels')) (g'.run s') :=
  (halike.goals T h.outlined h'.outlined).correspond_run (h.agree h' hQ)

end Depicts

/-! ## Queries -/

/-- A workspace for queries: its scopes are rooted, and its store has no cycle of aliases. -/
structure Workspace.Ready (root : ScopeId) (rules : NameTable Rule) (w : Workspace) : Prop
    extends Workspace.Rooted root rules w where
  acyclic : w.store.Acyclic

namespace Build

open Workspace

variable {root : ScopeId} {rules : NameTable Rule} {base : Workspace}

/-- The scope of a query, before the query has any names. -/
theorem drawn_query (hbase : base.Rooted root rules) :
    Drawn root rules base .query [] ⟨[], 1⟩
      { base with scopes := (base.scopes.openChild root).2 } := by
  have hnone : ∀ {x : String} {m : Meaning},
      ((base.scopes.openChild root).2.names (frameScope base 0)).find? x ≠ some m := by
    intro x m hm
    rw [Scopes.names_openChild] at hm
    exact base.scopes.not_has_openChild root (Scopes.has_of_find? hm)
  refine ⟨⟨hbase.openChild, hbase.has_root, ?_, ?_, ?_, ?_⟩, Nat.zero_lt_one, ?_, ?_, ?_⟩
  · simp
  · simp [Scopes.openChild]
  · simp
  · rintro c d n x ⟨k, -, hk⟩
    simp at hk
  · intro x
    refine iff_of_false (by simp) ?_
    rintro ⟨m, hm⟩
    exact hnone hm
  · intro x c hc
    exact absurd hc hnone
  · intro x hvar _
    simp [Frame.token, Frame.query, hvar]

/-- **The outline of a goal tells what its build comes to.** -/
theorem buildGoal_cases (hbase : base.Ready root rules) (hrules : rules.WellFormed) (limit : Nat)
    (e : Expr) :
    let w₀ : Workspace := { base with scopes := (base.scopes.openChild root).2 }
    (∃ g w T labels, buildGoal root limit (base.scopes.openChild root).1 e w₀ = .ok g w ∧
      outline rules.find? limit e = .ok T ∧ Depicts base.store w.store labels g T) ∨
    ∃ err w, buildGoal root limit (base.scopes.openChild root).1 e w₀ = .error err w ∧
      outline rules.find? limit e = .error err := by
  intro w₀
  have hfollows := follows_goal hrules limit limit (drawn_query hbase.toRooted) e
  obtain ⟨g, T, w, d, hbuild, hsketch, labels, -, hdrawn, hT⟩ | ⟨err, w, hbuild, hsketch⟩ :=
    hfollows.cases
  · have hacyclic : w.store.Acyclic :=
      (created_goal (fun s name state hstate hs => hs.create name hstate) root limit limit
        (frameScope base 0) e).of_ok hbuild hbase.acyclic
    refine .inl ⟨g, w, T, labels, hbuild, ?_, hacyclic, hdrawn.slots_eq, hdrawn.unique, hT⟩
    show (Except.map Prod.fst (Sketch.goal _ _ _ _ _)) = _
    rw [hsketch]
    rfl
  · refine .inr ⟨err, w, hbuild, ?_⟩
    show (Except.map Prod.fst (Sketch.goal _ _ _ _ _)) = _
    rw [hsketch]
    rfl

end Build

end GoalSearch
