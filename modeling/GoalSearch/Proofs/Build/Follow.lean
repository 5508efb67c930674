import GoalSearch.Proofs.Build.Labels

/-!
# Builds follow outlines

A build of a goal comes to the same as the sketch of its outline, whatever cells and scopes it finds. Both
fail with the same error, or the goal has the shape of the outline, with cells that were created for the
outline's tokens:

    Follows (Onward root rules base f labels Goal.Outlined)
      (goal (applyRule root limit left) (frameScope base f.number) e)
      (Sketch.goal rules.find? (Sketch.applyRule rules.find? limit left) f e) w d      (follows_goal)

Only the frame at work is told apart in `Drawn`. That it is as before when an application is done follows
from what a build leaves alone (`grows_goal`).
-/

namespace GoalSearch

/-- A goal has the shape of an outline, and its cells correspond to the outline's tokens. -/
inductive Goal.Outlined (P : Cell → Token → Prop) : Goal → Outline → Prop where
  | print {c : Cell} {t : Token} (h : P c t) : Outlined P (.print c) (.print t)
  | unify {a b : Cell} {t u : Token} (hl : P a t) (hr : P b u) : Outlined P (.unify a b) (.unify t u)
  | or {gs : List Goal} {ts : List Outline} (h : List.Forall₂ (Outlined P) gs ts) :
      Outlined P (.or gs) (.or ts)
  | and {gs : List Goal} {ts : List Outline} (h : List.Forall₂ (Outlined P) gs ts) :
      Outlined P (.and gs) (.and ts)

namespace Goal

variable {P Q : Cell → Token → Prop}

mutual

theorem Outlined.mono (himp : ∀ {c t}, P c t → Q c t) :
    ∀ (T : Outline) {g : Goal}, g.Outlined P T → g.Outlined Q T
  | .print t, _, h => by
    cases h with
    | print h => exact .print (himp h)
  | .unify t u, _, h => by
    cases h with
    | unify hl hr => exact .unify (himp hl) (himp hr)
  | .or ts, _, h => by
    cases h with
    | or h => exact .or (forall₂_outlined_mono himp ts h)
  | .and ts, _, h => by
    cases h with
    | and h => exact .and (forall₂_outlined_mono himp ts h)

theorem forall₂_outlined_mono (himp : ∀ {c t}, P c t → Q c t) :
    ∀ (ts : List Outline) {gs : List Goal}, List.Forall₂ (Outlined P) gs ts →
      List.Forall₂ (Outlined Q) gs ts
  | [], _, h => by
    cases h
    exact .nil
  | T :: ts, _, h => by
    cases h with
    | cons h hlater =>
      exact .cons (Outlined.mono himp T h) (forall₂_outlined_mono himp ts hlater)

end

end Goal

namespace Build

open Workspace

/-! ## Two computations -/

section Follows

variable {α β γ δ : Type} {w : Workspace} {d : Draft}

/-- A step of building and a step of sketching come to the same: they fail with the same error, or have
results that belong together. -/
def Follows (Q : α → β → Workspace → Draft → Prop) (m : Build α) (k : Sketch β) (w : Workspace)
    (d : Draft) : Prop :=
  match m w, k d with
  | .ok a w', .ok (b, d') => Q a b w' d'
  | .error e _, .error e' => e = e'
  | _, _ => False

variable {Q : α → β → Workspace → Draft → Prop} {Q' : γ → δ → Workspace → Draft → Prop}
  {m : Build α} {k : Sketch β}

theorem follows_ok {a : α} {b : β} {u : Workspace} {v : Draft} (hm : m w = .ok a u)
    (hk : k d = .ok (b, v)) (hQ : Q a b u v) : Follows Q m k w d := by
  unfold Follows
  rw [hm, hk]
  exact hQ

theorem follows_error {e : BuildError} {u : Workspace} (hm : m w = .error e u)
    (hk : k d = .error e) : Follows Q m k w d := by
  unfold Follows
  rw [hm, hk]

theorem follows_throw (Q : α → β → Workspace → Draft → Prop) (e : BuildError) (w : Workspace)
    (d : Draft) : Follows Q (throw e) (throw e) w d :=
  follows_error (u := w) rfl rfl

/-- How two steps come to the same. -/
theorem Follows.cases (h : Follows Q m k w d) :
    (∃ a b w' d', m w = .ok a w' ∧ k d = .ok (b, d') ∧ Q a b w' d') ∨
      ∃ e w', m w = .error e w' ∧ k d = .error e := by
  unfold Follows at h
  cases hm : m w with
  | ok a w' =>
    rw [hm] at h
    cases hk : k d with
    | ok result =>
      rw [hk] at h
      exact .inl ⟨a, result.1, w', result.2, rfl, rfl, h⟩
    | error e =>
      rw [hk] at h
      exact h.elim
  | error e w' =>
    rw [hm] at h
    cases hk : k d with
    | ok result =>
      rw [hk] at h
      exact h.elim
    | error e' =>
      rw [hk] at h
      cases h
      exact .inr ⟨e, w', rfl, rfl⟩

theorem Follows.bind {f : α → Build γ} {g : β → Sketch δ} (h : Follows Q m k w d)
    (hnext : ∀ {a b w' d'}, Q a b w' d' → Follows Q' (f a) (g b) w' d') :
    Follows Q' (m >>= f) (k >>= g) w d := by
  obtain ⟨a, b, w', d', hm, hk, hQ⟩ | ⟨e, w', hm, hk⟩ := h.cases
  · have hbuild : (m >>= f) w = f a w' := by
      show EStateM.bind m f w = _
      simp only [EStateM.bind, hm]
    have hsketch : (k >>= g) d = g b d' := by
      show (k d >>= fun result => g result.1 result.2) = _
      rw [hk]
      rfl
    unfold Follows
    rw [hbuild, hsketch]
    exact hnext hQ
  · refine follows_error (e := e) (u := w') ?_ ?_
    · show EStateM.bind m f w = _
      simp only [EStateM.bind, hm]
    · show (k d >>= fun result => g result.1 result.2) = _
      rw [hk]
      rfl

theorem Follows.mono {Q' : α → β → Workspace → Draft → Prop} (h : Follows Q m k w d)
    (himp : ∀ {a b w' d'}, Q a b w' d' → Q' a b w' d') : Follows Q' m k w d := by
  obtain ⟨a, b, w', d', hm, hk, hQ⟩ | ⟨e, w', hm, hk⟩ := h.cases
  · exact follows_ok hm hk (himp hQ)
  · exact follows_error hm hk

theorem Follows.congr {m' : Build α} {w' : Workspace} (h : Follows Q m' k w' d)
    (hm : m w = m' w') : Follows Q m k w d := by
  unfold Follows at h ⊢
  rw [hm]
  exact h

/-- What is known of a step of building may be used of its results. -/
theorem Follows.with_ok (h : Follows Q m k w d) :
    Follows (fun a b w' d' => m w = .ok a w' ∧ Q a b w' d') m k w d := by
  obtain ⟨a, b, w', d', hm, hk, hQ⟩ | ⟨e, w', hm, hk⟩ := h.cases
  · exact follows_ok hm hk ⟨hm, hQ⟩
  · exact follows_error hm hk

theorem Follows.map {Q' : α → δ → Workspace → Draft → Prop} (h : Follows Q m k w d) (g : β → δ)
    (himp : ∀ {a b w' d'}, Q a b w' d' → Q' a (g b) w' d') :
    Follows Q' m (do return g (← k)) w d := by
  obtain ⟨a, b, w', d', hm, hk, hQ⟩ | ⟨e, w', hm, hk⟩ := h.cases
  · refine follows_ok hm ?_ (himp hQ)
    show (k d >>= fun result => .ok (g result.1, result.2)) = _
    rw [hk]
    rfl
  · refine follows_error hm ?_
    show (k d >>= fun result => .ok (g result.1, result.2)) = _
    rw [hk]
    rfl

theorem Follows.inside {known : List String} (h : Follows Q m k w { d with known }) :
    Follows (fun a b w' d' => ∃ u, Q a b w' u ∧ d' = { u with known := d.known })
      m (Sketch.inside known k) w d := by
  obtain ⟨a, b, w', d', hm, hk, hQ⟩ | ⟨e, w', hm, hk⟩ := h.cases
  · refine follows_ok hm ?_ ⟨d', hQ, rfl⟩
    unfold Sketch.inside
    rw [hk]
    rfl
  · refine follows_error hm ?_
    unfold Sketch.inside
    rw [hk]
    rfl

end Follows

variable {root : ScopeId} {rules : NameTable Rule} {base w : Workspace} {f : Frame}
  {labels : List Token} {d : Draft}

/-- A frame has come further. Cells were created for more tokens, and the two results belong together as
far as the tokens of cells tell. -/
def Onward {α β : Type} (root : ScopeId) (rules : NameTable Rule) (base : Workspace) (f : Frame)
    (labels : List Token) (P : (Cell → Token → Prop) → α → β → Prop) (a : α) (b : β)
    (w : Workspace) (d : Draft) : Prop :=
  ∃ labels', labels <+: labels' ∧ Drawn root rules base f labels' d w ∧
    P (Stands base.store labels') a b

/-! ## Terms -/

theorem follows_term (h : Drawn root rules base f labels d w) (x : Expr) :
    Follows (fun c t w' d' => d'.frames = d.frames ∧
        Onward root rules base f labels (fun P => P) c t w' d')
      (term (frameScope base f.number) x) (Sketch.term rules.find? f x) w d := by
  cases x with
  | list items => exact follows_throw _ (.expectedIdentifier (.list items)) w d
  | atom name =>
    by_cases hknown : name ∈ d.known
    · obtain ⟨c, hl, hc⟩ := h.exists_stands hknown
      refine follows_ok (u := w) (a := c) ?_ (if_pos (.inr hknown)) ⟨rfl, labels, ?_, h, hc⟩
      · show resolve _ name w = _
        rw [resolve_eq, hl]
        rfl
      · exact List.prefix_rfl
    have hl := h.lookup_of_not_known hknown
    cases hvar : isVariableName name with
    | false =>
      have hbuild : term (frameScope base f.number) (.atom name) w = newConstant name w := by
        show resolve _ name w = _
        rw [resolve_eq, hl]
        cases rules.find? name <;> simp [hvar]
      refine follows_ok hbuild (if_pos (.inl hvar)) ⟨rfl, _, List.prefix_append _ _,
        h.createBound name, ?_⟩
      have htoken : f.token name = .constant name := by simp [Frame.token, hvar]
      rw [htoken]
      show Stands base.store _ ⟨w.store.size⟩ _
      rw [h.size_eq]
      exact stands_last base.store labels (.constant name)
    | true =>
      have hnew : ¬(isVariableName name = false ∨ name ∈ d.known) := by simp [hvar, hknown]
      cases hrule : rules.find? name with
      | some r =>
        refine follows_error (e := .expectedTerm name) (u := w) ?_ ?_
        · show resolve _ name w = _
          rw [resolve_eq, hl, hrule]
          simp only [Option.map_some, hvar, if_true]
          rfl
        · simp only [Sketch.term, if_neg hnew, hrule, Option.isSome_some, if_true]
      | none =>
        have hbuild : term (frameScope base f.number) (.atom name) w =
            newVariable (frameScope base f.number) name w := by
          show resolve _ name w = _
          rw [resolve_eq, hl, hrule]
          simp only [Option.map_none, hvar, if_true]
        have hsketch : Sketch.term rules.find? f (.atom name) d =
            .ok (f.token name, { d with known := name :: d.known }) := by
          simp only [Sketch.term, if_neg hnew, hrule, Option.isSome_none, Bool.false_eq_true,
            if_false]
        refine follows_ok hbuild hsketch ⟨rfl, _, List.prefix_append _ _,
          h.createNamed hvar hknown, ?_⟩
        rw [h.token_eq hvar hknown]
        show Stands base.store _ ⟨w.store.size⟩ _
        rw [h.size_eq]
        exact stands_last base.store labels (.var f.number name)

/-! ## Goals -/

def OutlinedAll (P : Cell → Token → Prop) : List Goal → List Outline → Prop :=
  List.Forall₂ (Goal.Outlined P)

section Goals

variable {applyBuild : Application} {applySketch : Sketch.Application}

theorem follows_goals {es : List Expr}
    (hes : ∀ e ∈ es, ∀ {labels d w}, Drawn root rules base f labels d w →
      Follows (Onward root rules base f labels Goal.Outlined)
        (goal applyBuild (frameScope base f.number) e)
        (Sketch.goal rules.find? applySketch f e) w d)
    (h : Drawn root rules base f labels d w) :
    Follows (Onward root rules base f labels OutlinedAll)
      (goals applyBuild (frameScope base f.number) es)
      (Sketch.goals rules.find? applySketch f es) w d := by
  induction es generalizing labels d w with
  | nil =>
    rw [goals, Sketch.goals]
    exact follows_ok rfl rfl ⟨labels, List.prefix_rfl, h, .nil⟩
  | cons e later ih =>
    rw [goals, Sketch.goals]
    refine (hes e List.mem_cons_self h).bind ?_
    rintro g T w₁ d₁ ⟨labels₁, hle₁, h₁, hg⟩
    refine (ih (fun e' he' => hes e' (List.mem_cons_of_mem e he')) h₁).bind ?_
    rintro gs ts w₂ d₂ ⟨labels₂, hle₂, h₂, hgs⟩
    refine follows_ok rfl rfl ⟨labels₂, hle₁.trans hle₂, h₂, .cons ?_ hgs⟩
    exact Goal.Outlined.mono (fun hc => hc.mono hle₂) T hg

/-- Goals follow outlines if the applications in them do. -/
theorem follows_goal_of (happly : ∀ {labels d w} name args, Drawn root rules base f labels d w →
      Follows (Onward root rules base f labels Goal.Outlined)
        (applyBuild name args (frameScope base f.number)) (applySketch name args f) w d)
    (h : Drawn root rules base f labels d w) (e : Expr) :
    Follows (Onward root rules base f labels Goal.Outlined)
      (goal applyBuild (frameScope base f.number) e)
      (Sketch.goal rules.find? applySketch f e) w d := by
  induction e using Expr.phraseInduction generalizing labels d w with
  | goal e ih =>
    rw [goal_eq, Sketch.goal_eq]
    cases he : e.phrase with
    | application name args => exact happly name args h
    | print x =>
      refine (follows_term h x).bind ?_
      rintro c t w₁ d₁ ⟨-, labels₁, hle₁, h₁, hc⟩
      exact follows_ok rfl rfl ⟨labels₁, hle₁, h₁, .print hc⟩
    | equal x y =>
      refine (follows_term h x).bind ?_
      rintro a t w₁ d₁ ⟨-, labels₁, hle₁, h₁, ha⟩
      refine (follows_term h₁ y).bind ?_
      rintro b u w₂ d₂ ⟨-, labels₂, hle₂, h₂, hb⟩
      exact follows_ok rfl rfl ⟨labels₂, hle₁.trans hle₂, h₂, .unify (ha.mono hle₂) hb⟩
    | and es =>
      rw [he] at ih
      refine (follows_goals (fun e he _ _ _ => ih e he) h).bind ?_
      rintro gs ts w₁ d₁ ⟨labels₁, hle₁, h₁, hgs⟩
      exact follows_ok rfl rfl ⟨labels₁, hle₁, h₁, .and hgs⟩
    | or es =>
      rw [he] at ih
      refine (follows_goals (fun e he _ _ _ => ih e he) h).bind ?_
      rintro gs ts w₁ d₁ ⟨labels₁, hle₁, h₁, hgs⟩
      exact follows_ok rfl rfl ⟨labels₁, hle₁, h₁, .or hgs⟩
    | refused error => exact follows_throw _ error w d

end Goals

/-! ## Applications -/

theorem follows_rule (h : Drawn root rules base f labels d w) (name : String) (argCount : Nat) :
    Follows (fun r r' w' d' => r = r' ∧ w = w' ∧ d = d' ∧ rules.find? name = some r ∧
        argCount = r.arity)
      (rule (frameScope base f.number) name argCount)
      (Sketch.rule rules.find? name argCount) w d := by
  by_cases hknown : name ∈ d.known
  · obtain ⟨c, hl, -⟩ := h.exists_stands hknown
    refine follows_error (e := .notARelation (.atom name)) (u := w) ?_ (if_pos hknown)
    rw [rule_eq, hl]
    rfl
  have hl := h.lookup_of_not_known hknown
  cases hrule : rules.find? name with
  | none =>
    refine follows_error (e := .unknownRelation name) (u := w) ?_ ?_
    · rw [rule_eq, hl, hrule]
      rfl
    · simp only [Sketch.rule, if_neg hknown, hrule]
  | some r =>
    by_cases hcount : argCount = r.arity
    · refine follows_ok (a := r) (b := r) (u := w) (v := d) ?_ ?_ ⟨rfl, rfl, rfl, rfl, hcount⟩
      · rw [rule_eq, hl, hrule]
        simp only [Option.map_some, if_pos hcount]
        rfl
      · simp only [Sketch.rule, if_neg hknown, hrule, if_pos hcount]
    · refine follows_error (e := .arity name r.arity argCount) (u := w) ?_ ?_
      · rw [rule_eq, hl, hrule]
        simp only [Option.map_some, if_neg hcount]
        rfl
      · simp only [Sketch.rule, if_neg hknown, hrule, if_neg hcount]

/-- The scope of a frame that is not at work yet has cells for its first parameters. -/
structure Filled (base : Workspace) (labels : List Token) (n : Nat) (done : List (String × Token))
    (w : Workspace) : Prop where
  named_iff : ∀ {x}, x ∈ done.map Prod.fst ↔
    ∃ m, (w.scopes.names (frameScope base n)).find? x = some m
  stands : ∀ {x c}, (w.scopes.names (frameScope base n)).find? x = some (.cell c) →
    ∃ t, (x, t) ∈ done ∧ Stands base.store labels c t

theorem Filled.congr {n : Nat} {done : List (String × Token)} {labels' : List Token}
    {w' : Workspace} (h : Filled base labels n done w) (hle : labels <+: labels')
    (hnames : w'.scopes.names (frameScope base n) = w.scopes.names (frameScope base n)) :
    Filled base labels' n done w' := by
  refine ⟨?_, ?_⟩
  · rw [hnames]
    exact h.named_iff
  · intro x c hc
    rw [hnames] at hc
    obtain ⟨t, ht, hstands⟩ := h.stands hc
    exact ⟨t, ht, hstands.mono hle⟩

theorem Filled.bind {n : Nat} {done : List (String × Token)} (h : Filled base labels n done w)
    (hn : w.scopes.Has (frameScope base n)) (param : String) {c : Cell} {t : Token}
    (hc : Stands base.store labels c t) :
    Filled base labels n (done ++ [(param, t)])
      { w with scopes := w.scopes.bind (frameScope base n) param (.cell c) } := by
  refine ⟨?_, ?_⟩
  · intro x
    rw [Scopes.find?_bind hn, List.map_append, List.mem_append, h.named_iff]
    by_cases hx : x = param
    · simp [hx]
    · simp [hx]
  · intro x b hb
    rw [Scopes.find?_bind hn] at hb
    by_cases hx : x = param
    · rw [if_pos ⟨rfl, hx⟩, Option.some.injEq, Meaning.cell.injEq] at hb
      rw [← hb, hx]
      exact ⟨t, by simp, hc⟩
    · rw [if_neg fun hand => hx hand.2] at hb
      obtain ⟨u, hu, hstands⟩ := h.stands hb
      exact ⟨u, List.mem_append_left _ hu, hstands⟩

/-- The frame that arguments fill, as seen from the frame of their caller. -/
def FilledWith (root : ScopeId) (rules : NameTable Rule) (base : Workspace) (f : Frame) (n : Nat)
    (params : List String) (done : List (String × Token)) (labels : List Token) (d : Draft)
    (ts : List Token) (w' : Workspace) (d' : Draft) : Prop :=
  d'.frames = d.frames ∧ ts.length = params.length ∧ ∃ labels', labels <+: labels' ∧
    Drawn root rules base f labels' d' w' ∧ Filled base labels' n (done ++ params.zip ts) w'

theorem follows_bindArguments {n : Nat} (hne : n ≠ f.number) {params : List String}
    (hvars : ∀ param ∈ params, isVariableName param = true) {args : List Expr}
    (hlen : args.length = params.length) {done : List (String × Token)} (hn : n < d.frames)
    (h : Drawn root rules base f labels d w) (hfilled : Filled base labels n done w) :
    Follows (fun _ => FilledWith root rules base f n params done labels d)
      (bindArguments (frameScope base n) (frameScope base f.number) params args)
      (Sketch.terms rules.find? f args) w d := by
  induction params generalizing args done labels d w with
  | nil =>
    obtain rfl := List.length_eq_zero_iff.mp hlen
    refine follows_ok rfl rfl ⟨rfl, rfl, labels, List.prefix_rfl, h, ?_⟩
    rw [List.zip_nil_left, List.append_nil]
    exact hfilled
  | cons param params ih =>
    match args with
    | [] => cases hlen
    | arg :: args =>
      rw [bindArguments, Sketch.terms]
      refine (follows_term h arg).with_ok.bind ?_
      rintro c t w₁ d₁ ⟨hterm, hframes, labels₁, hle₁, h₁, hc⟩
      have hvar := hvars param List.mem_cons_self
      have hn₁ : n < d₁.frames := hframes ▸ hn
      have hnames : w₁.scopes.names (frameScope base n) = w.scopes.names (frameScope base n) :=
        ((grows_term w (frameScope base f.number) arg).of_ok hterm (.refl _ w)).names_eq
          (h.has_frameScope_iff.mpr hn) fun e => hne (frameScope_injective e)
      -- The cell is bound in the new frame, of which the caller's frame sees nothing.
      have h₂ := h₁.bind_ne hn₁ hne hvar (h₁.has_of_stands hc)
      have hfilled₂ := (hfilled.congr hle₁ hnames).bind (h₁.has_frameScope_iff.mpr hn₁) param hc
      have hlater := ih (fun p hp => hvars p (List.mem_cons_of_mem param hp))
        (Nat.succ.inj hlen) hn₁ h₂ hfilled₂
      refine (hlater.map (t :: ·) ?_).congr rfl
      rintro _ ts w' d' ⟨hframes', hlen', labels', hle', h', hfilled'⟩
      refine ⟨hframes'.trans hframes, congrArg Nat.succ hlen', labels', hle₁.trans hle', h', ?_⟩
      rw [List.append_assoc] at hfilled'
      exact hfilled'

theorem lookup_zip_of_mem {params : List String} {ts : List Token} {x : String} {t : Token}
    (hnodup : params.Nodup) (h : (x, t) ∈ params.zip ts) :
    (params.zip ts).lookup x = some t := by
  induction params generalizing ts with
  | nil => simp at h
  | cons param params ih =>
    match ts with
    | [] => simp at h
    | u :: ts =>
      obtain ⟨hnew, hnodup⟩ := List.nodup_cons.mp hnodup
      rw [List.zip_cons_cons] at h ⊢
      rw [NameTable.lookup_entry]
      rcases List.mem_cons.mp h with heq | hlater
      · cases heq
        rw [if_pos rfl]
      · have hx : x ≠ param := by
          rintro rfl
          exact hnew (List.of_mem_zip hlater).1
        rw [if_neg hx]
        exact ih hnodup hlater

theorem lookup_zip_of_not_mem {params : List String} (ts : List Token) {x : String}
    (hx : x ∉ params) : (params.zip ts).lookup x = none := by
  rw [List.lookup_eq_none_iff]
  intro entry hentry
  have hne : x ≠ entry.1 := by
    rintro rfl
    exact hx (List.of_mem_zip hentry).1
  simpa using hne

/-- A frame whose parameters all have their cells can be built in. -/
theorem Filled.drawn {r : Rule} (hr : r.WellFormed) {n : Nat} {ts : List Token}
    (hlen : ts.length = r.params.length) (hn : n < d.frames)
    (h : Labelled root rules base labels d.frames w)
    (hfilled : Filled base labels n (r.params.zip ts) w) :
    Drawn root rules base ⟨n, r.params.zip ts⟩ labels { d with known := r.params } w where
  toLabelled := h
  lt_frames := hn
  known_iff := by
    intro x
    rw [← hfilled.named_iff, List.map_fst_zip hlen.ge]
  stands := by
    intro x c hc
    obtain ⟨t, ht, hstands⟩ := hfilled.stands hc
    have hvar := hr.isVariable x (List.of_mem_zip ht).1
    simpa [Frame.token, hvar, lookup_zip_of_mem hr.nodup ht] using hstands
  token_eq := by
    intro x hvar hx
    simp [Frame.token, hvar, lookup_zip_of_not_mem ts hx]

theorem follows_applyRule (hrules : rules.WellFormed) (limit left : Nat)
    (h : Drawn root rules base f labels d w) (name : String) (args : List Expr) :
    Follows (Onward root rules base f labels Goal.Outlined)
      (applyRule root limit left name args (frameScope base f.number))
      (Sketch.applyRule rules.find? limit left name args f) w d := by
  induction left generalizing f labels d w name args with
  | zero =>
    rw [applyRule, Sketch.applyRule]
    refine (follows_rule h name args.length).bind ?_
    intro r r' w' d' _
    exact follows_throw _ (.ruleDepthExceeded name limit) w' d'
  | succ left ih =>
    rw [applyRule, Sketch.applyRule]
    refine (follows_rule h name args.length).bind ?_
    rintro r _ _ _ ⟨rfl, rfl, rfl, hfind, hlen⟩
    have hr := hrules name r hfind
    obtain ⟨hframe, -⟩ := h.toLabelled.openChild
    have hopened : Follows (fun i n w' d' => i = frameScope base n ∧ n = d.frames ∧
          w' = { w with scopes := (w.scopes.openChild root).2 } ∧
          d' = { d with frames := d.frames + 1 }) (openFrame root) Sketch.openFrame w d :=
      follows_ok rfl rfl ⟨hframe, rfl, rfl, rfl⟩
    refine hopened.bind ?_
    rintro _ n _ _ ⟨rfl, hn, rfl, rfl⟩
    have hne : n ≠ f.number := fun e => Nat.lt_irrefl _ (hn ▸ e ▸ h.lt_frames)
    have hlt : n < d.frames + 1 := hn ▸ Nat.lt_succ_self d.frames
    have hempty : Filled base labels n [] { w with scopes := (w.scopes.openChild root).2 } := by
      have hnone := h.toLabelled.find?_eq_none hn.ge
      exact ⟨by simp [hnone], by simp [hnone]⟩
    refine (follows_bindArguments hne hr.isVariable hlen hlt h.openChild hempty).bind ?_
    rintro _ ts w₁ d₁ ⟨hframes, hts, labels₁, hle₁, h₁, hfilled⟩
    have hg := hfilled.drawn hr hts (hframes ▸ hlt) h₁.toLabelled
    have hbody := follows_goal_of (fun name args h => ih h name args) hg r.body
    refine hbody.with_ok.inside.mono ?_
    rintro g T w₂ _ ⟨d₂, ⟨hgoal, labels₂, hle₂, h₂, hT⟩, rfl⟩
    have hgrows := (grows_goal root limit left w₁ (frameScope base n) r.body).of_ok hgoal
      (.refl _ w₁)
    exact ⟨labels₂, hle₁.trans hle₂, h₁.resume h₂ hne.symm hle₂ hgrows, hT⟩

/-- **Builds follow outlines.** -/
theorem follows_goal (hrules : rules.WellFormed) (limit left : Nat)
    (h : Drawn root rules base f labels d w) (e : Expr) :
    Follows (Onward root rules base f labels Goal.Outlined)
      (goal (applyRule root limit left) (frameScope base f.number) e)
      (Sketch.goal rules.find? (Sketch.applyRule rules.find? limit left) f e) w d :=
  follows_goal_of (fun name args h => follows_applyRule hrules limit left h name args) h e

end Build

end GoalSearch
