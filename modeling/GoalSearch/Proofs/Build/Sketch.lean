import GoalSearch.Proofs.Build.Outline
import Mathlib.Data.List.Forall2

/-!
# When sketches succeed

A frame knows which names are its parameters, and a sketch learns other variables on its way. What it
learns has no influence on whether it succeeds: a variable that names a rule is refused unless it is a
parameter, so that of the names of rules a sketch knows the parameters and no others (`Tidy`). That leaves
one condition for terms (`Permits`) and one for heads (`rule_ok_iff`), neither of which looks at the
draft.
-/

namespace GoalSearch

namespace Sketch

variable {α β : Type} {rules : String → Option Rule} {f : Frame} {d d' : Draft}

/-! ## Steps -/

theorem bind_ok_iff {m : Sketch α} {g : α → Sketch β} {b : β} :
    (m >>= g) d = .ok (b, d') ↔ ∃ a u, m d = .ok (a, u) ∧ g a u = .ok (b, d') := by
  show (m d >>= fun result => g result.1 result.2) = _ ↔ _
  cases m d with
  | error e =>
    constructor
    · intro h
      cases h
    · rintro ⟨_, _, h, -⟩
      cases h
  | ok result =>
    constructor
    · intro h
      exact ⟨result.1, result.2, rfl, h⟩
    · rintro ⟨_, _, h, hg⟩
      cases h
      exact hg

theorem pure_ok_iff {a b : α} : (pure a : Sketch α) d = .ok (b, d') ↔ a = b ∧ d = d' := by
  show Except.ok (a, d) = .ok (b, d') ↔ _
  simp

theorem openFrame_ok_iff {n : Nat} :
    openFrame d = .ok (n, d') ↔ n = d.frames ∧ d' = { d with frames := d.frames + 1 } := by
  unfold openFrame
  simp only [Except.ok.injEq, Prod.mk.injEq]
  exact and_congr eq_comm eq_comm

theorem inside_ok_iff {known : List String} {m : Sketch α} {a : α} :
    inside known m d = .ok (a, d') ↔
      ∃ u, m { d with known } = .ok (a, u) ∧ d' = { u with known := d.known } := by
  unfold inside
  cases m { d with known } with
  | error e =>
    constructor
    · intro h
      cases h
    · rintro ⟨_, h, -⟩
      cases h
  | ok result =>
    constructor
    · intro h
      cases h
      exact ⟨result.2, rfl, rfl⟩
    · rintro ⟨u, h, rfl⟩
      cases h
      rfl

/-! ## Shapes of goals -/

inductive Shape : Expr → Prop where
  | bare (name : String) : Shape (.atom name)
  | print (x : Expr) : Shape (.list [.atom Keyword.print.text, x])
  | equal (x y : Expr) : Shape (.list [.atom Keyword.equal.text, x, y])
  | and (es : List Expr) : Shape (.list (.atom Keyword.and.text :: es))
  | or (es : List Expr) : Shape (.list (.atom Keyword.or.text :: es))
  | application {name : String} (h : isGoalForm name = false) (args : List Expr) :
      Shape (.list (.atom name :: args))

section Goals

variable {apply : Application}

theorem shape_of_ok {e : Expr} {T : Outline} (h : goal rules apply f e d = .ok (T, d')) :
    Shape e := by
  match e with
  | .atom name => exact .bare name
  | .list [] => cases h
  | .list (.list items :: _) => cases h
  | .list (.atom head :: args) =>
    unfold goal at h
    cases hk : Keyword.ofText? head with
    | none => exact .application (by simp [isGoalForm, hk]) args
    | some k =>
      rw [← Keyword.text_of_ofText? hk]
      rw [hk] at h
      cases k with
      | define => exact .application rfl args
      | query => exact .application rfl args
      | print =>
        rcases args with _ | ⟨x, _ | ⟨_, _⟩⟩
        · cases h
        · exact .print x
        · cases h
      | equal =>
        rcases args with _ | ⟨x, _ | ⟨y, _ | ⟨_, _⟩⟩⟩
        · cases h
        · cases h
        · exact .equal x y
        · cases h
      | and => exact .and args
      | or => exact .or args

theorem goal_bare (name : String) : goal rules apply f (.atom name) = apply name [] f := rfl

theorem goal_application {name : String} (h : isGoalForm name = false) (args : List Expr) :
    goal rules apply f (.list (.atom name :: args)) = apply name args f := by
  unfold goal
  unfold isGoalForm at h
  cases hk : Keyword.ofText? name with
  | none => rfl
  | some k =>
    rw [hk] at h
    cases k <;> first | rfl | cases h

theorem goal_print_ok_iff {x : Expr} {T : Outline} :
    goal rules apply f (.list [.atom Keyword.print.text, x]) d = .ok (T, d') ↔
      ∃ t, term rules f x d = .ok (t, d') ∧ T = .print t := by
  have heq : goal rules apply f (.list [.atom Keyword.print.text, x]) =
      (do return .print (← term rules f x)) := rfl
  rw [heq, bind_ok_iff]
  constructor
  · rintro ⟨t, u, ht, h⟩
    obtain ⟨rfl, rfl⟩ := pure_ok_iff.mp h
    exact ⟨t, ht, rfl⟩
  · rintro ⟨t, ht, rfl⟩
    exact ⟨t, d', ht, rfl⟩

theorem goal_equal_ok_iff {x y : Expr} {T : Outline} :
    goal rules apply f (.list [.atom Keyword.equal.text, x, y]) d = .ok (T, d') ↔
      ∃ t u v, term rules f x d = .ok (t, v) ∧ term rules f y v = .ok (u, d') ∧
        T = .unify t u := by
  have heq : goal rules apply f (.list [.atom Keyword.equal.text, x, y]) =
      (do return .unify (← term rules f x) (← term rules f y)) := rfl
  rw [heq, bind_ok_iff]
  constructor
  · rintro ⟨t, v, ht, h⟩
    obtain ⟨u, w, hu, h⟩ := bind_ok_iff.mp h
    obtain ⟨rfl, rfl⟩ := pure_ok_iff.mp h
    exact ⟨t, u, v, ht, hu, rfl⟩
  · rintro ⟨t, u, v, ht, hu, rfl⟩
    exact ⟨t, v, ht, bind_ok_iff.mpr ⟨u, d', hu, rfl⟩⟩

theorem goal_and_ok_iff {es : List Expr} {T : Outline} :
    goal rules apply f (.list (.atom Keyword.and.text :: es)) d = .ok (T, d') ↔
      ∃ ts, goals rules apply f es d = .ok (ts, d') ∧ T = .and ts := by
  have heq : goal rules apply f (.list (.atom Keyword.and.text :: es)) =
      (do return .and (← goals rules apply f es)) := rfl
  rw [heq, bind_ok_iff]
  constructor
  · rintro ⟨ts, u, hts, h⟩
    obtain ⟨rfl, rfl⟩ := pure_ok_iff.mp h
    exact ⟨ts, hts, rfl⟩
  · rintro ⟨ts, hts, rfl⟩
    exact ⟨ts, d', hts, rfl⟩

theorem goal_or_ok_iff {es : List Expr} {T : Outline} :
    goal rules apply f (.list (.atom Keyword.or.text :: es)) d = .ok (T, d') ↔
      ∃ ts, goals rules apply f es d = .ok (ts, d') ∧ T = .or ts := by
  have heq : goal rules apply f (.list (.atom Keyword.or.text :: es)) =
      (do return .or (← goals rules apply f es)) := rfl
  rw [heq, bind_ok_iff]
  constructor
  · rintro ⟨ts, u, hts, h⟩
    obtain ⟨rfl, rfl⟩ := pure_ok_iff.mp h
    exact ⟨ts, hts, rfl⟩
  · rintro ⟨ts, hts, rfl⟩
    exact ⟨ts, d', hts, rfl⟩

theorem goals_nil_ok_iff {ts : List Outline} :
    goals rules apply f [] d = .ok (ts, d') ↔ ts = [] ∧ d' = d := by
  refine pure_ok_iff.trans ?_
  exact and_congr eq_comm eq_comm

theorem goals_cons_ok_iff {e : Expr} {later : List Expr} {ts : List Outline} :
    goals rules apply f (e :: later) d = .ok (ts, d') ↔
      ∃ T rest u, goal rules apply f e d = .ok (T, u) ∧
        goals rules apply f later u = .ok (rest, d') ∧ ts = T :: rest := by
  have heq : goals rules apply f (e :: later) =
      (do return (← goal rules apply f e) :: (← goals rules apply f later)) := rfl
  rw [heq, bind_ok_iff]
  constructor
  · rintro ⟨T, u, hT, h⟩
    obtain ⟨rest, v, hrest, h⟩ := bind_ok_iff.mp h
    obtain ⟨rfl, rfl⟩ := pure_ok_iff.mp h
    exact ⟨T, rest, u, hT, hrest, rfl⟩
  · rintro ⟨T, rest, u, hT, hrest, rfl⟩
    exact ⟨T, u, hT, bind_ok_iff.mpr ⟨rest, d', hrest, rfl⟩⟩

theorem goals_append_ok_iff {es later : List Expr} {ts : List Outline} :
    goals rules apply f (es ++ later) d = .ok (ts, d') ↔
      ∃ first rest u, goals rules apply f es d = .ok (first, u) ∧
        goals rules apply f later u = .ok (rest, d') ∧ ts = first ++ rest := by
  induction es generalizing d ts with
  | nil =>
    constructor
    · intro h
      exact ⟨[], ts, d, goals_nil_ok_iff.mpr ⟨rfl, rfl⟩, h, rfl⟩
    · rintro ⟨first, rest, u, hfirst, hrest, rfl⟩
      obtain ⟨rfl, rfl⟩ := goals_nil_ok_iff.mp hfirst
      exact hrest
  | cons e es ih =>
    rw [List.cons_append, goals_cons_ok_iff]
    constructor
    · rintro ⟨T, rest, u, hT, h, rfl⟩
      obtain ⟨first, rest, v, hfirst, hrest, rfl⟩ := ih.mp h
      exact ⟨T :: first, rest, v, goals_cons_ok_iff.mpr ⟨T, first, u, hT, hfirst, rfl⟩, hrest, rfl⟩
    · rintro ⟨first, rest, v, hfirst, hrest, rfl⟩
      obtain ⟨T, middle, u, hT, hmiddle, rfl⟩ := goals_cons_ok_iff.mp hfirst
      exact ⟨T, middle ++ rest, u, hT, ih.mpr ⟨middle, rest, v, hmiddle, hrest, rfl⟩, rfl⟩

end Goals

theorem terms_cons_ok_iff {x : Expr} {later : List Expr} {ts : List Token} :
    terms rules f (x :: later) d = .ok (ts, d') ↔
      ∃ t rest u, term rules f x d = .ok (t, u) ∧ terms rules f later u = .ok (rest, d') ∧
        ts = t :: rest := by
  have heq : terms rules f (x :: later) =
      (do return (← term rules f x) :: (← terms rules f later)) := rfl
  rw [heq, bind_ok_iff]
  constructor
  · rintro ⟨t, u, ht, h⟩
    obtain ⟨rest, v, hrest, h⟩ := bind_ok_iff.mp h
    obtain ⟨rfl, rfl⟩ := pure_ok_iff.mp h
    exact ⟨t, rest, u, ht, hrest, rfl⟩
  · rintro ⟨t, rest, u, ht, hrest, rfl⟩
    exact ⟨t, u, ht, bind_ok_iff.mpr ⟨rest, d', hrest, rfl⟩⟩

/-! ## Known names -/

/-- Of the names of rules, a frame knows its parameters. -/
def Tidy (rules : String → Option Rule) (f : Frame) (known : List String) : Prop :=
  ∀ x, (rules x).isSome = true → (x ∈ known ↔ x ∈ f.params.map Prod.fst)

/-- A name can stand for a term in a frame. -/
def Permits (rules : String → Option Rule) (f : Frame) (x : String) : Prop :=
  isVariableName x = false ∨ x ∈ f.params.map Prod.fst ∨ rules x = none

theorem term_ok (hd : Tidy rules f d.known) {e : Expr} {t : Token}
    (h : term rules f e d = .ok (t, d')) :
    ∃ x, e = .atom x ∧ Permits rules f x ∧ t = f.token x ∧ d'.frames = d.frames ∧
      Tidy rules f d'.known := by
  cases e with
  | list items => cases h
  | atom x =>
    refine ⟨x, rfl, ?_⟩
    simp only [term] at h
    by_cases hknown : isVariableName x = false ∨ x ∈ d.known
    · rw [if_pos hknown] at h
      cases h
      refine ⟨?_, rfl, rfl, hd⟩
      cases hrule : rules x with
      | none => exact .inr (.inr hrule)
      | some r => exact hknown.imp id fun hx => .inl ((hd x (by simp [hrule])).mp hx)
    · rw [if_neg hknown] at h
      cases hrule : rules x with
      | some r =>
        simp only [hrule, Option.isSome_some, if_true] at h
        cases h
      | none =>
        simp only [hrule, Option.isSome_none, Bool.false_eq_true, if_false] at h
        cases h
        refine ⟨.inr (.inr hrule), rfl, rfl, fun y hy => ?_⟩
        have hne : y ≠ x := by
          rintro rfl
          simp [hrule] at hy
        rw [List.mem_cons, ← hd y hy]
        simp [hne]

theorem terms_ok (hd : Tidy rules f d.known) {args : List Expr} {ts : List Token}
    (h : terms rules f args d = .ok (ts, d')) :
    List.Forall₂ (fun e t => ∃ x, e = .atom x ∧ Permits rules f x ∧ t = f.token x) args ts ∧
      d'.frames = d.frames ∧ Tidy rules f d'.known := by
  induction args generalizing d ts with
  | nil =>
    obtain ⟨rfl, rfl⟩ := pure_ok_iff.mp h
    exact ⟨.nil, rfl, hd⟩
  | cons e later ih =>
    obtain ⟨t, rest, u, ht, hrest, rfl⟩ := terms_cons_ok_iff.mp h
    obtain ⟨x, he, hx, htoken, hframes, htidy⟩ := term_ok hd ht
    obtain ⟨hlater, hframes', htidy'⟩ := ih htidy hrest
    exact ⟨.cons ⟨x, he, hx, htoken⟩ hlater, hframes'.trans hframes, htidy'⟩

theorem exists_term_ok (hd : Tidy rules f d.known) {x : String} (hx : Permits rules f x) :
    ∃ d', term rules f (.atom x) d = .ok (f.token x, d') := by
  simp only [term]
  by_cases hknown : isVariableName x = false ∨ x ∈ d.known
  · exact ⟨d, if_pos hknown⟩
  · have hrule : rules x = none := by
      cases hrule : rules x with
      | none => rfl
      | some r =>
        obtain hx | hx | hx := hx
        · exact absurd (.inl hx) hknown
        · exact absurd (.inr ((hd x (by simp [hrule])).mpr hx)) hknown
        · rw [hrule] at hx
          cases hx
    refine ⟨{ d with known := x :: d.known }, ?_⟩
    simp only [if_neg hknown, hrule, Option.isSome_none, Bool.false_eq_true, if_false]

theorem rule_ok_iff (hd : Tidy rules f d.known) {name : String} {argCount : Nat} {r : Rule} :
    rule rules name argCount d = .ok (r, d') ↔
      name ∉ f.params.map Prod.fst ∧ rules name = some r ∧ argCount = r.arity ∧ d' = d := by
  unfold rule
  by_cases hknown : name ∈ d.known
  · rw [if_pos hknown]
    refine iff_of_false (by simp) ?_
    rintro ⟨hname, hrule, -⟩
    exact hname ((hd name (by simp [hrule])).mp hknown)
  · rw [if_neg hknown]
    cases hrule : rules name with
    | none => simp
    | some r' =>
      have hname : name ∉ f.params.map Prod.fst := by
        rwa [← hd name (by simp [hrule])]
      by_cases hcount : argCount = r'.arity
      · simp only [if_pos hcount, Except.ok.injEq, Prod.mk.injEq, Option.some.injEq]
        constructor
        · rintro ⟨rfl, rfl⟩
          exact ⟨hname, rfl, hcount, rfl⟩
        · rintro ⟨-, rfl, -, rfl⟩
          exact ⟨rfl, rfl⟩
      · simp only [if_neg hcount]
        refine iff_of_false (by simp) ?_
        rintro ⟨-, hr, h, -⟩
        exact hcount (Option.some.inj hr ▸ h)

/-- What the application of a rule has gone through. -/
theorem applyRule_ok_iff {limit left : Nat} {name : String} {args : List Expr} {T : Outline} :
    applyRule rules limit left name args f d = .ok (T, d') ↔
      ∃ n r ts u v w, left = n + 1 ∧ rule rules name args.length d = .ok (r, w) ∧
        terms rules f args { w with frames := w.frames + 1 } = .ok (ts, u) ∧
        goal rules (applyRule rules limit n) ⟨w.frames, r.params.zip ts⟩ r.body
          { u with known := r.params } = .ok (T, v) ∧ d' = { v with known := u.known } := by
  cases left with
  | zero =>
    rw [applyRule, bind_ok_iff]
    constructor
    · rintro ⟨r, u, -, h⟩
      cases h
    · rintro ⟨n, _, _, _, _, _, h, -⟩
      cases h
  | succ n =>
    rw [applyRule, bind_ok_iff]
    constructor
    · rintro ⟨r, w, hr, h⟩
      obtain ⟨k, _, hframe, h⟩ := bind_ok_iff.mp h
      obtain ⟨rfl, rfl⟩ := openFrame_ok_iff.mp hframe
      obtain ⟨ts, u, hts, h⟩ := bind_ok_iff.mp h
      obtain ⟨v, hv, rfl⟩ := inside_ok_iff.mp h
      exact ⟨n, r, ts, u, v, w, rfl, hr, hts, hv, rfl⟩
    · rintro ⟨_, r, ts, u, v, w, hn, hr, hts, hv, rfl⟩
      cases hn
      refine ⟨r, w, hr, bind_ok_iff.mpr ⟨w.frames, _, rfl, bind_ok_iff.mpr ⟨ts, u, hts, ?_⟩⟩⟩
      exact inside_ok_iff.mpr ⟨v, hv, rfl⟩

/-! ## Frames -/

theorem frames_of_term {x : Expr} {t : Token} (h : term rules f x d = .ok (t, d')) :
    d'.frames = d.frames := by
  cases x with
  | list items => cases h
  | atom name =>
    simp only [term] at h
    split at h
    · cases h
      rfl
    · split at h
      · cases h
      · cases h
        rfl

theorem frames_of_terms {args : List Expr} {ts : List Token}
    (h : terms rules f args d = .ok (ts, d')) : d'.frames = d.frames := by
  induction args generalizing d ts with
  | nil =>
    obtain ⟨-, rfl⟩ := pure_ok_iff.mp h
    rfl
  | cons x later ih =>
    obtain ⟨t, rest, u, ht, hrest, -⟩ := terms_cons_ok_iff.mp h
    rw [ih hrest, frames_of_term ht]

theorem frames_of_rule {name : String} {argCount : Nat} {r : Rule}
    (h : rule rules name argCount d = .ok (r, d')) : d' = d := by
  unfold rule at h
  split at h
  · cases h
  · split at h
    · split at h
      · cases h
        rfl
      · cases h
    · cases h

/-- Goals close no frames if applications do not. -/
theorem frames_le_of_goals {apply : Application} {es : List Expr} {ts : List Outline}
    (hes : ∀ e ∈ es, ∀ {d d' T}, goal rules apply f e d = .ok (T, d') → d.frames ≤ d'.frames)
    (h : goals rules apply f es d = .ok (ts, d')) : d.frames ≤ d'.frames := by
  induction es generalizing d ts with
  | nil =>
    obtain ⟨-, rfl⟩ := goals_nil_ok_iff.mp h
    exact Nat.le_refl _
  | cons e later ih =>
    obtain ⟨T, rest, u, hT, hrest, -⟩ := goals_cons_ok_iff.mp h
    exact Nat.le_trans (hes e List.mem_cons_self hT)
      (ih (fun e' he' => hes e' (List.mem_cons_of_mem e he')) hrest)

theorem frames_le_of_goal {apply : Application}
    (happly : ∀ {name args d d' T}, apply name args f d = .ok (T, d') → d.frames ≤ d'.frames)
    {e : Expr} {T : Outline} (h : goal rules apply f e d = .ok (T, d')) :
    d.frames ≤ d'.frames := by
  induction e using Expr.induction generalizing d d' T with
  | atom name =>
    rw [goal_bare] at h
    exact happly h
  | list items ih =>
    cases shape_of_ok h with
    | print x =>
      obtain ⟨t, ht, -⟩ := goal_print_ok_iff.mp h
      exact Nat.le_of_eq (frames_of_term ht).symm
    | equal x y =>
      obtain ⟨t, u, v, ht, hu, -⟩ := goal_equal_ok_iff.mp h
      exact Nat.le_of_eq ((frames_of_term hu).trans (frames_of_term ht)).symm
    | and es =>
      obtain ⟨ts, hts, -⟩ := goal_and_ok_iff.mp h
      exact frames_le_of_goals (fun e he _ _ _ => ih e (List.mem_cons_of_mem _ he)) hts
    | or es =>
      obtain ⟨ts, hts, -⟩ := goal_or_ok_iff.mp h
      exact frames_le_of_goals (fun e he _ _ _ => ih e (List.mem_cons_of_mem _ he)) hts
    | application hname args =>
      rw [goal_application hname] at h
      exact happly h

/-- The application of a rule opens a frame. -/
theorem frames_lt_of_applyRule {limit left : Nat} {name : String} {args : List Expr} {T : Outline}
    (h : applyRule rules limit left name args f d = .ok (T, d')) : d.frames < d'.frames := by
  induction left generalizing f name args d d' T with
  | zero =>
    obtain ⟨n, _, _, _, _, _, hn, -⟩ := applyRule_ok_iff.mp h
    cases hn
  | succ left ih =>
    obtain ⟨n, r, ts, u, v, w, hn, hr, hts, hbody, rfl⟩ := applyRule_ok_iff.mp h
    cases hn
    obtain rfl := frames_of_rule hr
    have hle := frames_le_of_goal (fun h => Nat.le_of_lt (ih h)) hbody
    have hargs := frames_of_terms hts
    dsimp only at hle hargs ⊢
    omega

section Applications

variable {limit left : Nat}

theorem frames_le_goal {e : Expr} {T : Outline}
    (h : goal rules (applyRule rules limit left) f e d = .ok (T, d')) : d.frames ≤ d'.frames :=
  frames_le_of_goal (fun h => Nat.le_of_lt (frames_lt_of_applyRule h)) h

theorem frames_le_goals {es : List Expr} {ts : List Outline}
    (h : goals rules (applyRule rules limit left) f es d = .ok (ts, d')) :
    d.frames ≤ d'.frames :=
  frames_le_of_goals (fun _ _ _ _ _ => frames_le_goal) h

end Applications

end Sketch

theorem outline_ok_iff {rules : String → Option Rule} {limit : Nat} {e : Expr} {T : Outline} :
    outline rules limit e = .ok T ↔
      ∃ d, Sketch.goal rules (Sketch.applyRule rules limit limit) .query e ⟨[], 1⟩ = .ok (T, d) := by
  show Except.map Prod.fst (Sketch.goal _ _ _ _ _) = _ ↔ _
  cases Sketch.goal rules (Sketch.applyRule rules limit limit) .query e ⟨[], 1⟩ with
  | error err =>
    constructor
    · intro h
      cases h
    · rintro ⟨d, h⟩
      cases h
  | ok result =>
    constructor
    · intro h
      cases h
      exact ⟨result.2, rfl⟩
    · rintro ⟨d, h⟩
      cases h
      rfl

end GoalSearch
