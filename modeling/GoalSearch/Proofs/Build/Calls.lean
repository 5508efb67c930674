import GoalSearch.Proofs.Build.Growth
import GoalSearch.Proofs.Build.Phrase
import GoalSearch.Proofs.Build.Proper

/-!
# Calls of rules

Which rules a build comes to. A goal calls the relations that it applies, at any depth under its
conjunctions and disjunctions, and a rule calls what its body calls. A build goes along every path of calls
from its goal, one nested application for each rule on the path, so that the number of nested applications
that it has left is decisive:

    goal (applyRule root limit left) i e w = .ok g u →
      CallPath rules e path → path.length ≤ left                          (length_le_of_goal_ok)
    goal (applyRule root limit left) i e w = .error (.ruleDepthExceeded name k) u →
      k = limit ∧ ∃ path, path.length = left ∧ CallPath rules e (path ++ [name])
                                                                  (callPath_of_goal_error)

Nothing but the rules decides about the paths. The arguments may be wrong in number or kind, and a build
may then fail earlier, but it does not fail for its depth.
-/

namespace GoalSearch

/-! ## Paths -/

/-- A goal calls what it applies and what the goals in it call. -/
inductive Expr.Calls (name : String) : Expr → Prop where
  | application {e : Expr} {args : List Expr} (h : e.phrase = .application name args) : Calls name e
  | part {e d : Expr} (hd : d ∈ e.phrase.parts) (h : Calls name d) : Calls name e

/-- Rules in a row, the first of them called by a goal and each other one by the body before it. -/
inductive CallPath (rules : String → Option Rule) : Expr → List String → Prop where
  | nil (e : Expr) : CallPath rules e []
  | cons {e : Expr} {name : String} {r : Rule} {path : List String} (hcall : e.Calls name)
      (hr : rules name = some r) (hrest : CallPath rules r.body path) :
      CallPath rules e (name :: path)

/-- A rule that calls itself, directly or through others. -/
def Recursive (rules : String → Option Rule) (name : String) : Prop :=
  ∃ r path, rules name = some r ∧ CallPath rules r.body (path ++ [name])

namespace CallPath

variable {rules : String → Option Rule} {e : Expr} {name : String} {path later : List String}

theorem append {r : Rule} (h : CallPath rules e (path ++ [name])) (hr : rules name = some r)
    (hlater : CallPath rules r.body later) : CallPath rules e (path ++ name :: later) := by
  induction path generalizing e with
  | nil =>
    cases h with
    | cons hcall _ _ => exact .cons hcall hr hlater
  | cons first path ih =>
    cases h with
    | cons hcall hfirst hrest => exact .cons hcall hfirst (ih hrest)

/-- Paths through a recursive rule are as long as one likes. -/
theorem exists_longer (h : CallPath rules e (path ++ [name])) (hrec : Recursive rules name) (n : Nat) :
    ∃ longer, n ≤ longer.length ∧ CallPath rules e (longer ++ [name]) := by
  obtain ⟨r, round, hr, hround⟩ := hrec
  induction n with
  | zero => exact ⟨path, Nat.zero_le _, h⟩
  | succ n ih =>
    obtain ⟨longer, hn, hlonger⟩ := ih
    refine ⟨longer ++ name :: round, ?_, ?_⟩
    · simp only [List.length_append, List.length_cons]
      omega
    · rw [List.append_assoc]
      exact hlonger.append hr hround

/-- Where the length of paths is bounded, no recursive rule is on them. -/
theorem not_recursive {n : Nat} (hbound : ∀ path, CallPath rules e path → path.length ≤ n)
    (h : CallPath rules e (path ++ [name])) : ¬Recursive rules name := by
  intro hrec
  obtain ⟨longer, hn, hlonger⟩ := h.exists_longer hrec n
  have hle := hbound _ hlonger
  simp only [List.length_append, List.length_singleton] at hle
  omega

end CallPath

/-! ## Workspaces with rules -/

/-- Every rule that a scope knows is one of some rules, under the same name. -/
def Workspace.RulesAmong (rules : String → Option Rule) : Workspace → Prop :=
  Workspace.AllRules fun name r => rules name = some r

/-- In a rooted workspace the root knows the rules and no other scope knows any. -/
theorem Workspace.Rooted.rulesAmong {root : ScopeId} {rules : NameTable Rule} {w : Workspace}
    (h : w.Rooted root rules) : w.RulesAmong rules.find? := by
  intro j other r hr
  by_cases hj : j = root
  · rw [hj, h.root_names] at hr
    cases hfind : rules.find? other with
    | none =>
      rw [hfind] at hr
      cases hr
    | some r' =>
      rw [hfind] at hr
      cases hr
      rfl
  · obtain ⟨-, c, hc, -⟩ := h.named hj hr
    cases hc

namespace Build

variable {α β : Type} {rules : String → Option Rule} {w u : Workspace} {i root : ScopeId}
  {limit left : Nat}

/-! ## Steps that fail -/

theorem bind_error_iff {m : Build α} {f : α → Build β} {e : BuildError} :
    (m >>= f) w = .error e u ↔ m w = .error e u ∨ ∃ a v, m w = .ok a v ∧ f a v = .error e u := by
  show EStateM.bind m f w = .error e u ↔ _
  unfold EStateM.bind
  cases m w with
  | ok a v =>
    constructor
    · intro h
      exact .inr ⟨a, v, rfl, h⟩
    · rintro (h | ⟨_, _, h, hf⟩)
      · cases h
      · cases h
        exact hf
  | error e v => simp

/-- A step that never fails for its depth. -/
def NeverTooDeep (m : Build α) : Prop := ∀ w name k u, m w ≠ .error (.ruleDepthExceeded name k) u

theorem neverTooDeep_pure (a : α) : NeverTooDeep (pure a : Build α) := by
  intro w name k u h
  cases h

theorem NeverTooDeep.bind {m : Build α} {f : α → Build β} (hm : NeverTooDeep m)
    (hf : ∀ a, NeverTooDeep (f a)) : NeverTooDeep (m >>= f) := by
  intro w name k u h
  obtain h | ⟨a, v, -, h⟩ := bind_error_iff.mp h
  · exact hm w name k u h
  · exact hf a v name k u h

theorem neverTooDeep_term (i : ScopeId) (x : Expr) : NeverTooDeep (term i x) := by
  intro w name k u h
  cases x with
  | list items => cases h
  | atom x =>
    have hres : resolve i x w = .error (.ruleDepthExceeded name k) u := h
    obtain ⟨c, -, h⟩ | ⟨-, -, h⟩ | ⟨-, -, h⟩ | ⟨r, -, -, h⟩ := resolve_cases i x w
    all_goals
      rw [h] at hres
      cases hres

theorem neverTooDeep_bindArguments (f i : ScopeId) (params : List String) (args : List Expr) :
    NeverTooDeep (bindArguments f i params args) := by
  induction params generalizing args with
  | nil => exact neverTooDeep_pure ()
  | cons param params ih =>
    cases args with
    | nil => exact neverTooDeep_pure ()
    | cons arg args =>
      rw [bindArguments]
      refine (neverTooDeep_term i arg).bind fun c => ?_
      have hbind : NeverTooDeep (bindCell f param c) := by
        intro w name k u h
        cases h
      exact hbind.bind fun _ => ih args

theorem neverTooDeep_rule (i : ScopeId) (name : String) (argCount : Nat) :
    NeverTooDeep (rule i name argCount) := by
  intro w other k u h
  obtain ⟨_, -, -, hr⟩ | ⟨_, -, -, hr⟩ | ⟨_, -, hr⟩ | ⟨-, hr⟩ := rule_cases i name argCount w
  all_goals
    rw [h] at hr
    cases hr

/-- An application that fails for its depth has either no nested application left, or it fails in the
rule's body. -/
theorem applyRule_tooDeep {name deep : String} {args : List Expr} {k : Nat}
    (h : applyRule root limit left name args i w = .error (.ruleDepthExceeded deep k) u) :
    ∃ r, w.scopes.lookup i name = some (.rule r) ∧
      (left = 0 ∧ deep = name ∧ k = limit ∨
        ∃ n v, left = n + 1 ∧
          bindArguments (w.scopes.openChild root).1 i r.params args
            { w with scopes := (w.scopes.openChild root).2 } = .ok () v ∧
          goal (applyRule root limit n) (w.scopes.openChild root).1 r.body v =
            .error (.ruleDepthExceeded deep k) u) := by
  cases left with
  | zero =>
    rw [applyRule] at h
    obtain hrule | ⟨r, v, hr, hthrow⟩ := bind_error_iff.mp h
    · exact absurd hrule (neverTooDeep_rule i name args.length w deep k u)
    · obtain ⟨hl, -, rfl⟩ := rule_ok hr
      cases hthrow
      exact ⟨r, hl, .inl ⟨rfl, rfl, rfl⟩⟩
  | succ n =>
    rw [applyRule] at h
    obtain hrule | ⟨r, v, hr, hrest⟩ := bind_error_iff.mp h
    · exact absurd hrule (neverTooDeep_rule i name args.length w deep k u)
    · obtain ⟨hl, -, rfl⟩ := rule_ok hr
      obtain hframe | ⟨frame, z, hframe, hrest⟩ := bind_error_iff.mp hrest
      · cases hframe
      · cases hframe
        obtain hargs | ⟨⟨⟩, z, hargs, hbody⟩ := bind_error_iff.mp hrest
        · exact absurd hargs (neverTooDeep_bindArguments _ i r.params args _ deep k u)
        · exact ⟨r, hl, .inr ⟨n, z, rfl, hargs, hbody⟩⟩

/-! ## Calls on the way of a build -/

section Calls

variable {apply : Application} {P : Workspace → Prop}

theorem exists_goal_ok {es : List Expr} (hes : ∀ e ∈ es, Preserves P (goal apply i e))
    {gs : List Goal} (hw : P w) (h : goals apply i es w = .ok gs u) {e : Expr} (he : e ∈ es) :
    ∃ v g v', P v ∧ goal apply i e v = .ok g v' := by
  induction es generalizing w gs with
  | nil => cases he
  | cons first later ih =>
    obtain ⟨g, rest, v, -, hg, hrest⟩ := goals_cons_ok h
    obtain rfl | he := List.mem_cons.mp he
    · exact ⟨w, g, v, hw, hg⟩
    · have hv : P v := (hes first List.mem_cons_self).of_ok hg hw
      exact ih (fun d hd => hes d (List.mem_cons_of_mem first hd)) hv hrest he

theorem exists_goal_error {es : List Expr} (hes : ∀ e ∈ es, Preserves P (goal apply i e))
    {error : BuildError} (hw : P w) (h : goals apply i es w = .error error u) :
    ∃ e ∈ es, ∃ v, P v ∧ goal apply i e v = .error error u := by
  induction es generalizing w with
  | nil =>
    rw [goals] at h
    cases h
  | cons first later ih =>
    rw [goals] at h
    obtain h | ⟨g, v, hg, h⟩ := bind_error_iff.mp h
    · exact ⟨first, List.mem_cons_self, w, hw, h⟩
    · obtain h | ⟨rest, v', -, h⟩ := bind_error_iff.mp h
      · have hv : P v := (hes first List.mem_cons_self).of_ok hg hw
        obtain ⟨e, he, herror⟩ := ih (fun d hd => hes d (List.mem_cons_of_mem first hd)) hv h
        exact ⟨e, List.mem_cons_of_mem first he, herror⟩
      · cases h

variable (hterm : ∀ x, Preserves P (term i x)) (happly : ∀ name args, Preserves P (apply name args i))

include hterm happly

/-- The goals in a goal have been built if the goal has been built. -/
theorem exists_part_ok {e d : Expr} {g : Goal} (hw : P w) (h : goal apply i e w = .ok g u)
    (hd : d ∈ e.phrase.parts) : ∃ v g' v', P v ∧ goal apply i d v = .ok g' v' := by
  rw [goal_eq] at h
  cases he : e.phrase with
  | application name args => simp [he, Phrase.parts] at hd
  | print x => simp [he, Phrase.parts] at hd
  | equal x y => simp [he, Phrase.parts] at hd
  | refused error => simp [he, Phrase.parts] at hd
  | and es | or es =>
    rw [he] at h hd
    obtain ⟨gs, v, hgs, -⟩ := bind_ok_iff.mp h
    exact exists_goal_ok (fun e _ => preserves_goal hterm happly e) hw hgs hd

/-- What a goal calls has been applied if the goal has been built. -/
theorem application_of_calls {e : Expr} {name : String} (hcall : e.Calls name) {g : Goal} (hw : P w)
    (h : goal apply i e w = .ok g u) : ∃ args v g' v', P v ∧ apply name args i v = .ok g' v' := by
  induction hcall generalizing w u g with
  | @application e args he =>
    rw [goal_eq, he] at h
    exact ⟨args, w, g, u, hw, h⟩
  | part hd _ ih =>
    obtain ⟨v, g', v', hv, h⟩ := exists_part_ok hterm happly hw h hd
    exact ih hv h

/-- A goal that fails for its depth does so in the application of what it calls. -/
theorem calls_of_tooDeep {e : Expr} {deep : String} {k : Nat} (hw : P w)
    (h : goal apply i e w = .error (.ruleDepthExceeded deep k) u) :
    ∃ name args v, e.Calls name ∧ P v ∧
      apply name args i v = .error (.ruleDepthExceeded deep k) u := by
  induction e using Expr.phraseInduction generalizing w with
  | goal e ih =>
    rw [goal_eq] at h
    cases he : e.phrase with
    | application name args =>
      rw [he] at h
      exact ⟨name, args, w, .application he, hw, h⟩
    | print x =>
      rw [he] at h
      have hnever := (neverTooDeep_term i x).bind fun c => neverTooDeep_pure (Goal.print c)
      exact absurd h (hnever w deep k u)
    | equal x y =>
      rw [he] at h
      have hnever := (neverTooDeep_term i x).bind fun a =>
        (neverTooDeep_term i y).bind fun b => neverTooDeep_pure (Goal.unify a b)
      exact absurd h (hnever w deep k u)
    | refused error =>
      rw [he] at h
      cases h
      exact absurd rfl (Expr.ne_ruleDepthExceeded_of_refused he deep k)
    | and es | or es =>
      rw [he] at h
      obtain h | ⟨gs, v, -, h⟩ := bind_error_iff.mp h
      · obtain ⟨d, hd, v, hv, herror⟩ :=
          exists_goal_error (fun e _ => preserves_goal hterm happly e) hw h
        have hpart : d ∈ e.phrase.parts := by
          rw [he]
          exact hd
        obtain ⟨name, args, v', hcall, happly⟩ := ih d hpart hv herror
        exact ⟨name, args, v', .part hpart hcall, happly⟩
      · cases h

end Calls

/-! ## Paths of a build -/

/-- No path from a goal that was built is longer than the number of applications left. -/
theorem length_le_of_goal_ok {e : Expr} {g : Goal} (hw : w.RulesAmong rules)
    (h : goal (applyRule root limit left) i e w = .ok g u) {path : List String}
    (hpath : CallPath rules e path) : path.length ≤ left := by
  induction left generalizing i e g w u path with
  | zero =>
    cases hpath with
    | nil => exact Nat.le_refl 0
    | cons hcall hr hrest =>
      obtain ⟨args, v, g', v', -, h⟩ := application_of_calls (allRules_term i)
        (allRules_applyRule root limit 0 i) hcall hw h
      obtain ⟨n, _, _, hn, -⟩ := applyRule_ok h
      cases hn
  | succ left ih =>
    cases hpath with
    | nil => exact Nat.zero_le _
    | @cons _ name r path hcall hr hrest =>
      obtain ⟨args, v, g', v', hv, h⟩ := application_of_calls (allRules_term i)
        (allRules_applyRule root limit (left + 1) i) hcall hw h
      obtain ⟨n, r', z, hn, hl, -, hargs, hbody⟩ := applyRule_ok h
      cases hn
      -- The rule on the path is the one whose body was built.
      have hr' : some r = some r' := hr.symm.trans (hv.lookup hl)
      cases hr'
      have hz : z.RulesAmong rules :=
        (allRules_bindArguments _ i r.params args).of_ok hargs (hv.openChild root)
      exact Nat.succ_le_succ (ih hz hbody hrest)

/-- A goal that fails for its depth fails at the end of a path, which has as many rules before it as there
were applications left. -/
theorem callPath_of_goal_error {e : Expr} {deep : String} {k : Nat} (hw : w.RulesAmong rules)
    (h : goal (applyRule root limit left) i e w = .error (.ruleDepthExceeded deep k) u) :
    k = limit ∧ ∃ path, path.length = left ∧ CallPath rules e (path ++ [deep]) := by
  induction left generalizing i e w u with
  | zero =>
    obtain ⟨name, args, v, hcall, hv, h⟩ := calls_of_tooDeep (allRules_term i)
      (allRules_applyRule root limit 0 i) hw h
    obtain ⟨r, hl, ⟨-, rfl, rfl⟩ | ⟨n, _, hn, -⟩⟩ := applyRule_tooDeep h
    · exact ⟨rfl, [], rfl, .cons hcall (hv.lookup hl) (.nil r.body)⟩
    · cases hn
  | succ left ih =>
    obtain ⟨name, args, v, hcall, hv, h⟩ := calls_of_tooDeep (allRules_term i)
      (allRules_applyRule root limit (left + 1) i) hw h
    obtain ⟨r, hl, ⟨hn, -⟩ | ⟨n, z, hn, hargs, hbody⟩⟩ := applyRule_tooDeep h
    · cases hn
    · cases hn
      have hz : z.RulesAmong rules :=
        (allRules_bindArguments _ i r.params args).of_ok hargs (hv.openChild root)
      obtain ⟨hk, path, hlength, hpath⟩ := ih hz hbody
      exact ⟨hk, name :: path, congrArg Nat.succ hlength, .cons hcall (hv.lookup hl) hpath⟩

end Build

end GoalSearch
