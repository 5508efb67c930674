import GoalSearch.Proofs.Build.Calls

/-!
# More nested applications

A build that may nest applications more deeply does the same step by step, up to the point where the other
one stops for its depth:

    left ≤ left' → Persists (goal (applyRule root limit left) i e)
      (goal (applyRule root limit' left') i e)                                        (persists_goal_of_le)

What persists is the result, be it a goal or another error, and the workspace that is left.
-/

namespace GoalSearch

namespace Build

variable {α β : Type} {root i : ScopeId} {limit limit' left left' : Nat}

/-- A step is the same as another one, wherever the other one does not stop for its depth. -/
def Persists (m m' : Build α) : Prop :=
  ∀ w, (∃ name k u, m w = .error (.ruleDepthExceeded name k) u) ∨ m' w = m w

theorem Persists.refl (m : Build α) : Persists m m := fun _ => .inr rfl

/-- What stops for its depth may go on in any way. -/
theorem persists_of_tooDeep (name : String) (limit : Nat) (m : Build α) :
    Persists (throw (.ruleDepthExceeded name limit)) m :=
  fun w => .inl ⟨name, limit, w, rfl⟩

theorem Persists.bind {m m' : Build α} {f f' : α → Build β} (hm : Persists m m')
    (hf : ∀ a, Persists (f a) (f' a)) : Persists (m >>= f) (m' >>= f') := by
  intro w
  obtain ⟨name, k, u, h⟩ | h := hm w
  · exact .inl ⟨name, k, u, bind_error_iff.mpr (.inl h)⟩
  · cases hmw : m w with
    | error e u =>
      have hbind : (m >>= f) w = .error e u := bind_error_iff.mpr (.inl hmw)
      have hbind' : (m' >>= f') w = .error e u := bind_error_iff.mpr (.inl (h.trans hmw))
      exact .inr (hbind'.trans hbind.symm)
    | ok a u =>
      obtain ⟨name, k, v, hfa⟩ | hfa := hf a u
      · exact .inl ⟨name, k, v, bind_error_iff.mpr (.inr ⟨a, u, hmw, hfa⟩)⟩
      · refine .inr ?_
        show EStateM.bind m' f' w = EStateM.bind m f w
        unfold EStateM.bind
        rw [h, hmw]
        exact hfa

section Goals

variable {apply apply' : Application}

theorem persists_goals {es : List Expr}
    (hes : ∀ e ∈ es, Persists (goal apply i e) (goal apply' i e)) :
    Persists (goals apply i es) (goals apply' i es) := by
  induction es with
  | nil =>
    rw [goals, goals]
    exact .refl _
  | cons e later ih =>
    rw [goals, goals]
    refine (hes e List.mem_cons_self).bind fun g => ?_
    exact (ih fun d hd => hes d (List.mem_cons_of_mem e hd)).bind fun rest => .refl _

theorem persists_goal
    (happly : ∀ name args, Persists (apply name args i) (apply' name args i)) (e : Expr) :
    Persists (goal apply i e) (goal apply' i e) := by
  induction e using Expr.phraseInduction with
  | goal e ih =>
    rw [goal_eq, goal_eq]
    cases he : e.phrase with
    | application name args => exact happly name args
    | print x => exact .refl _
    | equal x y => exact .refl _
    | refused error => exact .refl _
    | and es | or es =>
      rw [he] at ih
      exact (persists_goals ih).bind fun gs => .refl _

end Goals

theorem persists_applyRule (hle : left ≤ left') (name : String) (args : List Expr) (i : ScopeId) :
    Persists (applyRule root limit left name args i) (applyRule root limit' left' name args i) := by
  induction left generalizing left' name args i with
  | zero =>
    cases left' with
    | zero =>
      rw [applyRule, applyRule]
      exact (Persists.refl _).bind fun _ => persists_of_tooDeep name limit _
    | succ left' =>
      rw [applyRule, applyRule]
      exact (Persists.refl _).bind fun _ => persists_of_tooDeep name limit _
  | succ left ih =>
    cases left' with
    | zero => cases hle
    | succ left' =>
      rw [applyRule, applyRule]
      refine (Persists.refl _).bind fun r => ?_
      refine (Persists.refl _).bind fun frame => ?_
      refine (Persists.refl _).bind fun _ => ?_
      exact persists_goal (fun name args => ih (Nat.le_of_succ_le_succ hle) name args frame) r.body

/-- **More nested applications change nothing** but where a build stops for its depth. -/
theorem persists_goal_of_le (hle : left ≤ left') (i : ScopeId) (e : Expr) :
    Persists (goal (applyRule root limit left) i e) (goal (applyRule root limit' left') i e) :=
  persists_goal (fun name args => persists_applyRule hle name args i) e

end Build

/-- A build under a greater limit does the same, unless the limit has stopped it. -/
theorem buildGoal_eq_of_le {root i : ScopeId} {limit limit' : Nat} {e : Expr} {w : Workspace}
    (hle : limit ≤ limit')
    (h : ∀ name k u, buildGoal root limit i e w ≠ .error (.ruleDepthExceeded name k) u) :
    buildGoal root limit' i e w = buildGoal root limit i e w := by
  obtain ⟨name, k, u, hdeep⟩ | heq := Build.persists_goal_of_le hle i e w
  · exact absurd hdeep (h name k u)
  · exact heq

end GoalSearch
