import GoalSearch.Proofs.Build.Step
import Mathlib.Data.Prod.Lex

/-!
# The calls of a build

The build of a goal calls itself: for the goals in a conjunction or a disjunction, and for the body of a
rule, which is an expression of any size, so that only the limit ends the calls there. Every build
returns, with what `Build.goal` says and in no other way (`Build.returns`), and whatever the rules are, at
each call

    (limit - depth, size of the goal)

is less than at the call that makes it (`Call.Descends`).
-/

namespace GoalSearch

/-! ## Sizes -/

namespace Expr

mutual

/-- The number of atoms and lists in an expression. -/
def size : Expr → Nat
  | .atom _ => 1
  | .list items => 1 + sizeAll items

def sizeAll : List Expr → Nat
  | [] => 0
  | e :: later => size e + sizeAll later

end

theorem size_le_sizeAll {e : Expr} {es : List Expr} (h : e ∈ es) : e.size ≤ sizeAll es := by
  induction es with
  | nil => cases h
  | cons d later ih =>
    rw [sizeAll]
    rcases List.mem_cons.mp h with rfl | h
    · omega
    · have hle := ih h
      omega

/-- The goals in a goal are smaller. -/
theorem size_lt_of_mem_parts {e d : Expr} (h : d ∈ e.phrase.parts) : d.size < e.size := by
  cases e with
  | atom name => cases h
  | list items =>
    have hle := size_le_sizeAll (mem_items_of_mem_parts h)
    rw [size]
    omega

end Expr

namespace Build

/-! ## Calls -/

/-- A call of the build of a goal: in how many applications it is nested, what it is for, and the calls
that it makes. -/
inductive Call where
  | node (depth : Nat) (goal : Expr) (calls : List Call)

namespace Call

/-- The number of applications around a call. -/
def depth : Call → Nat
  | .node depth _ _ => depth

def goal : Call → Expr
  | .node _ goal _ => goal

def calls : Call → List Call
  | .node _ _ calls => calls

/-- A call is made by another one, directly or by a call that it makes, or is that call. -/
inductive Within : Call → Call → Prop where
  | self (c : Call) : Within c c
  | inside {c d e : Call} (hd : d ∈ e.calls) (h : Within c d) : Within c e

/-- What becomes less from a call to those that it makes. -/
def rank (limit : Nat) (c : Call) : Nat × Nat := (limit - c.depth, c.goal.size)

/-- The calls within a call are nested no deeper than the limit, and each makes calls of less rank. -/
def Descends (limit : Nat) (c : Call) : Prop :=
  ∀ caller : Call, caller.Within c → caller.depth ≤ limit ∧
    ∀ d ∈ caller.calls, Prod.Lex (· < ·) (· < ·) (d.rank limit) (caller.rank limit)

theorem descends_node {limit depth : Nat} {e : Expr} {calls : List Call} (hdepth : depth ≤ limit)
    (hcalls : ∀ d ∈ calls, d.Descends limit ∧
      Prod.Lex (· < ·) (· < ·) (d.rank limit) (limit - depth, e.size)) :
    (node depth e calls).Descends limit := by
  intro caller hwithin
  cases hwithin with
  | self => exact ⟨hdepth, fun d hd => (hcalls d hd).2⟩
  | inside hd h => exact (hcalls _ hd).1 caller h

theorem descends_leaf {limit depth : Nat} (e : Expr) (hdepth : depth ≤ limit) :
    (node depth e []).Descends limit := descends_node hdepth (by simp)

end Call

/-! ## Ways to return -/

/-- What a step has come to. -/
abbrev Outcome (α : Type) := EStateM.Result BuildError Workspace α

def Outcome.map {α β : Type} (f : α → β) : Outcome α → Outcome β
  | .ok a w => .ok (f a) w
  | .error e w => .error e w

/-- A frame for the application of a rule, in which the parameters have the cells of the arguments. -/
def instantiate (root caller : ScopeId) (r : Rule) (args : List Expr) : Build ScopeId := do
  let frame ← openFrame root
  bindArguments frame caller r.params args
  return frame

mutual

/-- The build of a goal at a depth returns an outcome, in one of these ways. A rule has the calls of the
build that are made inside the one it is about. -/
inductive Builds (root : ScopeId) (limit : Nat) :
    Nat → ScopeId → Expr → Workspace → Outcome Goal → Call → Prop where
  | refused {depth : Nat} {i : ScopeId} {e : Expr} {w : Workspace} {error : BuildError}
      (h : e.phrase = .refused error) :
      Builds root limit depth i e w (.error error w) (.node depth e [])
  | print {depth : Nat} {i : ScopeId} {e x : Expr} {w : Workspace} (h : e.phrase = .print x) :
      Builds root limit depth i e w (Outcome.map .print (term i x w)) (.node depth e [])
  | equal {depth : Nat} {i : ScopeId} {e x y : Expr} {w : Workspace} (h : e.phrase = .equal x y) :
      Builds root limit depth i e w
        ((do return .unify (← term i x) (← term i y) : Build Goal) w) (.node depth e [])
  | and {depth : Nat} {i : ScopeId} {e : Expr} {es : List Expr} {w : Workspace}
      {gs : Outcome (List Goal)} {calls : List Call} (h : e.phrase = .and es)
      (hes : BuildsAll root limit depth i es w gs calls) :
      Builds root limit depth i e w (gs.map .and) (.node depth e calls)
  | or {depth : Nat} {i : ScopeId} {e : Expr} {es : List Expr} {w : Workspace}
      {gs : Outcome (List Goal)} {calls : List Call} (h : e.phrase = .or es)
      (hes : BuildsAll root limit depth i es w gs calls) :
      Builds root limit depth i e w (gs.map .or) (.node depth e calls)
  /-- There is no such rule for as many arguments. -/
  | noRule {depth : Nat} {i : ScopeId} {e : Expr} {name : String} {args : List Expr} {w u : Workspace}
      {error : BuildError} (h : e.phrase = .application name args)
      (hr : rule i name args.length w = .error error u) :
      Builds root limit depth i e w (.error error u) (.node depth e [])
  | tooDeep {depth : Nat} {i : ScopeId} {e : Expr} {name : String} {args : List Expr}
      {w u : Workspace} {r : Rule} (h : e.phrase = .application name args)
      (hr : rule i name args.length w = .ok r u) (hdepth : limit ≤ depth) :
      Builds root limit depth i e w (.error (.ruleDepthExceeded name limit) u) (.node depth e [])
  | wrongArgument {depth : Nat} {i : ScopeId} {e : Expr} {name : String} {args : List Expr}
      {w u v : Workspace} {r : Rule} {error : BuildError} (h : e.phrase = .application name args)
      (hr : rule i name args.length w = .ok r u) (hdepth : depth < limit)
      (hargs : instantiate root i r args u = .error error v) :
      Builds root limit depth i e w (.error error v) (.node depth e [])
  | body {depth : Nat} {i frame : ScopeId} {e : Expr} {name : String} {args : List Expr}
      {w u v : Workspace} {r : Rule} {g : Outcome Goal} {call : Call}
      (h : e.phrase = .application name args) (hr : rule i name args.length w = .ok r u)
      (hdepth : depth < limit) (hargs : instantiate root i r args u = .ok frame v)
      (hbody : Builds root limit (depth + 1) frame r.body v g call) :
      Builds root limit depth i e w g (.node depth e [call])

/-- The builds of goals in order return an outcome, up to the first one that fails. -/
inductive BuildsAll (root : ScopeId) (limit : Nat) :
    Nat → ScopeId → List Expr → Workspace → Outcome (List Goal) → List Call → Prop where
  | nil {depth : Nat} {i : ScopeId} {w : Workspace} :
      BuildsAll root limit depth i [] w (.ok [] w) []
  | failed {depth : Nat} {i : ScopeId} {e : Expr} {later : List Expr} {w u : Workspace}
      {error : BuildError} {call : Call} (h : Builds root limit depth i e w (.error error u) call) :
      BuildsAll root limit depth i (e :: later) w (.error error u) [call]
  | cons {depth : Nat} {i : ScopeId} {e : Expr} {later : List Expr} {w u : Workspace} {g : Goal}
      {gs : Outcome (List Goal)} {call : Call} {calls : List Call}
      (h : Builds root limit depth i e w (.ok g u) call)
      (hlater : BuildsAll root limit depth i later u gs calls) :
      BuildsAll root limit depth i (e :: later) w (gs.map (g :: ·)) (call :: calls)

end

variable {α β : Type} {root i frame : ScopeId} {limit depth left : Nat} {e : Expr} {es later : List Expr}
  {name : String} {args : List Expr} {r : Rule} {w u v : Workspace} {error : BuildError}
  {apply : Application}

/-! ## Steps and their outcomes -/

theorem bind_of_ok {m : Build α} {f : α → Build β} {a : α} (h : m w = .ok a u) :
    (m >>= f) w = f a u := by
  show EStateM.bind m f w = f a u
  unfold EStateM.bind
  rw [h]

theorem bind_of_error {m : Build α} {f : α → Build β} (h : m w = .error error u) :
    (m >>= f) w = .error error u := by
  show EStateM.bind m f w = .error error u
  unfold EStateM.bind
  rw [h]

theorem bind_pure_eq_map (m : Build α) (f : α → β) (w : Workspace) :
    (m >>= fun a => pure (f a)) w = Outcome.map f (m w) := by
  cases h : m w with
  | ok a u => exact bind_of_ok h
  | error error u => exact bind_of_error h

theorem goals_cons_of_ok {g : Goal} (h : goal apply i e w = .ok g u) :
    goals apply i (e :: later) w = Outcome.map (g :: ·) (goals apply i later u) := by
  rw [goals, bind_of_ok h]
  exact bind_pure_eq_map (goals apply i later) (g :: ·) u

theorem goals_cons_of_error (h : goal apply i e w = .error error u) :
    goals apply i (e :: later) w = .error error u := by
  rw [goals, bind_of_error h]

/-- An application with its frame made in one step. -/
theorem applyRule_succ (root : ScopeId) (limit left : Nat) (name : String) (args : List Expr)
    (i : ScopeId) :
    applyRule root limit (left + 1) name args i =
      rule i name args.length >>= fun r =>
        instantiate root i r args >>= fun frame => goal (applyRule root limit left) frame r.body := by
  rw [applyRule]
  simp only [instantiate, bind_assoc, pure_bind]

theorem applyRule_of_noRule (hr : rule i name args.length w = .error error u) :
    applyRule root limit left name args i w = .error error u := by
  cases left with
  | zero => exact bind_of_error hr
  | succ n => exact bind_of_error hr

theorem applyRule_of_tooDeep (hr : rule i name args.length w = .ok r u) :
    applyRule root limit 0 name args i w = .error (.ruleDepthExceeded name limit) u :=
  bind_of_ok hr

theorem applyRule_of_wrongArgument (hr : rule i name args.length w = .ok r u)
    (hargs : instantiate root i r args u = .error error v) :
    applyRule root limit (left + 1) name args i w = .error error v := by
  rw [applyRule_succ, bind_of_ok hr, bind_of_error hargs]

theorem applyRule_of_body (hr : rule i name args.length w = .ok r u)
    (hargs : instantiate root i r args u = .ok frame v) :
    applyRule root limit (left + 1) name args i w =
      goal (applyRule root limit left) frame r.body v := by
  rw [applyRule_succ, bind_of_ok hr, bind_of_ok hargs]

/-! ## What a build of a goal says, case by case -/

/-- What the build of a goal at a depth says. -/
abbrev goalAt (root : ScopeId) (limit depth : Nat) : ScopeId → Expr → Build Goal :=
  goal (applyRule root limit (limit - depth))

abbrev goalsAt (root : ScopeId) (limit depth : Nat) : ScopeId → List Expr → Build (List Goal) :=
  goals (applyRule root limit (limit - depth))

theorem goalAt_refused (h : e.phrase = .refused error) :
    goalAt root limit depth i e w = .error error w := by
  rw [goalAt, goal_eq, h]
  rfl

theorem goalAt_print {x : Expr} (h : e.phrase = .print x) :
    goalAt root limit depth i e w = Outcome.map .print (term i x w) := by
  rw [goalAt, goal_eq, h]
  exact bind_pure_eq_map (term i x) Goal.print w

theorem goalAt_equal {x y : Expr} (h : e.phrase = .equal x y) :
    goalAt root limit depth i e w =
      (do return .unify (← term i x) (← term i y) : Build Goal) w := by
  rw [goalAt, goal_eq, h]

theorem goalAt_and (h : e.phrase = .and es) :
    goalAt root limit depth i e w = Outcome.map .and (goalsAt root limit depth i es w) := by
  rw [goalAt, goal_eq, h]
  exact bind_pure_eq_map _ Goal.and w

theorem goalAt_or (h : e.phrase = .or es) :
    goalAt root limit depth i e w = Outcome.map .or (goalsAt root limit depth i es w) := by
  rw [goalAt, goal_eq, h]
  exact bind_pure_eq_map _ Goal.or w

theorem goalAt_application (h : e.phrase = .application name args) :
    goalAt root limit depth i e w = applyRule root limit (limit - depth) name args i w := by
  rw [goalAt, goal_eq, h]

theorem goalAt_tooDeep (h : e.phrase = .application name args)
    (hr : rule i name args.length w = .ok r u) (hdepth : limit ≤ depth) :
    goalAt root limit depth i e w = .error (.ruleDepthExceeded name limit) u := by
  have hleft : limit - depth = 0 := by omega
  rw [goalAt_application h, hleft]
  exact applyRule_of_tooDeep hr

theorem goalAt_wrongArgument (h : e.phrase = .application name args)
    (hr : rule i name args.length w = .ok r u) (hdepth : depth < limit)
    (hargs : instantiate root i r args u = .error error v) :
    goalAt root limit depth i e w = .error error v := by
  have hleft : limit - depth = limit - (depth + 1) + 1 := by omega
  rw [goalAt_application h, hleft]
  exact applyRule_of_wrongArgument hr hargs

theorem goalAt_body (h : e.phrase = .application name args)
    (hr : rule i name args.length w = .ok r u) (hdepth : depth < limit)
    (hargs : instantiate root i r args u = .ok frame v) :
    goalAt root limit depth i e w = goalAt root limit (depth + 1) frame r.body v := by
  have hleft : limit - depth = limit - (depth + 1) + 1 := by omega
  rw [goalAt_application h, hleft]
  exact applyRule_of_body hr hargs

/-! ## Every build returns -/

/-- The build of a goal at a depth returns, with what `goal` says and in no other way, and its calls are
of less and less rank. -/
structure Returns (root : ScopeId) (limit depth : Nat) (e : Expr) : Prop where
  exists_call : ∀ i w, ∃ call, Builds root limit depth i e w (goalAt root limit depth i e w) call
  determined : ∀ {i w g call}, Builds root limit depth i e w g call →
    g = goalAt root limit depth i e w ∧ call.depth = depth ∧ call.goal = e ∧ call.Descends limit

theorem exists_calls (hes : ∀ e ∈ es, Returns root limit depth e) (i : ScopeId) (w : Workspace) :
    ∃ calls, BuildsAll root limit depth i es w (goalsAt root limit depth i es w) calls := by
  induction es generalizing w with
  | nil => exact ⟨[], .nil⟩
  | cons e later ih =>
    obtain ⟨he, hlater⟩ := List.forall_mem_cons.mp hes
    obtain ⟨call, hcall⟩ := he.exists_call i w
    cases hg : goalAt root limit depth i e w with
    | ok g u =>
      obtain ⟨calls, hcalls⟩ := ih hlater u
      rw [hg] at hcall
      rw [goalsAt, goals_cons_of_ok hg]
      exact ⟨call :: calls, .cons hcall hcalls⟩
    | error error u =>
      rw [hg] at hcall
      rw [goalsAt, goals_cons_of_error hg]
      exact ⟨[call], .failed hcall⟩

theorem determined_all (hes : ∀ e ∈ es, Returns root limit depth e) {gs : Outcome (List Goal)}
    {calls : List Call} (h : BuildsAll root limit depth i es w gs calls) :
    gs = goalsAt root limit depth i es w ∧
      ∀ d ∈ calls, d.depth = depth ∧ d.goal ∈ es ∧ d.Descends limit := by
  induction es generalizing w gs calls with
  | nil =>
    cases h
    exact ⟨rfl, by simp⟩
  | cons e later ih =>
    obtain ⟨he, hlater⟩ := List.forall_mem_cons.mp hes
    cases h with
    | failed hcall =>
      obtain ⟨hg, hdepth, hgoal, hdescends⟩ := he.determined hcall
      refine ⟨(goals_cons_of_error hg.symm).symm, List.forall_mem_singleton.mpr ⟨hdepth, ?_, hdescends⟩⟩
      rw [hgoal]
      exact List.mem_cons_self
    | cons hcall hcalls =>
      obtain ⟨hg, hdepth, hgoal, hdescends⟩ := he.determined hcall
      obtain ⟨rfl, hrest⟩ := ih hlater hcalls
      refine ⟨(goals_cons_of_ok hg.symm).symm, List.forall_mem_cons.mpr ⟨⟨hdepth, ?_, hdescends⟩, ?_⟩⟩
      · rw [hgoal]
        exact List.mem_cons_self
      · intro d hd
        obtain ⟨hdepth, hmem, hdescends⟩ := hrest d hd
        exact ⟨hdepth, List.mem_cons_of_mem e hmem, hdescends⟩

section Step

variable (hparts : ∀ d ∈ e.phrase.parts, Returns root limit depth d)
  (hbody : depth < limit → ∀ b, Returns root limit (depth + 1) b)

include hparts hbody

theorem exists_call_of_parts (i : ScopeId) (w : Workspace) :
    ∃ call, Builds root limit depth i e w (goalAt root limit depth i e w) call := by
  cases he : e.phrase with
  | refused error =>
    rw [goalAt_refused he]
    exact ⟨_, .refused he⟩
  | print x =>
    rw [goalAt_print he]
    exact ⟨_, .print he⟩
  | equal x y =>
    rw [goalAt_equal he]
    exact ⟨_, .equal he⟩
  | and es =>
    rw [he] at hparts
    obtain ⟨calls, hcalls⟩ := exists_calls hparts i w
    rw [goalAt_and he]
    exact ⟨_, .and he hcalls⟩
  | or es =>
    rw [he] at hparts
    obtain ⟨calls, hcalls⟩ := exists_calls hparts i w
    rw [goalAt_or he]
    exact ⟨_, .or he hcalls⟩
  | application name args =>
    cases hr : rule i name args.length w with
    | error error u =>
      rw [goalAt_application he, applyRule_of_noRule hr]
      exact ⟨_, .noRule he hr⟩
    | ok r u =>
      rcases Nat.lt_or_ge depth limit with hlt | hge
      · cases hargs : instantiate root i r args u with
        | error error v =>
          rw [goalAt_wrongArgument he hr hlt hargs]
          exact ⟨_, .wrongArgument he hr hlt hargs⟩
        | ok frame v =>
          obtain ⟨call, hcall⟩ := (hbody hlt r.body).exists_call frame v
          rw [goalAt_body he hr hlt hargs]
          exact ⟨_, .body he hr hlt hargs hcall⟩
      · rw [goalAt_tooDeep he hr hge]
        exact ⟨_, .tooDeep he hr hge⟩

theorem determined_of_parts (hdepth : depth ≤ limit) {g : Outcome Goal} {call : Call}
    (h : Builds root limit depth i e w g call) :
    g = goalAt root limit depth i e w ∧ call.depth = depth ∧ call.goal = e ∧ call.Descends limit := by
  -- The goals in a goal are smaller, at the same depth.
  have hsmaller : ∀ {es calls gs}, e.phrase.parts = es → BuildsAll root limit depth i es w gs calls →
      gs = goalsAt root limit depth i es w ∧ (Call.node depth e calls).Descends limit := by
    intro es calls gs hes hcalls
    obtain ⟨hgs, hcalls⟩ := determined_all (hes ▸ hparts) hcalls
    refine ⟨hgs, Call.descends_node hdepth fun d hd => ?_⟩
    obtain ⟨hd, hmem, hdescends⟩ := hcalls d hd
    rw [Call.rank, hd]
    exact ⟨hdescends, .right _ (Expr.size_lt_of_mem_parts (hes ▸ hmem))⟩
  cases h with
  | refused he => exact ⟨(goalAt_refused he).symm, rfl, rfl, Call.descends_leaf e hdepth⟩
  | print he => exact ⟨(goalAt_print he).symm, rfl, rfl, Call.descends_leaf e hdepth⟩
  | equal he => exact ⟨(goalAt_equal he).symm, rfl, rfl, Call.descends_leaf e hdepth⟩
  | and he hcalls =>
    obtain ⟨rfl, hdescends⟩ := hsmaller (by rw [he]; rfl) hcalls
    exact ⟨(goalAt_and he).symm, rfl, rfl, hdescends⟩
  | or he hcalls =>
    obtain ⟨rfl, hdescends⟩ := hsmaller (by rw [he]; rfl) hcalls
    exact ⟨(goalAt_or he).symm, rfl, rfl, hdescends⟩
  | noRule he hr =>
    refine ⟨?_, rfl, rfl, Call.descends_leaf e hdepth⟩
    rw [goalAt_application he, applyRule_of_noRule hr]
  | tooDeep he hr hge => exact ⟨(goalAt_tooDeep he hr hge).symm, rfl, rfl, Call.descends_leaf e hdepth⟩
  | wrongArgument he hr hlt hargs =>
    exact ⟨(goalAt_wrongArgument he hr hlt hargs).symm, rfl, rfl, Call.descends_leaf e hdepth⟩
  | body he hr hlt hargs hcall =>
    -- The body may be of any size, but it is one application deeper.
    obtain ⟨rfl, hd, -, hdescends⟩ := (hbody hlt _).determined hcall
    refine ⟨(goalAt_body he hr hlt hargs).symm, rfl, rfl, Call.descends_node hdepth ?_⟩
    refine List.forall_mem_singleton.mpr ⟨hdescends, ?_⟩
    rw [Call.rank, hd]
    exact .left _ _ (by omega)

end Step

/-- A build returns if those of bodies do, one application deeper. -/
theorem returns_of_bodies (hdepth : depth ≤ limit)
    (hbody : depth < limit → ∀ b, Returns root limit (depth + 1) b) (e : Expr) :
    Returns root limit depth e := by
  induction e using Expr.phraseInduction with
  | goal e ih => exact ⟨exists_call_of_parts ih hbody, determined_of_parts ih hbody hdepth⟩

/-- **Every build returns**, whatever the rules are. -/
theorem returns (hdepth : depth ≤ limit) (e : Expr) : Returns root limit depth e := by
  induction hleft : limit - depth generalizing depth e with
  | zero => exact returns_of_bodies hdepth (by omega) e
  | succ left ih => exact returns_of_bodies hdepth (fun hlt b => ih hlt b (by omega)) e

end Build

end GoalSearch
