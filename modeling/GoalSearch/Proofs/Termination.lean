import GoalSearch.Proofs.Build.CallTree
import GoalSearch.Proofs.Search.Nesting

/-!
# Building and searching come to an end

Neither the build of a goal nor the search for it recurses on parts of one tree: a build goes on in the
bodies of rules, which may call each other in a circle, and a search goes on in what is to come. Both
return all the same, and both are bounded (`returns_within_bounds`):

* in a build the pair of the applications left and the size of the goal is less at each call than at the
  call that makes it;
* in a search no more invocations are made inside each other than the goal and what is to come weigh
  together, and one.

That a function of this library has a value says nothing about this. So the calls are spelled out as rules
for what returns (`Build.Builds`, `Goal.Invokes`), where a call returns only when the calls inside it do,
and these rules give exactly the values of `buildGoal` and `Goal.invoke`.
-/

namespace GoalSearch

variable {g future : Goal} {s : Store}

/-- **Building and searching return within their bounds.** A build returns for any rules, limit and goal,
in one way. The calls in it are nested in no more applications than the limit, and each makes only calls of
less rank in the lexicographic order. An invocation returns from any store without cycles, in one way, and
nests no deeper than its goals weigh, and one. -/
theorem returns_within_bounds (root i : ScopeId) (limit : Nat) (e : Expr) (w : Workspace)
    (hs : s.Acyclic) (hg : ∀ c ∈ g.cells, s.Has c) (hfuture : ∀ c ∈ future.cells, s.Has c) :
    ((∃ call, Build.Builds root limit 0 i e w (buildGoal root limit i e w) call) ∧
      ∀ result call, Build.Builds root limit 0 i e w result call →
        result = buildGoal root limit i e w ∧
        ∀ caller : Build.Call, caller.Within call →
          caller.depth ≤ limit ∧
          ∀ d ∈ caller.calls, Prod.Lex (· < ·) (· < ·) (limit - d.depth, d.goal.size)
            (limit - caller.depth, caller.goal.size)) ∧
    (g.Invokes future s (g.invoke future s) ∧
      ∀ r, g.Invokes future s r →
        r = g.invoke future s ∧ r.depth ≤ g.weight + future.weight + 1) := by
  have hbuild : Build.Returns root limit 0 e := Build.returns (Nat.zero_le limit) e
  have hinvoke := Goal.invokes_iff_eq_invoke hs hg hfuture
  refine ⟨⟨hbuild.exists_call i w, fun result call hcall => ?_⟩, (hinvoke _).mpr rfl, fun r hr => ?_⟩
  · obtain ⟨hresult, -, -, hdescends⟩ := hbuild.determined hcall
    exact ⟨hresult, hdescends⟩
  · obtain rfl := (hinvoke r).mp hr
    exact ⟨rfl, g.depth_invoke_le future s⟩

/-- Two rules that call each other are refused where the limit ends their calls. The search comes to the
equation that is to come inside six other nodes, where it fails; the second alternative drops that equation
and ends the search. -/
theorem returns_within_bounds_mutual :
    let even : Rule := ⟨"even", ["X"],
      .list [.atom "or", .list [.atom ":=:", .atom "X", .atom "z"], .list [.atom "odd", .atom "X"]]⟩
    let odd : Rule := ⟨"odd", ["Y"], .list [.atom "even", .atom "Y"]⟩
    let table := (NameTable.empty.insert "even" (.rule even)).insert "odd" (.rule odd)
    let w : Workspace := ⟨.empty, (Scopes.empty.openRoot table).2⟩
    let s : Store := ⟨#[⟨some "X", .unbound⟩, ⟨none, .bound ⟨"a"⟩⟩, ⟨none, .bound ⟨"b"⟩⟩]⟩
    let g : Goal := .and [.or [.unify ⟨0⟩ ⟨1⟩, .compose (.unify ⟨0⟩ ⟨2⟩) .terminal], .print ⟨0⟩]
    let future : Goal := .unify ⟨0⟩ ⟨2⟩
    (∃ v call, Build.Builds ⟨0⟩ 3 0 ⟨0⟩ (.list [.atom "even", .atom "N"]) w
      (.error (.ruleDepthExceeded "odd" 3) v) call) ∧
    g.Invokes future s (g.invoke future s) ∧ (g.invoke future s).depth = 7 ∧
      g.weight + future.weight + 1 = 10 := by
  intro even odd table w s g future
  have hs : s.Acyclic := by decide
  have hg : ∀ c ∈ g.cells, s.Has c := show ∀ c ∈ g.cells, c.id < 3 by decide
  have hfuture : ∀ c ∈ future.cells, s.Has c := show ∀ c ∈ future.cells, c.id < 3 by decide
  obtain ⟨v, hv⟩ : ∃ v, buildGoal ⟨0⟩ 3 ⟨0⟩ (.list [.atom "even", .atom "N"]) w =
      .error (.ruleDepthExceeded "odd" 3) v := by
    unfold w table even odd
    exact ⟨_, rfl⟩
  obtain ⟨⟨⟨call, hcall⟩, -⟩, hinvokes, -⟩ := returns_within_bounds ⟨0⟩ ⟨0⟩ 3
    (.list [.atom "even", .atom "N"]) w hs hg hfuture
  rw [hv] at hcall
  exact ⟨⟨v, call, hcall⟩, hinvokes, by decide, by decide⟩

end GoalSearch
