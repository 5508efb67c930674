import GoalSearch.Goal
import GoalSearch.Scope

/-!
# Building goals from expressions

A goal expression becomes a goal tree. Names in the place of terms become cells: a variable that is
new in its scopes gets a cell there, a constant a cell of its own. The application of a rule is
replaced by the rule's body, built in a scope of its own under the global scope, where the
parameters stand for the arguments' cells. How deeply applications may nest is limited, since a
recursive rule would go on for ever.

Building creates cells and names but never unifies and never prints. A build that fails leaves what
it has created until then.
-/

namespace GoalSearch

/-- Cells and the scopes that name them. -/
structure Workspace where
  store : Store
  scopes : Scopes
deriving Repr, Inhabited

/-- A step of building, which may fail and keeps its workspace in either case. -/
abbrev Build (α : Type) := EStateM BuildError Workspace α

namespace Build

/-! ## Terms -/

def newConstant (name : String) : Build Cell := fun w =>
  let (cell, store) := w.store.createBound ⟨name⟩
  .ok cell { w with store }

/-- A new cell for a variable, which a scope knows from then on. -/
def newVariable (scope : ScopeId) (name : String) : Build Cell := fun w =>
  let (cell, store) := w.store.createNamed name
  .ok cell ⟨store, w.scopes.bind scope name (.cell cell)⟩

def meaning? (scope : ScopeId) (name : String) : Build (Option Meaning) := fun w =>
  .ok (w.scopes.lookup scope name) w

/-- The cell of a name in the place of a term. -/
def resolve (scope : ScopeId) (name : String) : Build Cell := do
  match ← meaning? scope name with
  | some (.cell cell) => pure cell
  | some (.rule _) =>
    if isVariableName name then throw (.expectedTerm name) else newConstant name
  | none => if isVariableName name then newVariable scope name else newConstant name

def term (scope : ScopeId) : Expr → Build Cell
  | .atom name => resolve scope name
  | .list items => throw (.expectedIdentifier (.list items))

/-! ## Goals -/

/-- How the application of a relation to arguments in a scope becomes a goal. -/
abbrev Application := String → List Expr → ScopeId → Build Goal

mutual

/-- The goal of an expression, given how relations are applied. -/
def goal (apply : Application) (scope : ScopeId) : Expr → Build Goal
  | .atom name => apply name [] scope
  | .list [] => throw .emptyGoal
  | .list (.list items :: _) => throw (.notARelation (.list items))
  | .list (.atom head :: args) =>
    match Keyword.ofText? head, args with
    | some .print, [x] => do
      let cell ← term scope x
      return .print cell
    | some .print, args => throw (.arity head 1 args.length)
    | some .equal, [x, y] => do
      let left ← term scope x
      let right ← term scope y
      return .unify left right
    | some .equal, args => throw (.arity head 2 args.length)
    | some .and, args => do
      let conjuncts ← goals apply scope args
      return .and conjuncts
    | some .or, args => do
      let alternatives ← goals apply scope args
      return .or alternatives
    | _, args => apply head args scope

def goals (apply : Application) (scope : ScopeId) : List Expr → Build (List Goal)
  | [] => return []
  | e :: later => do
    let first ← goal apply scope e
    let rest ← goals apply scope later
    return first :: rest

end

/-! ## Rule applications -/

/-- The rule that a name stands for in a scope, if it takes as many arguments as given. -/
def rule (scope : ScopeId) (name : String) (argCount : Nat) : Build Rule := do
  match ← meaning? scope name with
  | some (.rule r) =>
    if argCount = r.arity then pure r else throw (.arity name r.arity argCount)
  | some (.cell _) => throw (.notARelation (.atom name))
  | none => throw (.unknownRelation name)

/-- A new scope under the global one. -/
def openFrame (globalScope : ScopeId) : Build ScopeId := fun w =>
  let (frame, scopes) := w.scopes.openChild globalScope
  .ok frame { w with scopes }

def bindCell (frame : ScopeId) (name : String) (cell : Cell) : Build Unit := fun w =>
  .ok () { w with scopes := w.scopes.bind frame name (.cell cell) }

/-- Gives parameters in a frame the cells of arguments in the caller's scope. -/
def bindArguments (frame caller : ScopeId) : List String → List Expr → Build Unit
  | param :: params, arg :: args => do
    let cell ← term caller arg
    bindCell frame param cell
    bindArguments frame caller params args
  | _, _ => return ()

/-- The application of rules with a number of nested applications left. -/
def applyRule (globalScope : ScopeId) (limit : Nat) : (left : Nat) → Application
  | 0, name, args, scope => do
    let _ ← rule scope name args.length
    throw (.ruleDepthExceeded name limit)
  | left + 1, name, args, scope => do
    let r ← rule scope name args.length
    let frame ← openFrame globalScope
    bindArguments frame scope r.params args
    goal (applyRule globalScope limit left) frame r.body

end Build

/-- Builds the goal of an expression in a scope, with rule applications nested at most as deeply as
the limit says. -/
def buildGoal (globalScope : ScopeId) (limit : Nat) (scope : ScopeId) (e : Expr) : Build Goal :=
  Build.goal (Build.applyRule globalScope limit limit) scope e

end GoalSearch
