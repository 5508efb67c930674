import GoalSearch.Expr.Reader
import GoalSearch.Goal.Build
import GoalSearch.Goal
import GoalSearch.Log
import GoalSearch.Settings
import GoalSearch.Store

/-!
# The engine

An engine holds rules by name and answers queries about them. A program is a sequence of forms:
`(define Name (Params...) Body)` gives a name a rule, and `(query Goal)` asks whether a goal holds.
Every query is built in a scope of its own and searched in a store of its own, so that it leaves
nothing behind but the count of its cells.
-/

namespace GoalSearch

/-! ## Forms -/

inductive Form where
  | define (name : String) (params : List Expr) (body : Expr)
  | query (goal : Expr)
deriving Repr

def Form.defineShape : String := "(define Name (Params...) Body)"

def Form.queryShape : String := "(query Goal)"

def Form.keyword? : Expr → Option Keyword
  | .list (.atom head :: _) => Keyword.ofText? head
  | _ => none

def Form.ofExpr (e : Expr) : Except BuildError Form :=
  match Form.keyword? e, e with
  | some .define, .list [_, .atom name, .list params, body] => .ok (.define name params body)
  | some .define, _ => .error (.malformedForm e Form.defineShape)
  | some .query, .list [_, goal] => .ok (.query goal)
  | some .query, _ => .error (.malformedForm e Form.queryShape)
  | _, _ => .error (.malformedForm e "a `define` or `query` form")

/-! ## Answers -/

structure Report where
  holds : Bool
  /-- How many goal nodes the search entered. -/
  steps : Nat
deriving DecidableEq, Repr

def Report.result (r : Report) : String := if r.holds then "ok" else "not ok"

inductive Outcome where
  | defined (name : String)
  | answered (report : Report)
deriving DecidableEq, Repr

/-- What evaluation led to and what happened on the way. -/
structure Answer (ε α : Type) where
  /-- The result, or the error that ended the evaluation. -/
  outcome : Except ε α
  printed : List Symbol
  log : List LogEntry

inductive ProgramError where
  | read (error : ReadError)
  | build (error : BuildError)

def ProgramError.message : ProgramError → String
  | .read e => "parse error: " ++ e.message
  | .build e => "build error: " ++ e.message

/-! ## Rules -/

/-- Rules by name, and how to use them. -/
structure Engine where
  settings : Settings
  rules : NameTable Rule
  /-- How many cells the queries have created so far. -/
  created : Nat

namespace Engine

def new (settings : Settings) : Engine := ⟨settings, .empty, 0⟩

/-- Gives a name a rule, in the place of any rule that it had. -/
def define (engine : Engine) (name : String) (params : List Expr) (body : Expr) :
    Answer BuildError Unit × Engine :=
  match Rule.make name params body with
  | .error e => (⟨.error e, [], []⟩, engine)
  | .ok rule =>
    let replaced := if (engine.rules.find? name).isSome then [.ruleReplaced name] else []
    (⟨.ok (), [], .ruleDefined name rule.arity :: replaced⟩,
      { engine with rules := engine.rules.insert name rule })

/-! ## Queries -/

/-- The number of the scope that holds the rules of a query's workspace. -/
def rulesScope : ScopeId := ⟨0⟩

/-- The number of the scope of a query's own variables. -/
def queryScope : ScopeId := ⟨1⟩

/-- The workspace of a query: the rules in a global scope, and an empty scope inside it. -/
def workspace (engine : Engine) : Workspace :=
  let (rulesScope, scopes) := Scopes.empty.openRoot (engine.rules.mapValues .rule)
  ⟨.empty, (scopes.openChild rulesScope).2⟩

/-- The label of a query's cell, which counts the cells of earlier queries too. -/
def cellLabel (engine : Engine) (s : Store) (c : Cell) : String :=
  Cell.label (s.name? c) (engine.created + c.id)

/-- The log of building: the cells of variables are those with a name. -/
def buildLog (engine : Engine) (s : Store) : List LogEntry :=
  (s.cells.filter fun c => (s.name? c).isSome).map fun c => .variableCreated (engine.cellLabel s c)

def eventLog? (engine : Engine) (s : Store) : Event → Option LogEntry
  | .tried index => some (.alternativeTried index)
  | .aliased cell target =>
    some (.cellAliased (engine.cellLabel s cell) (engine.cellLabel s target))
  | .undone binding =>
    some (.bindingUndone (engine.cellLabel s binding.cell)
      (binding.previous.label (engine.cellLabel s)))
  | .entered | .printed _ => none

def report (r : Run) : Report := ⟨r.succeeded, r.steps⟩

/-- The engine after a query whose workspace is no longer needed. -/
def forget (engine : Engine) (w : Workspace) : Engine :=
  { engine with created := engine.created + w.store.size }

def query (engine : Engine) (goal : Expr) : Answer BuildError Report × Engine :=
  let depth := engine.settings.maxRuleDepth
  match (buildGoal rulesScope depth queryScope goal).run engine.workspace with
  | .error e w => (⟨.error e, [], engine.buildLog w.store⟩, engine.forget w)
  | .ok tree w =>
    let run := tree.run w.store
    let report := report run
    let log := engine.buildLog w.store
      ++ .queryBuilt goal (w.scopes.names queryScope).size
      :: run.events.filterMap (engine.eventLog? w.store)
      ++ [.queryFinished report.result report.steps]
    (⟨.ok report, run.printed, log⟩, engine.forget w)

/-! ## Programs -/

def eval (engine : Engine) (form : Expr) : Answer BuildError Outcome × Engine :=
  match Form.ofExpr form with
  | .error e => (⟨.error e, [], []⟩, engine)
  | .ok (.define name params body) =>
    let (answer, engine) := engine.define name params body
    ({ answer with outcome := answer.outcome.map fun _ => .defined name }, engine)
  | .ok (.query goal) =>
    let (answer, engine) := engine.query goal
    ({ answer with outcome := answer.outcome.map .answered }, engine)

/-- Evaluates forms in order, up to the first error. -/
def evalAll (engine : Engine) : List Expr → Answer BuildError (List Outcome) × Engine
  | [] => (⟨.ok [], [], []⟩, engine)
  | form :: later =>
    let (first, engine) := engine.eval form
    match first.outcome with
    | .error e => ({ first with outcome := .error e }, engine)
    | .ok outcome =>
      let (rest, engine) := evalAll engine later
      (⟨rest.outcome.map (outcome :: ·), first.printed ++ rest.printed, first.log ++ rest.log⟩,
        engine)

/-- Evaluates the forms of a text in order, up to the first error. -/
def runSource (engine : Engine) (source : String) :
    Answer ProgramError (List Outcome) × Engine :=
  match Expr.readAll source with
  | .error e => (⟨.error (.read e), [], []⟩, engine)
  | .ok forms =>
    let (answer, engine) := engine.evalAll forms
    ({ answer with outcome := answer.outcome.mapError .build }, engine)

end Engine

end GoalSearch
