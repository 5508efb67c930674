import GoalSearch.Engine

/-!
# Interpreters

An interpreter answers the same forms as an engine, but it never starts anew. It has one workspace for
good. Its rules are the names of the outermost scope there. Every query opens a scope inside that one,
creates its cells in the one store and leaves everything where it is: its names, its cells, and also the
equations that a successful search has solved. A build that fails leaves what it has created until then.

What keeps queries apart all the same is that nothing leads from one scope to another scope beside it.
-/

namespace GoalSearch

/-- The result of a call, or the error that ended it, and what it has printed. -/
structure Reply (ε α : Type) where
  outcome : Except ε α
  printed : List Symbol

/-- An answer without its log. -/
def Answer.reply {ε α : Type} (answer : Answer ε α) : Reply ε α :=
  ⟨answer.outcome, answer.printed⟩

/-- Settings, and everything that definitions and queries have made. -/
structure Interpreter where
  settings : Settings
  workspace : Workspace

namespace Interpreter

/-- The number of the scope that holds the rules. -/
def globalScope : ScopeId := ⟨0⟩

def new (settings : Settings) : Interpreter :=
  ⟨settings, ⟨.empty, (Scopes.empty.openRoot .empty).2⟩⟩

def global (p : Interpreter) : NameTable Meaning := p.workspace.scopes.names globalScope

/-- Gives a name a rule, in the place of any rule that it had. -/
def define (p : Interpreter) (name : String) (params : List Expr) (body : Expr) :
    Reply BuildError Unit × Interpreter :=
  match Rule.make name params body with
  | .error e => (⟨.error e, []⟩, p)
  | .ok rule =>
    let scopes := p.workspace.scopes.bind globalScope name (.rule rule)
    (⟨.ok (), []⟩, { p with workspace := { p.workspace with scopes } })

def query (p : Interpreter) (goal : Expr) : Reply BuildError Report × Interpreter :=
  let (scope, scopes) := p.workspace.scopes.openChild globalScope
  match buildGoal globalScope p.settings.maxRuleDepth scope goal { p.workspace with scopes } with
  | .error e w => (⟨.error e, []⟩, { p with workspace := w })
  | .ok tree w =>
    let run := tree.run w.store
    (⟨.ok (Engine.report run), run.printed⟩,
      { p with workspace := { w with store := run.store } })

def eval (p : Interpreter) (form : Expr) : Reply BuildError Outcome × Interpreter :=
  match Form.ofExpr form with
  | .error e => (⟨.error e, []⟩, p)
  | .ok (.define name params body) =>
    let (reply, p) := p.define name params body
    (⟨reply.outcome.map fun _ => .defined name, reply.printed⟩, p)
  | .ok (.query goal) =>
    let (reply, p) := p.query goal
    (⟨reply.outcome.map .answered, reply.printed⟩, p)

/-- Evaluates forms in order, up to the first error. -/
def evalAll (p : Interpreter) : List Expr → Reply BuildError (List Outcome) × Interpreter
  | [] => (⟨.ok [], []⟩, p)
  | form :: later =>
    let (first, p) := p.eval form
    match first.outcome with
    | .error e => (⟨.error e, first.printed⟩, p)
    | .ok outcome =>
      let (rest, p) := evalAll p later
      (⟨rest.outcome.map (outcome :: ·), first.printed ++ rest.printed⟩, p)

/-- Evaluates the forms of a text in order, up to the first error. -/
def runSource (p : Interpreter) (source : String) : Reply ProgramError (List Outcome) × Interpreter :=
  match Expr.readAll source with
  | .error e => (⟨.error (.read e), []⟩, p)
  | .ok forms =>
    let (reply, p) := p.evalAll forms
    (⟨reply.outcome.mapError .build, reply.printed⟩, p)

/-! ## Calls -/

inductive Call where
  | eval (form : Expr)
  | define (name : String) (params : List Expr) (body : Expr)
  | query (goal : Expr)
  | runSource (source : String)

/-- The interpreter after a call, whatever came of it. -/
def call (p : Interpreter) : Call → Interpreter
  | .eval form => (p.eval form).2
  | .define name params body => (p.define name params body).2
  | .query goal => (p.query goal).2
  | .runSource source => (p.runSource source).2

def after (p : Interpreter) (calls : List Call) : Interpreter := calls.foldl call p

end Interpreter

end GoalSearch
