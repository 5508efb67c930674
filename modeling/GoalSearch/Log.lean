import GoalSearch.Expr
import GoalSearch.Text.Quoted

/-!
# Log entries

What is noted down of the work of an engine and a console. An entry belongs to a part of them and
has a level: `debug` for definitions, queries and lines of input, `trace` for the single steps of
building and searching.
-/

namespace GoalSearch

/-- How much detail a log entry is. -/
inductive LogLevel where
  | error
  | warn
  | info
  | debug
  | trace
deriving DecidableEq, Repr

namespace LogLevel

/-- The levels from the least to the most detailed count from one. -/
def rank : LogLevel → Nat
  | .error => 1
  | .warn => 2
  | .info => 3
  | .debug => 4
  | .trace => 5

def text : LogLevel → String
  | .error => "ERROR"
  | .warn => "WARN"
  | .info => "INFO"
  | .debug => "DEBUG"
  | .trace => "TRACE"

end LogLevel

/-- An entry of the log. Cells and states are given by their labels. -/
inductive LogEntry where
  | ruleDefined (name : String) (arity : Nat)
  /-- The rule took the place of an earlier one. -/
  | ruleReplaced (name : String)
  | queryBuilt (goal : Expr) (names : Nat)
  | queryFinished (result : String) (steps : Nat)
  /-- Building made a cell for a variable. -/
  | variableCreated (cell : String)
  /-- The search began an alternative. -/
  | alternativeTried (index : Nat)
  /-- The search made a cell an alias. -/
  | cellAliased (cell target : String)
  /-- The search put a cell back into an earlier state. -/
  | bindingUndone (cell restored : String)
  /-- The console began to wait for a line of an input that is no terminal. -/
  | lineAwaited
deriving Repr

namespace LogEntry

def level : LogEntry → LogLevel
  | .ruleDefined .. | .ruleReplaced .. | .queryBuilt .. | .queryFinished .. | .lineAwaited => .debug
  | .variableCreated .. | .alternativeTried .. | .cellAliased .. | .bindingUndone .. => .trace

/-- The part of the engine or the console that an entry comes from. -/
def target : LogEntry → String
  | .ruleDefined .. | .ruleReplaced .. | .queryBuilt .. | .queryFinished .. =>
    "kanren_cps::interpreter"
  | .variableCreated .. => "kanren_cps::build"
  | .alternativeTried .. => "kanren_cps::core::continuation"
  | .cellAliased .. => "kanren_cps::core::unification"
  | .bindingUndone .. => "kanren_cps::core::trail"
  | .lineAwaited => "rustyline"

/-- The names of what an entry says, of which all entries have a message. -/
def fields : LogEntry → List String
  | .ruleDefined .. => ["message", "rule", "arity"]
  | .ruleReplaced .. => ["message", "rule"]
  | .queryBuilt .. => ["message", "goal", "variables"]
  | .queryFinished .. => ["message", "result", "steps"]
  | .variableCreated .. => ["message", "cell"]
  | .alternativeTried .. => ["message", "index"]
  | .cellAliased .. => ["message", "cell", "target"]
  | .bindingUndone .. => ["message", "cell", "restored"]
  | .lineAwaited => ["message", "log.target", "log.module_path", "log.file", "log.line"]

def message : LogEntry → String
  | .ruleDefined name arity => "define rule=" ++ Text.quote name ++ " arity=" ++ toString arity
  | .ruleReplaced name => "replaced earlier definition rule=" ++ Text.quote name
  | .queryBuilt goal names =>
    "query built goal=" ++ goal.text ++ " variables=" ++ toString names
  | .queryFinished result steps =>
    "query finished result=" ++ result ++ " steps=" ++ toString steps
  | .variableCreated cell => "fresh variable cell=" ++ cell
  | .alternativeTried index => "try alternative index=" ++ toString index
  | .cellAliased cell target => "alias cell=" ++ cell ++ " target=" ++ target
  | .bindingUndone cell restored => "undo binding cell=" ++ cell ++ " restored=" ++ restored
  | .lineAwaited => "stdin is not a tty"

def line (e : LogEntry) : String := e.level.text ++ " " ++ e.target ++ ": " ++ e.message

end LogEntry

end GoalSearch
