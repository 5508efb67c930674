import GoalSearch.Expr
import GoalSearch.Text.Character

/-!
# Rules

A rule defines a relation: a name, parameters and a body. The body stays an expression, and every
application of the rule builds it anew, with variables of its own.
-/

namespace GoalSearch

/-! ## Names

Names fall into variables and constants by their first character. A few names are keywords: they are
forms of the language and cannot name a rule.
-/

/-- Whether a name stands for a logic variable: it starts with an uppercase letter or `_`. Every
other name is a constant that stands for itself. -/
def isVariableName (name : String) : Bool :=
  match name.toList with
  | [] => false
  | c :: _ => Text.isUppercase c || c = '_'

inductive Keyword where
  | print
  | equal
  | and
  | or
  | define
  | query
deriving DecidableEq, Repr

namespace Keyword

def all : List Keyword := [.print, .equal, .and, .or, .define, .query]

def text : Keyword → String
  | .print => "print"
  | .equal => ":=:"
  | .and => "and"
  | .or => "or"
  | .define => "define"
  | .query => "query"

def ofText? (name : String) : Option Keyword := all.find? (·.text = name)

theorem text_injective {k l : Keyword} (h : k.text = l.text) : k = l := by
  cases k <;> cases l <;> first | rfl | simp [text] at h

theorem ofText?_text (k : Keyword) : ofText? k.text = some k := by cases k <;> rfl

theorem text_of_ofText? {name : String} {k : Keyword} (h : ofText? name = some k) :
    k.text = name := by
  have := List.find?_some h
  simpa using this

end Keyword

/-- Whether a name is the spelling of a keyword. -/
def isReserved (name : String) : Bool := (Keyword.ofText? name).isSome

/-- Whether a name at the head of a goal is a form of its own and no relation. -/
def isGoalForm (name : String) : Bool :=
  match Keyword.ofText? name with
  | some .print | some .equal | some .and | some .or => true
  | _ => false

theorem isGoalForm_of_not_isReserved {name : String} (h : isReserved name = false) :
    isGoalForm name = false := by
  have hkeyword : Keyword.ofText? name = none := by simpa [isReserved] using h
  simp [isGoalForm, hkeyword]

/-! ## Errors of forms and goals

What can be wrong with a form, a rule or a goal before anything of it runs. That a goal does not
hold is no error.
-/

inductive BuildError where
  /-- A form or a rule has another number of arguments than it expects. -/
  | arity (form : String) (expected found : Nat)
  /-- A list stands where a term has to be an identifier. -/
  | expectedIdentifier (found : Expr)
  /-- A variable's name that names a rule stands for a term. -/
  | expectedTerm (name : String)
  /-- The head of a goal cannot name a relation, or names a variable. -/
  | notARelation (found : Expr)
  /-- The head of a goal names nothing. -/
  | unknownRelation (name : String)
  | emptyGoal
  /-- Rule applications nest too deeply. -/
  | ruleDepthExceeded (name : String) (limit : Nat)
  /-- A keyword is to name a rule. -/
  | reservedName (name : String)
  | invalidParameter (rule : String) (param : Expr)
  | duplicateParameter (rule param : String)
  | malformedForm (form : Expr) (expected : String)
deriving Repr

def BuildError.message : BuildError → String
  | .arity form expected found =>
    "`" ++ form ++ "` expects " ++ toString expected ++ " argument(s), found " ++ toString found
  | .expectedIdentifier found => "expected an identifier, found `" ++ found.text ++ "`"
  | .expectedTerm name => "`" ++ name ++ "` names a relation, not a term"
  | .notARelation found => "`" ++ found.text ++ "` is not a relation"
  | .unknownRelation name => "unknown relation `" ++ name ++ "`"
  | .emptyGoal => "empty goal `()`"
  | .ruleDepthExceeded name limit =>
    "expanding `" ++ name ++ "` exceeded the rule depth limit of " ++ toString limit
  | .reservedName name => "`" ++ name ++ "` is a built-in form and cannot be redefined"
  | .invalidParameter rule param =>
    "parameter `" ++ param.text ++ "` of `" ++ rule ++ "` must be a variable identifier"
  | .duplicateParameter rule param =>
    "parameter `" ++ param ++ "` appears more than once in `" ++ rule ++ "`"
  | .malformedForm form expected =>
    "malformed form `" ++ form.text ++ "`: expected " ++ expected

/-! ## Definitions of relations -/

structure Rule where
  name : String
  /-- The names that stand for the arguments. -/
  params : List String
  /-- The goal that holds of the arguments. -/
  body : Expr
deriving Repr, Inhabited

namespace Rule

def arity (r : Rule) : Nat := r.params.length

/-- The names of a parameter list. Each has to be a variable that is not among the names before
it, `earlier`; the first parameter at fault decides. -/
def paramNames (rule : String) (earlier : List String) :
    List Expr → Except BuildError (List String)
  | [] => .ok []
  | param :: rest =>
    match param.atomText? with
    | none => .error (.invalidParameter rule param)
    | some name =>
      if !isVariableName name then .error (.invalidParameter rule param)
      else if name ∈ earlier then .error (.duplicateParameter rule name)
      else (paramNames rule (name :: earlier) rest).map (name :: ·)

/-- The rule with a name, parameters and a body, if the name is no keyword and the parameters are
different variables. -/
def make (name : String) (params : List Expr) (body : Expr) : Except BuildError Rule :=
  if isReserved name then .error (.reservedName name)
  else (paramNames name [] params).map fun names => ⟨name, names, body⟩

end Rule

end GoalSearch
