import GoalSearch.Goal.Build

/-!
# Outlines of goals

What a build makes of an expression, said without cells and scopes. In an outline each term is a token:
a constant, or a variable that is told by its name and by the frame in which it is new. Frame 0 has the
variables of the query, and each application of a rule opens the next frame, in which a parameter stands
for the token of its argument:

    outline rules limit e : Except BuildError Outline

A sketch of an outline keeps only two things in mind. One is how many frames there are. The other is
which variables the frame at work knows already; this decides which error is reported for a head that
names no rule, and whether a variable may have the name of a rule.
-/

namespace GoalSearch

/-- What a name in the place of a term stands for. -/
inductive Token where
  | constant (name : String)
  /-- A variable, by the number of the frame that it is new in. -/
  | var (frame : Nat) (name : String)
deriving DecidableEq, Repr

inductive Outline where
  | print (token : Token)
  | unify (left right : Token)
  | or (alternatives : List Outline)
  | and (conjuncts : List Outline)
deriving Repr, Inhabited

/-- What a sketch keeps in mind. -/
structure Draft where
  /-- The variables that the frame at work knows. -/
  known : List String
  /-- How many frames were opened. -/
  frames : Nat
deriving DecidableEq, Repr

abbrev Sketch (α : Type) := StateT Draft (Except BuildError) α

/-- A frame, and what its parameters stand for. -/
structure Frame where
  number : Nat
  params : List (String × Token)
deriving DecidableEq, Repr

/-- What a name stands for in a frame. -/
def Frame.token (f : Frame) (name : String) : Token :=
  if isVariableName name then (f.params.lookup name).getD (.var f.number name)
  else .constant name

namespace Sketch

/-! ## Terms -/

def term (rules : String → Option Rule) (f : Frame) : Expr → Sketch Token
  | .list items => throw (.expectedIdentifier (.list items))
  | .atom name => fun d =>
    if isVariableName name = false ∨ name ∈ d.known then .ok (f.token name, d)
    else if (rules name).isSome then .error (.expectedTerm name)
    else .ok (f.token name, { d with known := name :: d.known })

def terms (rules : String → Option Rule) (f : Frame) : List Expr → Sketch (List Token)
  | [] => return []
  | x :: later => do
    let first ← term rules f x
    let rest ← terms rules f later
    return first :: rest

/-! ## Goals -/

/-- How the application of a relation to arguments in a frame becomes an outline. -/
abbrev Application := String → List Expr → Frame → Sketch Outline

mutual

def goal (rules : String → Option Rule) (apply : Application) (f : Frame) : Expr → Sketch Outline
  | .atom name => apply name [] f
  | .list [] => throw .emptyGoal
  | .list (.list items :: _) => throw (.notARelation (.list items))
  | .list (.atom head :: args) =>
    match Keyword.ofText? head, args with
    | some .print, [x] => do
      let token ← term rules f x
      return .print token
    | some .print, args => throw (.arity head 1 args.length)
    | some .equal, [x, y] => do
      let left ← term rules f x
      let right ← term rules f y
      return .unify left right
    | some .equal, args => throw (.arity head 2 args.length)
    | some .and, args => do
      let conjuncts ← goals rules apply f args
      return .and conjuncts
    | some .or, args => do
      let alternatives ← goals rules apply f args
      return .or alternatives
    | _, args => apply head args f

def goals (rules : String → Option Rule) (apply : Application) (f : Frame) :
    List Expr → Sketch (List Outline)
  | [] => return []
  | e :: later => do
    let first ← goal rules apply f e
    let rest ← goals rules apply f later
    return first :: rest

end

/-! ## Rule applications -/

/-- The rule that a name stands for, if it takes as many arguments as given. -/
def rule (rules : String → Option Rule) (name : String) (argCount : Nat) : Sketch Rule := fun d =>
  if name ∈ d.known then .error (.notARelation (.atom name))
  else
    match rules name with
    | some r => if argCount = r.arity then .ok (r, d) else .error (.arity name r.arity argCount)
    | none => .error (.unknownRelation name)

/-- The number of a new frame. -/
def openFrame : Sketch Nat := fun d => .ok (d.frames, { d with frames := d.frames + 1 })

/-- A step in a frame that knows some names. The frame that was at work before still knows what it did
afterwards. -/
def inside {α : Type} (known : List String) (m : Sketch α) : Sketch α := fun d =>
  (m { d with known }).map fun (a, d') => (a, { d' with known := d.known })

/-- The application of rules with a number of nested applications left. -/
def applyRule (rules : String → Option Rule) (limit : Nat) : (left : Nat) → Application
  | 0, name, args, _ => do
    let _ ← rule rules name args.length
    throw (.ruleDepthExceeded name limit)
  | left + 1, name, args, f => do
    let r ← rule rules name args.length
    let number ← openFrame
    let tokens ← terms rules f args
    inside r.params (goal rules (applyRule rules limit left) ⟨number, r.params.zip tokens⟩ r.body)

end Sketch

/-- The frame of a query's own variables. -/
def Frame.query : Frame := ⟨0, []⟩

/-- The outline of a query's goal. -/
def outline (rules : String → Option Rule) (limit : Nat) (e : Expr) : Except BuildError Outline :=
  ((Sketch.goal rules (Sketch.applyRule rules limit limit) .query e).run' ⟨[], 1⟩)

end GoalSearch
