import GoalSearch.Store.Unify

/-!
# Goals

A goal says what a search has to achieve, as a tree over the cells of a store. The search for a goal
is depth first and left to right. It is given what is to come after the goal: a function that goes
on from a store. An equation that is followed by failure is undone, so that the next alternative
starts from where the last one started; what has been printed stays printed.

A run tells whether the search succeeded, the store it ended in, and what happened on the way.
-/

namespace GoalSearch

inductive Goal where
  /-- Holds at once, whatever was to come. -/
  | terminal
  /-- Prints the symbol that a cell stands for, and fails if there is none. -/
  | print (cell : Cell)
  | unify (left right : Cell)
  /-- Holds if an alternative does, tried in order. -/
  | or (alternatives : List Goal)
  /-- The first goal with the second as what is to come, in the place of anything else. -/
  | compose (left right : Goal)
  /-- Holds if all goals do, one after the other. -/
  | and (conjuncts : List Goal)
deriving Repr, Inhabited

namespace Goal

def succeed : Goal := .and []

def fail : Goal := .or []

def either (g h : Goal) : Goal := .or [g, h]

/-- The goal that two goals hold, in order. -/
def both (g h : Goal) : Goal := .and [g, h]

def every {α : Type} (property : α → Goal) (values : List α) : Goal := .and (values.map property)

/-- The goal that all goals of some line hold. -/
def someLine (lines : List (List Goal)) : Goal := .or (lines.map .and)

end Goal

/-! ## Runs -/

inductive Event where
  | entered
  | printed (symbol : Symbol)
  /-- An alternative was begun, the first one with index 0. -/
  | tried (index : Nat)
  | aliased (cell target : Cell)
  | undone (binding : Binding)
deriving DecidableEq, Repr

/-- The course and the end of a search. -/
structure Run where
  /-- Whether the goal, and what was to come after it, held. -/
  succeeded : Bool
  store : Store
  /-- What happened, in order. -/
  events : List Event
  /-- How many nodes were entered inside each other at most. -/
  depth : Nat
deriving DecidableEq, Repr

namespace Run

def stop (succeeded : Bool) (s : Store) : Run := ⟨succeeded, s, [], 0⟩

def after (event : Event) (r : Run) : Run := { r with events := event :: r.events }

/-- A run inside a node that is entered first. -/
def enter (r : Run) : Run := { r with events := .entered :: r.events, depth := r.depth + 1 }

/-- A run, and if it fails a further one from the store it left. -/
def orElse (r : Run) (next : Store → Run) : Run :=
  if r.succeeded then r
  else
    let n := next r.store
    { n with events := r.events ++ n.events, depth := max r.depth n.depth }

/-- A run, and if it fails the undoing of a trail. -/
def orUndo (r : Run) (t : Trail) : Run :=
  if r.succeeded then r
  else
    { r with
      store := (t.undo r.store).2
      events := r.events ++ t.bindings.map .undone }

/-- The number of nodes entered. -/
def steps (r : Run) : Nat := r.events.count .entered

def printed (r : Run) : List Symbol :=
  r.events.filterMap fun
    | .printed symbol => some symbol
    | _ => none

/-! ### Entering a node -/

@[simp] theorem succeeded_after (event : Event) (r : Run) :
    (r.after event).succeeded = r.succeeded := rfl

@[simp] theorem store_after (event : Event) (r : Run) : (r.after event).store = r.store := rfl

@[simp] theorem succeeded_enter (r : Run) : r.enter.succeeded = r.succeeded := rfl

@[simp] theorem store_enter (r : Run) : r.enter.store = r.store := rfl

/-! ### Runs that fail -/

theorem orElse_of_succeeded {r : Run} (next : Store → Run) (h : r.succeeded = true) :
    r.orElse next = r := by
  simp [orElse, h]

theorem succeeded_orElse_of_failed {r : Run} (next : Store → Run) (h : r.succeeded = false) :
    (r.orElse next).succeeded = (next r.store).succeeded := by
  simp [orElse, h]

theorem store_orElse_of_failed {r : Run} (next : Store → Run) (h : r.succeeded = false) :
    (r.orElse next).store = (next r.store).store := by
  simp [orElse, h]

@[simp] theorem succeeded_orUndo (r : Run) (t : Trail) :
    (r.orUndo t).succeeded = r.succeeded := by
  unfold orUndo
  split <;> rfl

theorem store_orUndo_of_failed {r : Run} (t : Trail) (h : r.succeeded = false) :
    (r.orUndo t).store = (t.undo r.store).2 := by
  simp [orUndo, h]

end Run

/-! ## Searching for a goal -/

namespace Goal

/-- What the end of all goals does: it is entered and holds. -/
def finish (s : Store) : Run := (Run.stop true s).enter

mutual

/-- The search for a goal and then for what is to come. -/
def runThen : Goal → (Store → Run) → Store → Run
  | .terminal, _, s => (Run.stop true s).enter
  | .print cell, next, s =>
    match s.value cell with
    | some symbol => ((next s).after (.printed symbol)).enter
    | none => (Run.stop false s).enter
  | .unify left right, next, s =>
    match s.unify left right with
    | (.failed, s) => (Run.stop false s).enter
    | (.unchanged, s) => (next s).enter
    | (.aliased binding target, s) =>
      let trail := Trail.empty.record binding
      (((next s).orUndo trail).after (.aliased binding.cell target)).enter
  | .or alternatives, next, s => (runAny 0 alternatives next s).enter
  | .compose left right, _, s => (runThen left (runThen right finish) s).enter
  | .and conjuncts, next, s => (runAll conjuncts next s).enter

/-- The search for alternatives in turn, the first of which has the given index. -/
def runAny : Nat → List Goal → (Store → Run) → Store → Run
  | _, [], _, s => Run.stop false s
  | index, g :: later, next, s =>
    ((runThen g next s).orElse (runAny (index + 1) later next)).after (.tried index)

/-- The search for goals one after the other. Each is entered through a node that composes it with
the rest. -/
def runAll : List Goal → (Store → Run) → Store → Run
  | [], next, s => next s
  | g :: later, next, s => (runThen g (runAll later next) s).enter

end

def run (g : Goal) (s : Store) : Run := g.runThen finish s

/-- The search for a goal with another goal to come. -/
def invoke (g future : Goal) (s : Store) : Run := g.runThen future.run s

end Goal

end GoalSearch
