import GoalSearch.NameTable
import GoalSearch.Rule
import GoalSearch.Store

/-!
# Scopes

A scope gives meanings to names: a name stands for a cell or for a rule. Scopes nest. A name means
what the innermost scope around it says, and giving it a meaning writes to one scope only, so that
an inner scope can shadow an outer one without touching it.
-/

namespace GoalSearch

inductive Meaning where
  | cell (cell : Cell)
  | rule (rule : Rule)
deriving Repr

/-- A scope, by its number. -/
structure ScopeId where
  /-- How many scopes are older. -/
  id : Nat
deriving DecidableEq, Repr

/-- The names of a scope, and where it stands. -/
structure Scope where
  /-- What the scope itself says. -/
  names : NameTable Meaning
  /-- The scopes around it, innermost first. -/
  enclosing : List ScopeId
deriving Repr

/-- The scopes opened so far, oldest first. -/
structure Scopes where
  scopes : Array Scope
deriving Repr

namespace Scopes

def empty : Scopes := ⟨#[]⟩

instance : Inhabited Scopes := ⟨empty⟩

/-- The names that a scope itself gives meaning to. -/
def names (ss : Scopes) (i : ScopeId) : NameTable Meaning :=
  match ss.scopes[i.id]? with
  | some scope => scope.names
  | none => .empty

/-- The scopes around a scope, innermost first. -/
def enclosing (ss : Scopes) (i : ScopeId) : List ScopeId :=
  match ss.scopes[i.id]? with
  | some scope => scope.enclosing
  | none => []

/-- A scope and the scopes around it, innermost first. -/
def chain (ss : Scopes) (i : ScopeId) : List ScopeId := i :: ss.enclosing i

/-- The meaning of a name, as the innermost scope has it. -/
def lookup (ss : Scopes) (i : ScopeId) (name : String) : Option Meaning :=
  (ss.chain i).findSome? fun j => (ss.names j).find? name

/-- A new scope with names inside nothing. -/
def openRoot (ss : Scopes) (names : NameTable Meaning) : ScopeId × Scopes :=
  (⟨ss.scopes.size⟩, ⟨ss.scopes.push ⟨names, []⟩⟩)

/-- A new scope without names inside a scope. -/
def openChild (ss : Scopes) (parent : ScopeId) : ScopeId × Scopes :=
  (⟨ss.scopes.size⟩, ⟨ss.scopes.push ⟨.empty, ss.chain parent⟩⟩)

def bind (ss : Scopes) (i : ScopeId) (name : String) (meaning : Meaning) : Scopes :=
  ⟨ss.scopes.modify i.id fun scope => { scope with names := scope.names.insert name meaning }⟩

/-! ## Scopes that exist -/

/-- A scope among those opened. -/
def Has (ss : Scopes) (i : ScopeId) : Prop := i.id < ss.scopes.size

/-- Only a scope that exists gives a name a meaning. -/
theorem has_of_find? {ss : Scopes} {i : ScopeId} {name : String} {meaning : Meaning}
    (h : (ss.names i).find? name = some meaning) : ss.Has i := by
  refine Nat.lt_of_not_le fun hle => ?_
  simp [names, Array.getElem?_eq_none hle] at h

theorem lookup_of_not_has {ss : Scopes} {i : ScopeId} (h : ¬ss.Has i) (name : String) :
    ss.lookup i name = none := by
  have hscope : ss.scopes[i.id]? = none := Array.getElem?_eq_none (Nat.le_of_not_lt h)
  simp [lookup, chain, names, enclosing, hscope]

/-! ### A new scope -/

theorem not_has_openChild (ss : Scopes) (parent : ScopeId) : ¬ss.Has (ss.openChild parent).1 :=
  Nat.lt_irrefl _

theorem has_openChild (ss : Scopes) (parent : ScopeId) :
    (ss.openChild parent).2.Has (ss.openChild parent).1 := by
  simp [Has, openChild]

theorem Has.openChild {ss : Scopes} {i : ScopeId} (h : ss.Has i) (parent : ScopeId) :
    (ss.openChild parent).2.Has i := by
  unfold Has at h
  simp only [Has, Scopes.openChild, Array.size_push]
  omega

theorem has_of_has_openChild {ss : Scopes} {parent i : ScopeId}
    (h : (ss.openChild parent).2.Has i) (hne : i ≠ (ss.openChild parent).1) : ss.Has i := by
  have hid : i.id ≠ ss.scopes.size := fun e => hne (by cases i; simp_all [Scopes.openChild])
  simp only [Has, Scopes.openChild, Array.size_push] at h
  unfold Has
  omega

/-- A new scope has no names, and the others keep theirs. -/
@[simp] theorem names_openChild (ss : Scopes) (parent i : ScopeId) :
    (ss.openChild parent).2.names i = ss.names i := by
  by_cases h : i.id = ss.scopes.size
  · simp [names, openChild, h]
  · simp [names, openChild, Array.getElem?_push, h]

theorem enclosing_openChild (ss : Scopes) (parent i : ScopeId) :
    (ss.openChild parent).2.enclosing i =
      if i = (ss.openChild parent).1 then ss.chain parent else ss.enclosing i := by
  obtain ⟨n⟩ := i
  by_cases h : n = ss.scopes.size
  · simp [enclosing, openChild, h]
  · simp [enclosing, openChild, Array.getElem?_push, h]

/-! ### Writing a scope -/

@[simp] theorem has_bind {ss : Scopes} {i j : ScopeId} {name : String} {meaning : Meaning} :
    (ss.bind i name meaning).Has j ↔ ss.Has j := by
  simp [Has, bind]

@[simp] theorem enclosing_bind (ss : Scopes) (i j : ScopeId) (name : String)
    (meaning : Meaning) : (ss.bind i name meaning).enclosing j = ss.enclosing j := by
  unfold enclosing bind
  rw [Array.getElem?_modify]
  by_cases h : i.id = j.id
  · rw [if_pos h]
    cases ss.scopes[j.id]? <;> rfl
  · rw [if_neg h]

theorem names_bind_ne (ss : Scopes) {i j : ScopeId} (name : String) (meaning : Meaning)
    (h : j ≠ i) : (ss.bind i name meaning).names j = ss.names j := by
  have hid : i.id ≠ j.id := fun e => h (by cases i; cases j; simp_all)
  simp [names, bind, Array.getElem?_modify, hid]

theorem names_bind_self {ss : Scopes} {i : ScopeId} (name : String) (meaning : Meaning)
    (h : ss.Has i) : (ss.bind i name meaning).names i = (ss.names i).insert name meaning := by
  unfold Has at h
  simp [names, bind, Array.getElem_modify, h]

theorem find?_bind {ss : Scopes} {i : ScopeId} (h : ss.Has i) (j : ScopeId) (name other : String)
    (meaning : Meaning) :
    ((ss.bind i name meaning).names j).find? other =
      if j = i ∧ other = name then some meaning else (ss.names j).find? other := by
  by_cases hj : j = i
  · rw [hj, names_bind_self name meaning h, NameTable.find?_insert]
    simp
  · rw [names_bind_ne ss name meaning hj, if_neg fun hand => hj hand.1]

end Scopes

end GoalSearch
