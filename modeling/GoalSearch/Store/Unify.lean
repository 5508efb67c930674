import GoalSearch.Store

/-!
# Trails and equations

A binding records one write to a cell: which cell, and what it held before. A trail collects
bindings; undoing it reverts them, the latest first.

Unification makes two cells stand for the same by writing at most one cell: an unbound
representative becomes an alias of the other one. Two bound cells unify when their symbols are
equal. The left cell is tried first.
-/

namespace GoalSearch

/-! ## Trails -/

structure Binding where
  cell : Cell
  /-- What it held before. -/
  previous : CellState
deriving DecidableEq, Repr

/-- The store in which a binding's cell holds again what it held before. -/
def Store.revert (s : Store) (b : Binding) : Store := s.setState b.cell b.previous

structure Trail where
  /-- The bindings, latest first. -/
  bindings : List Binding
deriving DecidableEq, Repr

namespace Trail

def empty : Trail := ⟨[]⟩

instance : Inhabited Trail := ⟨empty⟩

def size (t : Trail) : Nat := t.bindings.length

def isEmpty (t : Trail) : Bool := t.bindings.isEmpty

def record (t : Trail) (b : Binding) : Trail := ⟨b :: t.bindings⟩

/-- The trail with more bindings, earliest first. -/
def extend (t : Trail) (bs : List Binding) : Trail := bs.foldl record t

/-- Reverts the bindings, latest first, and leaves an empty trail. -/
def undo (t : Trail) (s : Store) : Trail × Store := (empty, t.bindings.foldl Store.revert s)

end Trail

/-! ## Solving an equation between two cells -/

inductive Unification where
  /-- The cells stand for different symbols. -/
  | failed
  /-- The cells stood for the same already. -/
  | unchanged
  /-- The binding's cell became an alias of a target. -/
  | aliased (binding : Binding) (target : Cell)
deriving DecidableEq, Repr

namespace Unification

def isSuccess : Unification → Bool
  | .failed => false
  | _ => true

theorem isSuccess_iff {u : Unification} : u.isSuccess = true ↔ u ≠ .failed := by
  cases u <;> simp [isSuccess]

def binding? : Unification → Option Binding
  | .aliased binding _ => some binding
  | _ => none

end Unification

namespace Store

def link (s : Store) (cell target : Cell) : Unification × Store :=
  (.aliased ⟨cell, s.state cell⟩ target, s.setState cell (.aliasOf target))

def unify (s : Store) (a b : Cell) : Unification × Store :=
  let left := s.deref a
  let right := s.deref b
  if left = right then (.unchanged, s)
  else if s.state left = .unbound then s.link left right
  else if s.state right = .unbound then s.link right left
  else if s.state left = s.state right then (.unchanged, s)
  else (.failed, s)

/-- What solving an equation between two representatives can come to. -/
inductive UnifyCase (s : Store) (left right : Cell) : Unification × Store → Prop where
  | same (h : left = right) : UnifyCase s left right (.unchanged, s)
  /-- The left one is unbound. -/
  | linkLeft (hne : left ≠ right) (hl : s.state left = .unbound) :
      UnifyCase s left right (s.link left right)
  /-- Only the right one is unbound. -/
  | linkRight (hne : left ≠ right) (hl : s.state left ≠ .unbound)
      (hr : s.state right = .unbound) : UnifyCase s left right (s.link right left)
  | equal (hl : s.state left ≠ .unbound) (h : s.state left = s.state right) :
      UnifyCase s left right (.unchanged, s)
  | clash (hl : s.state left ≠ .unbound) (hr : s.state right ≠ .unbound)
      (h : s.state left ≠ s.state right) : UnifyCase s left right (.failed, s)

theorem unify_case (s : Store) (a b : Cell) :
    s.UnifyCase (s.deref a) (s.deref b) (s.unify a b) := by
  simp only [unify]
  split
  · next h => exact .same h
  · next hne =>
    split
    · next hl => exact .linkLeft hne hl
    · next hl =>
      split
      · next hr => exact .linkRight hne hl hr
      · next hr =>
        split
        · next h => exact .equal hl h
        · next h => exact .clash hl hr h

/-- Reverting the write of a link restores the store. -/
theorem undo_link (s : Store) (cell target : Cell) :
    ((Trail.empty.record ⟨cell, s.state cell⟩).undo (s.setState cell (.aliasOf target))).2 = s :=
  setState_setState_state s cell (.aliasOf target)

end Store

end GoalSearch
