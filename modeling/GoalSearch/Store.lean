/-!
# Stores of logic variables

A store holds cells, the logic variables of a search. A cell is unbound, bound to a symbol, or an
alias of another cell. Following aliases from a cell leads to the cell that represents it, and two
cells with one representative are the same variable.

Cells are numbered in the order in which they were created. A number beyond the store is no cell:
it reads as unbound, and writing to it changes nothing.
-/

namespace GoalSearch

/-! ## Symbols

A symbol is an atomic name: it stands for itself, two symbols are the same exactly when they are
spelled the same, and they are ordered by the code points of their spelling.
-/

structure Symbol where
  text : String
deriving DecidableEq, Repr

namespace Symbol

def le (a b : Symbol) : Bool := decide (a.text ≤ b.text)

/-- The different symbols of a list, in ascending order. -/
def sortedDistinct (symbols : List Symbol) : List Symbol :=
  symbols.eraseDups.mergeSort le

end Symbol

/-! ## Cells -/

/-- A logic variable, by its number in the store. -/
structure Cell where
  /-- How many cells are older. -/
  id : Nat
deriving DecidableEq, Repr

inductive CellState where
  | unbound
  | bound (symbol : Symbol)
  | aliasOf (target : Cell)
deriving DecidableEq, Repr

/-- A cell's name, if it has one, and what it holds. -/
structure Slot where
  /-- The name the cell was created with. -/
  name : Option String
  state : CellState
deriving DecidableEq, Repr

/-- The cells created so far, oldest first. -/
structure Store where
  slots : Array Slot
deriving DecidableEq, Repr

/-- What a cell stands for: a symbol, or the unbound cell that represents it. -/
inductive Resolved where
  | unbound (cell : Cell)
  | bound (symbol : Symbol)
deriving DecidableEq, Repr

namespace Store

def empty : Store := ⟨#[]⟩

instance : Inhabited Store := ⟨empty⟩

def size (s : Store) : Nat := s.slots.size

def cells (s : Store) : List Cell := (List.range s.size).map Cell.mk

def state (s : Store) (c : Cell) : CellState :=
  match s.slots[c.id]? with
  | some slot => slot.state
  | none => .unbound

def name? (s : Store) (c : Cell) : Option String := s.slots[c.id]?.bind Slot.name

def setState (s : Store) (c : Cell) (state : CellState) : Store :=
  ⟨s.slots.modify c.id fun slot => { slot with state := state }⟩

/-! ## Creating cells -/

/-- A new cell, with the store that holds it. -/
def create (s : Store) (name : Option String) (state : CellState) : Cell × Store :=
  (⟨s.size⟩, ⟨s.slots.push ⟨name, state⟩⟩)

def createUnnamed (s : Store) : Cell × Store := s.create none .unbound

def createNamed (s : Store) (name : String) : Cell × Store := s.create (some name) .unbound

/-- A new cell without a name, bound to a symbol. -/
def createBound (s : Store) (symbol : Symbol) : Cell × Store := s.create none (.bound symbol)

/-! ## Following aliases -/

/-- The cell reached by following at most `links` aliases. -/
def derefWithin (s : Store) : (links : Nat) → Cell → Cell
  | 0, c => c
  | links + 1, c =>
    match s.state c with
    | .aliasOf target => s.derefWithin links target
    | _ => c

/-- The cell that represents a cell. A chain of aliases without a cycle visits each cell at most
once, so it has no more links than the store has cells. -/
def deref (s : Store) (c : Cell) : Cell := s.derefWithin s.size c

def resolve (s : Store) (c : Cell) : Resolved :=
  match s.state (s.deref c) with
  | .bound symbol => .bound symbol
  | _ => .unbound (s.deref c)

def value (s : Store) (c : Cell) : Option Symbol :=
  match s.resolve c with
  | .bound symbol => some symbol
  | .unbound _ => none

/-- Whether a cell stands for no symbol yet. -/
def isUnbound (s : Store) (c : Cell) : Bool := (s.value c).isNone

def sameVariable (s : Store) (a b : Cell) : Bool := s.deref a = s.deref b

/-! ### New cells -/

@[simp] theorem size_create (s : Store) (name : Option String) (state : CellState) :
    (s.create name state).2.size = s.size + 1 := by
  simp [create, size]

theorem state_create_self (s : Store) (name : Option String) (state : CellState) :
    (s.create name state).2.state (s.create name state).1 = state := by
  simp [create, Store.state, size]

/-- The creation of a cell leaves the slots of the others alone. -/
theorem getElem?_slots_create_ne (s : Store) (name : Option String) (state : CellState) {c : Cell}
    (h : c ≠ (s.create name state).1) :
    (s.create name state).2.slots[c.id]? = s.slots[c.id]? := by
  have hid : c.id ≠ s.slots.size := fun e => h (by cases c; simp_all [create, size])
  simp [create, Array.getElem?_push, hid]

theorem state_create_ne (s : Store) (name : Option String) (state : CellState) {c : Cell}
    (h : c ≠ (s.create name state).1) : (s.create name state).2.state c = s.state c := by
  rw [Store.state, Store.state, getElem?_slots_create_ne s name state h]

theorem name?_create_self (s : Store) (name : Option String) (state : CellState) :
    (s.create name state).2.name? (s.create name state).1 = name := by
  simp [create, name?, size]

theorem name?_create_ne (s : Store) (name : Option String) (state : CellState) {c : Cell}
    (h : c ≠ (s.create name state).1) : (s.create name state).2.name? c = s.name? c := by
  rw [name?, name?, getElem?_slots_create_ne s name state h]

/-! ### Writing a cell -/

@[simp] theorem size_setState (s : Store) (c : Cell) (state : CellState) :
    (s.setState c state).size = s.size := by
  simp [setState, size]

theorem state_setState_self (s : Store) (c : Cell) (state : CellState) (h : c.id < s.size) :
    (s.setState c state).state c = state := by
  unfold size at h
  simp [setState, Store.state, h, Array.getElem_modify]

theorem state_setState_ne (s : Store) {c d : Cell} (state : CellState) (h : d ≠ c) :
    (s.setState c state).state d = s.state d := by
  have hid : c.id ≠ d.id := fun e => h (by cases c; cases d; simp_all)
  simp [setState, Store.state, Array.getElem?_modify, hid]

/-- Writing back what a cell held restores the store. -/
theorem setState_setState_state (s : Store) (c : Cell) (state : CellState) :
    (s.setState c state).setState c (s.state c) = s := by
  obtain ⟨slots⟩ := s
  simp only [setState, Store.state, Store.mk.injEq]
  apply Array.ext_getElem?
  intro i
  by_cases h : c.id = i
  · subst h
    cases hslot : slots[c.id]? <;> simp [Array.getElem?_modify, hslot]
  · simp [Array.getElem?_modify, h]

end Store

/-! ## Labels

How cells and what they hold are written for the eye: a cell by its name and number, a state by
what it holds.
-/

/-- A cell with a name and a number: the name and the number behind `#`, or the number behind `_`
if the cell has no name. -/
def Cell.label (name : Option String) (number : Nat) : String :=
  match name with
  | some name => name ++ "#" ++ toString number
  | none => "_" ++ toString number

def CellState.label (cellLabel : Cell → String) : CellState → String
  | .unbound => "unbound"
  | .bound symbol => symbol.text
  | .aliasOf target => "-> " ++ cellLabel target

end GoalSearch
