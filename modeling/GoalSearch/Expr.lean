/-!
# Expressions

Programs, goals and terms are written as expressions: an atom, or a list of expressions between
parentheses. The written form puts one space between neighbouring items and nothing else.
-/

namespace GoalSearch

/-- An expression: an atom with its text, or a list. -/
inductive Expr where
  | atom (text : String)
  | list (items : List Expr)
deriving Repr, Inhabited

namespace Expr

def atomText? : Expr → Option String
  | .atom text => some text
  | .list _ => none

def items? : Expr → Option (List Expr)
  | .atom _ => none
  | .list items => some items

/-! ## Written form -/

mutual

/-- The characters of an expression: an atom as it is, a list between parentheses. -/
def chars : Expr → List Char
  | .atom text => text.toList
  | .list items => '(' :: (itemChars items ++ [')'])

/-- The characters of a list's items, with one space between neighbours. -/
def itemChars : List Expr → List Char
  | [] => []
  | item :: rest => chars item ++ laterItemChars rest

/-- The characters of the items after the first, each after a space. -/
def laterItemChars : List Expr → List Char
  | [] => []
  | item :: rest => ' ' :: (chars item ++ laterItemChars rest)

end

def text (e : Expr) : String := String.ofList e.chars

@[simp] theorem chars_atom (text : String) : (Expr.atom text).chars = text.toList := by
  rw [chars]

@[simp] theorem chars_list (items : List Expr) :
    (Expr.list items).chars = '(' :: (itemChars items ++ [')']) := by
  rw [chars]

/-- What holds of atoms, and of lists of whose items it holds, holds of every expression. -/
@[elab_as_elim]
theorem induction {motive : Expr → Prop} (atom : ∀ text, motive (.atom text))
    (list : ∀ items, (∀ e ∈ items, motive e) → motive (.list items)) (e : Expr) : motive e := by
  refine @Expr.rec motive (fun items => ∀ e ∈ items, motive e) atom list ?_ ?_ e
  · intro d hd
    cases hd
  · intro item rest hitem hrest d hd
    rcases List.mem_cons.mp hd with rfl | hd
    · exact hitem
    · exact hrest d hd

end Expr

end GoalSearch
