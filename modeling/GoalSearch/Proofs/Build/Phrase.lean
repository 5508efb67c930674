import GoalSearch.Proofs.Build.Outline
import GoalSearch.Proofs.Substitution

/-!
# What goals say

An expression says one of a few things in the place of a goal, or nothing. Which one it is does not depend
on the scope it stands in (`Expr.phrase`). What a build does with a goal, and what a sketch does, follows
from that (`Build.goal_eq`, `Sketch.goal_eq`), so that a proof about goals has one case for each thing that
can be said and does not go into heads and numbers of arguments.
-/

namespace GoalSearch

/-- What an expression says in the place of a goal. -/
inductive Phrase where
  /-- A relation holds of arguments. -/
  | application (name : String) (args : List Expr)
  | print (x : Expr)
  | equal (x y : Expr)
  | and (es : List Expr)
  | or (es : List Expr)
  /-- Nothing, which is seen before any part of it is built. -/
  | refused (error : BuildError)

namespace Phrase

def parts : Phrase → List Expr
  | .and es | .or es => es
  | _ => []

/-- The terms of a goal, but for those of the goals in it. -/
def terms : Phrase → List Expr
  | .application _ args => args
  | .print x => [x]
  | .equal x y => [x, y]
  | _ => []

end Phrase

namespace Expr

/-- What a list says whose head is an atom, by the keyword that the head is. -/
def headed (head : String) (args : List Expr) (keyword : Option Keyword) : Phrase :=
  match keyword, args with
  | some .print, [x] => .print x
  | some .print, args => .refused (.arity head 1 args.length)
  | some .equal, [x, y] => .equal x y
  | some .equal, args => .refused (.arity head 2 args.length)
  | some .and, es => .and es
  | some .or, es => .or es
  | _, args => .application head args

def phrase : Expr → Phrase
  | .atom name => .application name []
  | .list [] => .refused .emptyGoal
  | .list (.list items :: _) => .refused (.notARelation (.list items))
  | .list (.atom head :: args) => headed head args (Keyword.ofText? head)

theorem mem_items_of_mem_parts {items : List Expr} {d : Expr}
    (h : d ∈ (Expr.list items).phrase.parts) : d ∈ items := by
  rcases items with _ | ⟨head | items, args⟩
  · cases h
  · simp only [phrase] at h
    generalize Keyword.ofText? head = keyword at h
    rcases keyword with _ | k
    · cases h
    · cases k with
      | print => rcases args with _ | ⟨x, _ | ⟨y, later⟩⟩ <;> cases h
      | equal => rcases args with _ | ⟨x, _ | ⟨y, _ | ⟨z, later⟩⟩⟩ <;> cases h
      | and => exact List.mem_cons_of_mem _ h
      | or => exact List.mem_cons_of_mem _ h
      | define => cases h
      | query => cases h
  · cases h

/-- What holds of a goal if it holds of the goals in it holds of every goal. -/
@[elab_as_elim]
theorem phraseInduction {motive : Expr → Prop}
    (goal : ∀ e : Expr, (∀ d ∈ e.phrase.parts, motive d) → motive e) (e : Expr) : motive e := by
  induction e using Expr.induction with
  | atom name => exact goal (.atom name) fun d hd => absurd hd List.not_mem_nil
  | list items ih => exact goal (.list items) fun d hd => ih d (mem_items_of_mem_parts hd)

/-- Nothing is refused for nesting too deeply before it is built. -/
theorem ne_ruleDepthExceeded_of_refused {e : Expr} {error : BuildError}
    (h : e.phrase = .refused error) (name : String) (limit : Nat) :
    error ≠ .ruleDepthExceeded name limit := by
  rintro rfl
  match e with
  | .atom _ => cases h
  | .list [] => cases h
  | .list (.list items :: _) => cases h
  | .list (.atom head :: args) =>
    simp only [phrase] at h
    generalize Keyword.ofText? head = keyword at h
    rcases keyword with _ | k
    · cases h
    · cases k with
      | print => rcases args with _ | ⟨x, _ | ⟨y, later⟩⟩ <;> cases h
      | equal => rcases args with _ | ⟨x, _ | ⟨y, _ | ⟨z, later⟩⟩⟩ <;> cases h
      | and => cases h
      | or => cases h
      | define => cases h
      | query => cases h

theorem mem_filterMap_atomText? {x : String} {es : List Expr} :
    x ∈ es.filterMap atomText? ↔ .atom x ∈ es := by
  rw [List.mem_filterMap]
  constructor
  · rintro ⟨e, he, hx⟩
    cases e with
    | list items => cases hx
    | atom y =>
      cases hx
      exact he
  · intro hx
    exact ⟨.atom x, hx, rfl⟩

/-- The names of terms are those of a goal's own terms and of the goals in it. -/
theorem mem_termNames_iff {e : Expr} (he : ∀ error, e.phrase ≠ .refused error) {x : String} :
    x ∈ e.termNames ↔ .atom x ∈ e.phrase.terms ∨ ∃ d ∈ e.phrase.parts, x ∈ d.termNames := by
  match e with
  | .atom _ => simp [termNames, phrase, Phrase.terms, Phrase.parts]
  | .list [] => exact absurd rfl (he _)
  | .list (.list items :: _) => exact absurd rfl (he _)
  | .list (.atom head :: args) =>
    have hargs : x ∈ args.filterMap atomText? ↔ .atom x ∈ args := mem_filterMap_atomText?
    rw [termNames_list]
    simp only [phrase] at he ⊢
    generalize Keyword.ofText? head = keyword at he ⊢
    rcases keyword with _ | k
    · simp [headed, Phrase.terms, Phrase.parts, hargs]
    · cases k with
      | print =>
        rcases args with _ | ⟨y, _ | ⟨_, _⟩⟩
        · exact absurd rfl (he _)
        · simp [headed, Phrase.terms, Phrase.parts, hargs]
        · exact absurd rfl (he _)
      | equal =>
        rcases args with _ | ⟨y, _ | ⟨z, _ | ⟨_, _⟩⟩⟩
        · exact absurd rfl (he _)
        · exact absurd rfl (he _)
        · simp [headed, Phrase.terms, Phrase.parts, hargs]
        · exact absurd rfl (he _)
      | and => simp [headed, Phrase.terms, Phrase.parts, mem_termNamesOfAll]
      | or => simp [headed, Phrase.terms, Phrase.parts, mem_termNamesOfAll]
      | define => simp [headed, Phrase.terms, Phrase.parts, hargs]
      | query => simp [headed, Phrase.terms, Phrase.parts, hargs]

theorem mem_termNames_of_mem_terms {e : Expr} {x : String} (hx : .atom x ∈ e.phrase.terms) :
    x ∈ e.termNames := by
  refine (mem_termNames_iff fun error he => ?_).mpr (.inl hx)
  rw [he] at hx
  cases hx

theorem mem_termNames_of_mem_parts {e d : Expr} (hd : d ∈ e.phrase.parts) {x : String}
    (hx : x ∈ d.termNames) : x ∈ e.termNames := by
  refine (mem_termNames_iff fun error he => ?_).mpr (.inr ⟨d, hd, hx⟩)
  rw [he] at hd
  cases hd

end Expr

/-- The build of a goal, by what the goal says. -/
theorem Build.goal_eq (apply : Build.Application) (i : ScopeId) (e : Expr) :
    Build.goal apply i e =
      match e.phrase with
      | .application name args => apply name args i
      | .print x => do return .print (← Build.term i x)
      | .equal x y => do return .unify (← Build.term i x) (← Build.term i y)
      | .and es => do return .and (← Build.goals apply i es)
      | .or es => do return .or (← Build.goals apply i es)
      | .refused error => throw error := by
  match e with
  | .atom _ => rfl
  | .list [] => rfl
  | .list (.list items :: _) => rfl
  | .list (.atom head :: args) =>
    unfold Build.goal
    simp only [Expr.phrase]
    generalize Keyword.ofText? head = keyword
    rcases keyword with _ | k
    · rfl
    · cases k with
      | print => rcases args with _ | ⟨x, _ | ⟨y, later⟩⟩ <;> rfl
      | equal => rcases args with _ | ⟨x, _ | ⟨y, _ | ⟨z, later⟩⟩⟩ <;> rfl
      | and => rfl
      | or => rfl
      | define => rfl
      | query => rfl

/-- The sketch of a goal, by what the goal says. -/
theorem Sketch.goal_eq (rules : String → Option Rule) (apply : Sketch.Application) (f : Frame)
    (e : Expr) :
    Sketch.goal rules apply f e =
      match e.phrase with
      | .application name args => apply name args f
      | .print x => do return .print (← Sketch.term rules f x)
      | .equal x y => do return .unify (← Sketch.term rules f x) (← Sketch.term rules f y)
      | .and es => do return .and (← Sketch.goals rules apply f es)
      | .or es => do return .or (← Sketch.goals rules apply f es)
      | .refused error => throw error := by
  match e with
  | .atom _ => rfl
  | .list [] => rfl
  | .list (.list items :: _) => rfl
  | .list (.atom head :: args) =>
    unfold Sketch.goal
    simp only [Expr.phrase]
    generalize Keyword.ofText? head = keyword
    rcases keyword with _ | k
    · rfl
    · cases k with
      | print => rcases args with _ | ⟨x, _ | ⟨y, later⟩⟩ <;> rfl
      | equal => rcases args with _ | ⟨x, _ | ⟨y, _ | ⟨z, later⟩⟩⟩ <;> rfl
      | and => rfl
      | or => rfl
      | define => rfl
      | query => rfl

end GoalSearch
