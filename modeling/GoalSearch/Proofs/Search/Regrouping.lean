import GoalSearch.Proofs.Search.Reordering

/-!
# Regrouping goals

It cannot be seen how goals are grouped. A conjunction inside a conjunction may be opened, and so may an
alternative among alternatives; a group of one goal may be left out; and goals that follow alternatives may
as well follow each of them. This can be done anywhere in a goal, and in what is to come after it:

    g.Regrouped g' → future.Regrouped future' →
      (g.invoke future s).succeeded = (g'.invoke future' s).succeeded ∧ …             (invoke_regrouped)

The searches do not enter the same nodes. What remains of a run without its nodes is its upshot, and the
upshot of a search depends on what is to come by the upshots of that only (`coincide_runThen`), so that a
goal can be replaced in any place if it can be replaced whatever is to come.
-/

namespace GoalSearch

/-! ## Upshots -/

/-- What a run comes to, apart from the nodes on its way. -/
structure Upshot where
  succeeded : Bool
  printed : List Symbol
  store : Store
deriving DecidableEq, Repr

namespace Upshot

def after (symbol : Symbol) (u : Upshot) : Upshot := { u with printed := symbol :: u.printed }

/-- An upshot, and if it is failure, that of a further run from the store that is left. -/
def orElse (u : Upshot) (later : Store → Upshot) : Upshot :=
  if u.succeeded then u
  else { later u.store with printed := u.printed ++ (later u.store).printed }

/-- An upshot, and if it is failure, the undoing of a trail. -/
def orUndo (u : Upshot) (t : Trail) : Upshot :=
  if u.succeeded then u else { u with store := (t.undo u.store).2 }

theorem orElse_assoc (u : Upshot) (later last : Store → Upshot) :
    (u.orElse later).orElse last = u.orElse fun s => (later s).orElse last := by
  unfold orElse
  cases hu : u.succeeded with
  | true => simp [hu]
  | false =>
    cases hlater : (later u.store).succeeded with
    | true => simp [hlater]
    | false => simp [hlater]

/-- Failing again changes nothing. -/
theorem orElse_fail (u : Upshot) : (u.orElse fun s => ⟨false, [], s⟩) = u := by
  unfold orElse
  cases hu : u.succeeded with
  | true => rfl
  | false => simp [← hu]

end Upshot

namespace Run

/-- What a run comes to. -/
def upshot (r : Run) : Upshot := ⟨r.succeeded, r.printed, r.store⟩

@[simp] theorem upshot_enter (r : Run) : r.enter.upshot = r.upshot := rfl

@[simp] theorem upshot_after_tried (index : Nat) (r : Run) :
    (r.after (.tried index)).upshot = r.upshot := rfl

@[simp] theorem upshot_after_aliased (cell target : Cell) (r : Run) :
    (r.after (.aliased cell target)).upshot = r.upshot := rfl

@[simp] theorem upshot_after_printed (symbol : Symbol) (r : Run) :
    (r.after (.printed symbol)).upshot = r.upshot.after symbol := rfl

@[simp] theorem upshot_orElse (r : Run) (next : Store → Run) :
    (r.orElse next).upshot = r.upshot.orElse fun s => (next s).upshot := by
  unfold Upshot.orElse upshot
  cases h : r.succeeded with
  | true => simp [orElse_of_succeeded next h, h]
  | false =>
    simp [succeeded_orElse_of_failed next h, store_orElse_of_failed next h,
      printed_orElse_of_failed h]

@[simp] theorem upshot_orUndo (r : Run) (t : Trail) : (r.orUndo t).upshot = r.upshot.orUndo t := by
  unfold Upshot.orUndo upshot
  rw [printed_orUndo]
  unfold orUndo
  cases hr : r.succeeded with
  | true => simp [hr]
  | false => simp

theorem orElse_upshot_stop (s : Store) (later : Store → Upshot) :
    (stop false s).upshot.orElse later = later s := rfl

end Run

/-- Two ways of going on come to the same from every store. -/
def Coincide (next next' : Store → Run) : Prop := ∀ s, (next s).upshot = (next' s).upshot

namespace Goal

variable {g g' : Goal} {gs hs : List Goal} {next next' : Store → Run} {s : Store}

/-! ## What is to come -/

/-- An equation sees what is to come only by what that comes to. -/
theorem coincide_unify (a b : Cell) (h : Coincide next next') :
    Coincide ((Goal.unify a b).runThen next) ((Goal.unify a b).runThen next') := by
  intro s
  rw [runThen, runThen]
  cases s.unify a b with
  | mk outcome t =>
    cases outcome with
    | failed => rfl
    | unchanged => exact h t
    | aliased binding target => simp [h t]

mutual

/-- **A search sees what is to come only by what that comes to.** -/
theorem coincide_runThen : ∀ (g : Goal) {next next' : Store → Run}, Coincide next next' →
    Coincide (g.runThen next) (g.runThen next')
  | .terminal, _, _, _ => by
    intro s
    rw [runThen, runThen]
  | .print c, next, next', h => by
    intro s
    rw [runThen, runThen]
    cases s.value c with
    | none => rfl
    | some symbol => simp [h s]
  | .unify a b, next, next', h => coincide_unify a b h
  | .or gs, next, next', h => by
    intro s
    rw [runThen, runThen]
    exact coincide_runAny 0 gs h s
  | .compose g g', _, _, _ => by
    intro s
    rw [runThen, runThen]
  | .and gs, next, next', h => by
    intro s
    rw [runThen, runThen]
    exact coincide_runAll gs h s

theorem coincide_runAny : ∀ (index : Nat) (gs : List Goal) {next next' : Store → Run},
    Coincide next next' → Coincide (runAny index gs next) (runAny index gs next')
  | index, [], _, _, _ => by
    intro s
    rw [runAny, runAny]
  | index, g :: later, next, next', h => by
    intro s
    have hlater := funext (coincide_runAny (index + 1) later h)
    rw [runAny, runAny, Run.upshot_after_tried, Run.upshot_after_tried, Run.upshot_orElse,
      Run.upshot_orElse, coincide_runThen g h s, hlater]

theorem coincide_runAll : ∀ (gs : List Goal) {next next' : Store → Run}, Coincide next next' →
    Coincide (runAll gs next) (runAll gs next')
  | [], next, next', h => by
    intro s
    rw [runAll, runAll]
    exact h s
  | g :: later, next, next', h => by
    intro s
    rw [runAll, runAll]
    exact coincide_runThen g (coincide_runAll later h) s

end

/-! ## Alternatives in turn -/

/-- The numbers of alternatives are no part of what a search comes to. -/
theorem upshot_runAny_index (index index' : Nat) (gs : List Goal) (next : Store → Run) (s : Store) :
    (runAny index gs next s).upshot = (runAny index' gs next s).upshot := by
  induction gs generalizing index index' s with
  | nil => rw [runAny, runAny]
  | cons g later ih =>
    have hlater : (fun t => (runAny (index + 1) later next t).upshot) =
        fun t => (runAny (index' + 1) later next t).upshot :=
      funext fun t => ih (index + 1) (index' + 1) t
    rw [runAny, runAny, Run.upshot_after_tried, Run.upshot_after_tried, Run.upshot_orElse,
      Run.upshot_orElse, hlater]

theorem upshot_runAny_cons (index : Nat) (g : Goal) (later : List Goal) (next : Store → Run)
    (s : Store) :
    (runAny index (g :: later) next s).upshot =
      (g.runThen next s).upshot.orElse fun t => (runAny index later next t).upshot := by
  have hlater : (fun t => (runAny (index + 1) later next t).upshot) =
      fun t => (runAny index later next t).upshot :=
    funext fun t => upshot_runAny_index (index + 1) index later next t
  rw [runAny, Run.upshot_after_tried, Run.upshot_orElse, hlater]

/-- Alternatives are tried like the first ones with the others in the case of failure. -/
theorem upshot_runAny_append (index : Nat) (gs hs : List Goal) (next : Store → Run) (s : Store) :
    (runAny index (gs ++ hs) next s).upshot =
      (runAny index gs next s).upshot.orElse fun t => (runAny index hs next t).upshot := by
  induction gs generalizing s with
  | nil => rw [List.nil_append, runAny, Run.orElse_upshot_stop]
  | cons g later ih =>
    simp only [List.cons_append, upshot_runAny_cons, ih, Upshot.orElse_assoc]

/-! ## Goals that can replace each other -/

/-- Two goals can replace each other: searches for them come to the same, whatever is to come. -/
def Interchangeable (g g' : Goal) : Prop := ∀ next, Coincide (g.runThen next) (g'.runThen next)

theorem interchangeable_nested_and (gs hs ks : List Goal) :
    Interchangeable (.and (gs ++ .and hs :: ks)) (.and (gs ++ hs ++ ks)) := by
  intro next s
  have hnested : Coincide (runAll (.and hs :: ks) next) (runAll (hs ++ ks) next) := by
    intro t
    rw [runAll, runThen, runAll_append, Run.upshot_enter, Run.upshot_enter]
  rw [runThen, runThen, runAll_append, List.append_assoc, runAll_append]
  exact coincide_runAll gs hnested s

theorem interchangeable_nested_or (gs hs ks : List Goal) :
    Interchangeable (.or (gs ++ .or hs :: ks)) (.or (gs ++ hs ++ ks)) := by
  intro next s
  simp only [runThen, Run.upshot_enter, upshot_runAny_append, upshot_runAny_cons,
    Upshot.orElse_assoc]

theorem interchangeable_single_and (g : Goal) : Interchangeable (.and [g]) g := by
  intro next s
  have hnext : runAll [] next = next := by
    funext t
    rw [runAll]
  rw [runThen, runAll, hnext, Run.upshot_enter, Run.upshot_enter]

theorem interchangeable_single_or (g : Goal) : Interchangeable (.or [g]) g := by
  intro next s
  have hrest : (fun t => (runAny 0 [] next t).upshot) = fun t => ⟨false, [], t⟩ := by
    funext t
    rw [runAny]
    rfl
  rw [runThen, Run.upshot_enter, upshot_runAny_cons, hrest, Upshot.orElse_fail]

/-- Goals that follow alternatives may as well follow each of them. -/
theorem interchangeable_distributed (gs hs : List Goal) :
    Interchangeable (.and (.or gs :: hs)) (.or (gs.map fun g => .and (g :: hs))) := by
  intro next s
  simp only [runThen, runAll, Run.upshot_enter]
  induction gs generalizing s with
  | nil => rw [List.map_nil, runAny, runAny]
  | cons g later ih =>
    have hlater := funext fun t => ih t
    have hg : ((Goal.and (g :: hs)).runThen next s).upshot =
        (g.runThen (runAll hs next) s).upshot := by
      rw [runThen, runAll, Run.upshot_enter, Run.upshot_enter]
    rw [List.map_cons, upshot_runAny_cons, upshot_runAny_cons, hg, hlater]

/-! ### In a place -/

theorem Interchangeable.or (h : Interchangeable g g') (gs hs : List Goal) :
    Interchangeable (.or (gs ++ g :: hs)) (.or (gs ++ g' :: hs)) := by
  intro next s
  have hg : (fun t => (g.runThen next t).upshot) = fun t => (g'.runThen next t).upshot :=
    funext (h next)
  simp only [runThen, Run.upshot_enter, upshot_runAny_append, upshot_runAny_cons, congrFun hg]

theorem Interchangeable.and (h : Interchangeable g g') (gs hs : List Goal) :
    Interchangeable (.and (gs ++ g :: hs)) (.and (gs ++ g' :: hs)) := by
  intro next s
  have hplace : Coincide (runAll (g :: hs) next) (runAll (g' :: hs) next) := by
    intro t
    rw [runAll, runAll]
    exact h (runAll hs next) t
  rw [runThen, runThen, runAll_append, runAll_append]
  exact coincide_runAll gs hplace s

theorem Interchangeable.compose_left (h : Interchangeable g g') (right : Goal) :
    Interchangeable (.compose g right) (.compose g' right) := by
  intro next s
  rw [runThen, runThen]
  exact h (right.runThen finish) s

theorem Interchangeable.compose_right (h : Interchangeable g g') (left : Goal) :
    Interchangeable (.compose left g) (.compose left g') := by
  intro next s
  rw [runThen, runThen]
  exact coincide_runThen left (h finish) s

/-! ## Regrouping -/

/-- One goal can be made from another one by grouping its parts in other ways, in any places. -/
inductive Regrouped : Goal → Goal → Prop where
  | refl (g : Goal) : Regrouped g g
  | symm {g g' : Goal} (h : Regrouped g g') : Regrouped g' g
  | trans {g g' g'' : Goal} (h : Regrouped g g') (h' : Regrouped g' g'') : Regrouped g g''
  /-- A conjunction inside a conjunction is opened. -/
  | nestedAnd (gs hs ks : List Goal) :
      Regrouped (.and (gs ++ .and hs :: ks)) (.and (gs ++ hs ++ ks))
  /-- Alternatives among alternatives are opened. -/
  | nestedOr (gs hs ks : List Goal) :
      Regrouped (.or (gs ++ .or hs :: ks)) (.or (gs ++ hs ++ ks))
  | singleAnd (g : Goal) : Regrouped (.and [g]) g
  | singleOr (g : Goal) : Regrouped (.or [g]) g
  /-- What follows alternatives is put behind each of them. -/
  | distributed (gs hs : List Goal) :
      Regrouped (.and (.or gs :: hs)) (.or (gs.map fun g => .and (g :: hs)))
  | or {g g' : Goal} (gs hs : List Goal) (h : Regrouped g g') :
      Regrouped (.or (gs ++ g :: hs)) (.or (gs ++ g' :: hs))
  | and {g g' : Goal} (gs hs : List Goal) (h : Regrouped g g') :
      Regrouped (.and (gs ++ g :: hs)) (.and (gs ++ g' :: hs))
  | composeLeft {g g' : Goal} (right : Goal) (h : Regrouped g g') :
      Regrouped (.compose g right) (.compose g' right)
  | composeRight {g g' : Goal} (left : Goal) (h : Regrouped g g') :
      Regrouped (.compose left g) (.compose left g')

theorem Regrouped.interchangeable (h : g.Regrouped g') : Interchangeable g g' := by
  induction h with
  | refl g => exact fun _ _ => rfl
  | symm _ ih => exact fun next s => (ih next s).symm
  | trans _ _ ih ih' => exact fun next s => (ih next s).trans (ih' next s)
  | nestedAnd gs hs ks => exact interchangeable_nested_and gs hs ks
  | nestedOr gs hs ks => exact interchangeable_nested_or gs hs ks
  | singleAnd g => exact interchangeable_single_and g
  | singleOr g => exact interchangeable_single_or g
  | distributed gs hs => exact interchangeable_distributed gs hs
  | or gs hs _ ih => exact ih.or gs hs
  | and gs hs _ ih => exact ih.and gs hs
  | composeLeft right _ ih => exact ih.compose_left right
  | composeRight left _ ih => exact ih.compose_right left

/-- **Regrouping cannot be seen.** A search has the same result, prints the same and ends in the same store
if the goals are grouped in other ways, in any places of the goal and of what is to come after it. Nothing
is asked of the aliases in the store. -/
theorem invoke_regrouped {future future' : Goal} (hg : g.Regrouped g')
    (hfuture : future.Regrouped future') (s : Store) :
    (g.invoke future s).succeeded = (g'.invoke future' s).succeeded ∧
      (g.invoke future s).printed = (g'.invoke future' s).printed ∧
      (g.invoke future s).store = (g'.invoke future' s).store := by
  have hupshot : (g.invoke future s).upshot = (g'.invoke future' s).upshot :=
    (coincide_runThen g (hfuture.interchangeable finish) s).trans (hg.interchangeable future'.run s)
  exact ⟨congrArg Upshot.succeeded hupshot, congrArg Upshot.printed hupshot,
    congrArg Upshot.store hupshot⟩

/-- The alternatives behind each other and what follows them, against what follows put behind each one. The
first alternative prints twice before what is to come fails. -/
theorem invoke_regrouped_alternatives :
    let s : Store := ⟨#[⟨some "X", .unbound⟩, ⟨none, .bound ⟨"a"⟩⟩, ⟨none, .bound ⟨"b"⟩⟩,
      ⟨some "Y", .aliasOf ⟨0⟩⟩]⟩
    let rest : List Goal := [.and [.print ⟨0⟩], .and []]
    let g : Goal := .and (.or [.and [.print ⟨1⟩, .unify ⟨0⟩ ⟨1⟩], .or [], .unify ⟨3⟩ ⟨2⟩] :: rest)
    let g' : Goal := .or [.and (.print ⟨1⟩ :: .unify ⟨0⟩ ⟨1⟩ :: rest), .and (.unify ⟨3⟩ ⟨2⟩ :: rest)]
    let future : Goal := .unify ⟨0⟩ ⟨2⟩
    let future' : Goal := .and [.or [future]]
    g.Regrouped g' ∧ future.Regrouped future' ∧ (g'.invoke future' s).succeeded = true ∧
      (g'.invoke future' s).printed = [⟨"a"⟩, ⟨"a"⟩, ⟨"b"⟩] ∧
      (g'.invoke future' s).store = s.setState ⟨0⟩ (.aliasOf ⟨2⟩) ∧
      (g.invoke future s).steps ≠ (g'.invoke future' s).steps := by
  intro s rest g g' future future'
  have hopened : Regrouped g (.and (.or [.and [.print ⟨1⟩, .unify ⟨0⟩ ⟨1⟩], .unify ⟨3⟩ ⟨2⟩] :: rest)) :=
    .and [] rest (.nestedOr [.and [.print ⟨1⟩, .unify ⟨0⟩ ⟨1⟩]] [] [.unify ⟨3⟩ ⟨2⟩])
  have hfirst : Regrouped (.and (.and [.print ⟨1⟩, .unify ⟨0⟩ ⟨1⟩] :: rest))
      (.and (.print ⟨1⟩ :: .unify ⟨0⟩ ⟨1⟩ :: rest)) :=
    .nestedAnd [] [.print ⟨1⟩, .unify ⟨0⟩ ⟨1⟩] rest
  have hg : g.Regrouped g' := hopened.trans ((Regrouped.distributed _ rest).trans (.or [] _ hfirst))
  have hfuture : future.Regrouped future' :=
    (Regrouped.singleOr future).symm.trans (Regrouped.singleAnd _).symm
  obtain ⟨hsucceeded, hprinted, hstore⟩ := invoke_regrouped hg hfuture s
  exact ⟨hg, hfuture, hsucceeded ▸ by decide, hprinted ▸ by decide, hstore ▸ by decide, by decide⟩

end Goal

end GoalSearch
