import GoalSearch.Proofs.Search.Restore

/-!
# The stream of a search

What depth first, left to right search comes to can be said without any going on, undoing or writing
in place: a goal turns a store into the list of all that the search would come across if it never
stopped, the answers among it. A goal after another one continues each of its answers; alternatives
stand one behind the other and all start from one store.

    (g.run s).findings = beforeAnswer (g.stream s) ++ [.tick, .answer t]           (findings_run)

where `t` is the first answer; without an answer the search comes across the whole stream. This is
proved for whatever is to come after the goal (`FollowsStream`), as long as failure leaves no trace.
-/

namespace GoalSearch

/-- What a search comes across. -/
inductive Finding where
  | tick
  | output (symbol : Symbol)
  /-- A store in which the goal holds. -/
  | answer (store : Store)
deriving DecidableEq, Repr

namespace Finding

def answer? : Finding → Option Store
  | .answer s => some s
  | _ => none

def output? : Finding → Option Symbol
  | .output symbol => some symbol
  | _ => none

def firstAnswer? (fs : List Finding) : Option Store := fs.findSome? answer?

/-- What comes before the first answer, or everything if there is none. -/
def beforeAnswer (fs : List Finding) : List Finding := fs.takeWhile fun f => f.answer?.isNone

def outputs (fs : List Finding) : List Symbol := fs.filterMap output?

def ticks (fs : List Finding) : Nat := fs.count .tick

/-- Findings with each answer continued. -/
def andThen (fs : List Finding) (next : Store → List Finding) : List Finding :=
  fs.flatMap fun
    | .answer s => next s
    | f => [f]

end Finding

/-! ## The goals that have a stream -/

namespace Goal

/-- A goal of printing, equations, alternatives and conjunctions. -/
inductive Plain : Goal → Prop where
  | print (cell : Cell) : Plain (.print cell)
  | unify (left right : Cell) : Plain (.unify left right)
  | or {alternatives : List Goal} (h : ∀ g ∈ alternatives, Plain g) : Plain (.or alternatives)
  | and {conjuncts : List Goal} (h : ∀ g ∈ conjuncts, Plain g) : Plain (.and conjuncts)

mutual

/-- Whether a goal is plain can be seen from its tree. -/
def decidablePlain : (g : Goal) → Decidable g.Plain
  | .terminal => isFalse nofun
  | .print cell => isTrue (.print cell)
  | .unify left right => isTrue (.unify left right)
  | .or alternatives =>
    @decidable_of_iff _ _ ⟨.or, fun | .or h => h⟩ (decidableForallPlain alternatives)
  | .compose _ _ => isFalse nofun
  | .and conjuncts => @decidable_of_iff _ _ ⟨.and, fun | .and h => h⟩ (decidableForallPlain conjuncts)

def decidableForallPlain : (gs : List Goal) → Decidable (∀ g ∈ gs, g.Plain)
  | [] => isTrue nofun
  | g :: later =>
    @decidable_of_iff _ _ List.forall_mem_cons.symm
      (@instDecidableAnd _ _ (decidablePlain g) (decidableForallPlain later))

end

instance (g : Goal) : Decidable g.Plain := decidablePlain g

mutual

/-- All that a search for a goal would come across from a store. A goal that is not plain has no
stream of its own. -/
def stream : Goal → Store → List Finding
  | .print cell, s =>
    .tick :: match s.value cell with
      | some symbol => [.output symbol, .answer s]
      | none => []
  | .unify left right, s =>
    .tick :: match s.unify left right with
      | (.failed, _) => []
      | (_, t) => [.answer t]
  | .or alternatives, s => .tick :: streamAny alternatives s
  | .and conjuncts, s => .tick :: streamAll conjuncts s
  | .terminal, _ | .compose _ _, _ => []

def streamAny : List Goal → Store → List Finding
  | [], _ => []
  | g :: later, s => stream g s ++ streamAny later s

/-- The stream of goals that hold one after the other, with one more node for each goal that is
begun. -/
def streamAll : List Goal → Store → List Finding
  | [], s => [.answer s]
  | g :: later, s => .tick :: Finding.andThen (stream g s) (streamAll later)

end

end Goal

/-! ## Cutting behind the first answer -/

namespace Finding

/-- Findings up to the first answer. -/
def cut : List Finding → List Finding
  | [] => []
  | .tick :: fs => .tick :: cut fs
  | .output symbol :: fs => .output symbol :: cut fs
  | .answer s :: _ => [.answer s]

theorem andThen_append (fs gs : List Finding) (next : Store → List Finding) :
    andThen (fs ++ gs) next = andThen fs next ++ andThen gs next := by
  unfold andThen
  rw [List.flatMap_append]

@[simp] theorem andThen_nil (next : Store → List Finding) : andThen [] next = [] := rfl

@[simp] theorem andThen_tick (fs : List Finding) (next : Store → List Finding) :
    andThen (.tick :: fs) next = .tick :: andThen fs next := rfl

@[simp] theorem andThen_output (symbol : Symbol) (fs : List Finding)
    (next : Store → List Finding) :
    andThen (.output symbol :: fs) next = .output symbol :: andThen fs next := rfl

@[simp] theorem andThen_answer (s : Store) (fs : List Finding) (next : Store → List Finding) :
    andThen (.answer s :: fs) next = next s ++ andThen fs next := rfl

theorem andThen_andThen (fs : List Finding) (next later : Store → List Finding) :
    andThen (andThen fs next) later = andThen fs fun s => andThen (next s) later := by
  induction fs with
  | nil => rfl
  | cons f fs ih =>
    cases f with
    | tick => simp only [andThen_tick, ih]
    | output symbol => simp only [andThen_output, ih]
    | answer s => simp only [andThen_answer, andThen_append, ih]

theorem outputs_append (fs gs : List Finding) : outputs (fs ++ gs) = outputs fs ++ outputs gs := by
  unfold outputs
  rw [List.filterMap_append]

theorem ticks_append (fs gs : List Finding) : ticks (fs ++ gs) = ticks fs + ticks gs := by
  unfold ticks
  rw [List.count_append]

@[simp] theorem firstAnswer?_tick (fs : List Finding) :
    firstAnswer? (.tick :: fs) = firstAnswer? fs := rfl

@[simp] theorem firstAnswer?_output (symbol : Symbol) (fs : List Finding) :
    firstAnswer? (.output symbol :: fs) = firstAnswer? fs := rfl

@[simp] theorem beforeAnswer_tick (fs : List Finding) :
    beforeAnswer (.tick :: fs) = .tick :: beforeAnswer fs := rfl

@[simp] theorem beforeAnswer_output (symbol : Symbol) (fs : List Finding) :
    beforeAnswer (.output symbol :: fs) = .output symbol :: beforeAnswer fs := rfl

/-- What stands behind a first answer does not count. -/
theorem cut_cut_append (fs gs : List Finding) : cut (cut fs ++ gs) = cut (fs ++ gs) := by
  induction fs with
  | nil => rfl
  | cons f fs ih =>
    cases f with
    | tick => simp only [cut, List.cons_append, ih]
    | output symbol => simp only [cut, List.cons_append, ih]
    | answer s => rfl

theorem cut_append_cut (fs gs : List Finding) : cut (fs ++ cut gs) = cut (fs ++ gs) := by
  induction fs with
  | nil =>
    have h := cut_cut_append gs []
    rwa [List.append_nil, List.append_nil] at h
  | cons f fs ih =>
    cases f with
    | tick => simp only [cut, List.cons_append, ih]
    | output symbol => simp only [cut, List.cons_append, ih]
    | answer s => rfl

/-- It does not matter whether the continuations are cut already. -/
theorem cut_andThen_cut (fs : List Finding) (next : Store → List Finding) :
    cut (andThen fs fun s => cut (next s)) = cut (andThen fs next) := by
  induction fs with
  | nil => rfl
  | cons f fs ih =>
    cases f with
    | tick => simp only [andThen_tick, cut, ih]
    | output symbol => simp only [andThen_output, cut, ih]
    | answer s =>
      simp only [andThen_answer]
      rw [cut_cut_append, ← cut_append_cut, ih, cut_append_cut]

/-- The end of all goals adds a node before the first answer and nothing else. -/
theorem cut_andThen_finish (fs : List Finding) :
    cut (andThen fs fun s => [.tick, .answer s]) =
      beforeAnswer fs ++
        match firstAnswer? fs with
        | some s => [.tick, .answer s]
        | none => [] := by
  induction fs with
  | nil => rfl
  | cons f fs ih =>
    cases f with
    | tick => simpa [cut] using ih
    | output symbol => simpa [cut] using ih
    | answer s => rfl

theorem firstAnswer?_beforeAnswer_append (fs gs : List Finding) :
    firstAnswer? (beforeAnswer fs ++ gs) = firstAnswer? gs := by
  induction fs with
  | nil => rfl
  | cons f fs ih =>
    cases f with
    | tick => simpa using ih
    | output symbol => simpa using ih
    | answer s => rfl

theorem isSome_firstAnswer? (fs : List Finding) :
    (firstAnswer? fs).isSome = true ↔ ∃ s, Finding.answer s ∈ fs := by
  induction fs with
  | nil => simp [firstAnswer?]
  | cons f fs ih =>
    cases f with
    | tick =>
      rw [firstAnswer?_tick, ih]
      simp
    | output symbol =>
      rw [firstAnswer?_output, ih]
      simp
    | answer s => exact ⟨fun _ => ⟨s, List.mem_cons_self⟩, fun _ => rfl⟩

end Finding

/-! ## The findings of a run -/

namespace Run

open Finding

/-- What an event shows of the search: nodes and symbols, but no writes. -/
def finding? : Event → Option Finding
  | .entered => some .tick
  | .printed symbol => some (.output symbol)
  | .tried _ | .aliased _ _ | .undone _ => none

/-- What a run came across, with the store at its end as the answer if it succeeded. -/
def findings (r : Run) : List Finding :=
  r.events.filterMap finding? ++ if r.succeeded then [.answer r.store] else []

theorem findings_enter (r : Run) : r.enter.findings = .tick :: r.findings := rfl

theorem findings_after_printed (symbol : Symbol) (r : Run) :
    (r.after (.printed symbol)).findings = .output symbol :: r.findings := rfl

theorem findings_after_tried (index : Nat) (r : Run) :
    (r.after (.tried index)).findings = r.findings := rfl

theorem findings_after_aliased (cell target : Cell) (r : Run) :
    (r.after (.aliased cell target)).findings = r.findings := rfl

/-- No event is an answer. -/
theorem cut_filterMap_append (events : List Event) (fs : List Finding) :
    cut (events.filterMap finding? ++ fs) = events.filterMap finding? ++ cut fs := by
  induction events with
  | nil => rfl
  | cons event events ih =>
    cases event with
    | entered => simpa [finding?, cut] using ih
    | printed symbol => simpa [finding?, cut] using ih
    | tried index => simpa [finding?, List.filterMap_cons] using ih
    | aliased cell target => simpa [finding?, List.filterMap_cons] using ih
    | undone binding => simpa [finding?, List.filterMap_cons] using ih

theorem cut_findings (r : Run) : cut r.findings = r.findings := by
  unfold findings
  rw [cut_filterMap_append]
  split <;> rfl

/-- A second run counts from where the first one started, if that has left no trace. -/
theorem findings_orElse {r : Run} {s : Store} (next : Store → Run)
    (h : r.succeeded = false → r.store = s) :
    (r.orElse next).findings = cut (r.findings ++ (next s).findings) := by
  cases hr : r.succeeded with
  | true =>
    rw [orElse_of_succeeded next hr]
    unfold findings
    rw [List.append_assoc, cut_filterMap_append, hr]
    rfl
  | false =>
    have hnext : (r.orElse next).findings =
        r.events.filterMap finding? ++ (next s).findings := by
      simp [orElse, findings, hr, h hr]
    have hfindings : r.findings = r.events.filterMap finding? := by
      simp [findings, hr]
    rw [hnext, hfindings, cut_filterMap_append, cut_findings]

theorem outputs_findings (r : Run) : outputs r.findings = r.printed := by
  have hevents : ∀ events : List Event,
      outputs (events.filterMap finding?) = (⟨true, r.store, events, 0⟩ : Run).printed := by
    intro events
    unfold outputs printed
    rw [List.filterMap_filterMap]
    congr 1
    funext event
    cases event <;> rfl
  unfold findings
  rw [outputs_append, hevents]
  split <;> simp [outputs, output?, printed]

theorem ticks_findings (r : Run) : ticks r.findings = r.steps := by
  have hevents : ∀ events : List Event,
      ticks (events.filterMap finding?) = events.count .entered := by
    intro events
    induction events with
    | nil => rfl
    | cons event events ih =>
      cases event <;> simp_all [finding?, ticks, List.filterMap_cons]
  unfold findings
  rw [ticks_append, hevents]
  split <;> simp [ticks, steps]

theorem firstAnswer?_findings (r : Run) :
    firstAnswer? r.findings = if r.succeeded then some r.store else none := by
  have hevents : ∀ events : List Event, firstAnswer? (events.filterMap finding?) = none := by
    intro events
    simp only [firstAnswer?, List.findSome?_eq_none_iff, List.mem_filterMap]
    rintro f ⟨event, -, hf⟩
    cases event <;> simp only [finding?, Option.some.injEq, reduceCtorEq] at hf <;> rw [← hf] <;> rfl
  unfold findings
  rw [firstAnswer?, List.findSome?_append, ← firstAnswer?, hevents]
  split <;> rfl

/-- Undoing shows nothing. -/
theorem findings_orUndo (r : Run) (t : Trail) : (r.orUndo t).findings = r.findings := by
  unfold orUndo
  split
  · rfl
  · next h =>
    have hundone : (t.bindings.map Event.undone).filterMap finding? = [] := by
      simp [finding?]
    simp [findings, h, hundone]

end Run

/-! ## The search follows the stream -/

namespace Goal

open Finding

/-- The search for a goal is its stream with each answer continued by what is to come, cut behind
the first answer. -/
def FollowsStream (g : Goal) : Prop :=
  ∀ {next : Store → Run}, Restores next → ∀ s,
    (g.runThen next s).findings = cut (andThen (g.stream s) fun t => (next t).findings)

theorem followsStream_print (cell : Cell) : FollowsStream (.print cell) := by
  intro next _ s
  rw [runThen, stream]
  cases s.value cell with
  | none => rfl
  | some symbol =>
    rw [Run.findings_enter, Run.findings_after_printed]
    simp [cut, Run.cut_findings]

theorem followsStream_unify (a b : Cell) : FollowsStream (.unify a b) := by
  intro next _ s
  have hcase := s.unify_case a b
  rw [runThen, stream]
  generalize s.unify a b = result at hcase
  cases hcase with
  | same _ => simp [Run.findings_enter, cut, Run.cut_findings]
  | equal _ _ => simp [Run.findings_enter, cut, Run.cut_findings]
  | clash _ _ _ => rfl
  | linkLeft _ _ =>
    simp [Store.link, Run.findings_enter, Run.findings_after_aliased, Run.findings_orUndo, cut,
      Run.cut_findings]
  | linkRight _ _ _ =>
    simp [Store.link, Run.findings_enter, Run.findings_after_aliased, Run.findings_orUndo, cut,
      Run.cut_findings]

/-- Alternatives that follow their streams do so in turn: the later ones start from the same store,
since failure leaves no trace. -/
theorem findings_runAny {gs : List Goal} (hgs : ∀ g ∈ gs, FollowsStream g)
    {next : Store → Run} (hnext : Restores next) (index : Nat) (s : Store) :
    (runAny index gs next s).findings =
      cut (andThen (streamAny gs s) fun t => (next t).findings) := by
  induction gs generalizing index with
  | nil => rfl
  | cons g later ih =>
    have hg := hgs g List.mem_cons_self hnext s
    have hlater := ih (fun h hh => hgs h (List.mem_cons_of_mem g hh)) (index + 1)
    rw [runAny, Run.findings_after_tried,
      Run.findings_orElse _ (restores_runThen g hnext s), hg, hlater, cut_cut_append,
      cut_append_cut, streamAny, andThen_append]

/-- Goals that follow their streams do so one after the other: each answer of the first one is
continued by the later ones, and only then by what is to come. -/
theorem findings_runAll {gs : List Goal} (hgs : ∀ g ∈ gs, FollowsStream g)
    {next : Store → Run} (hnext : Restores next) (s : Store) :
    (runAll gs next s).findings =
      cut (andThen (streamAll gs s) fun t => (next t).findings) := by
  induction gs generalizing s with
  | nil => simp [runAll, streamAll, Run.cut_findings]
  | cons g later ih =>
    have hg := hgs g List.mem_cons_self (restores_runAll later hnext) s
    have hlater := ih fun h hh => hgs h (List.mem_cons_of_mem g hh)
    simp only [hlater] at hg
    rw [runAll, Run.findings_enter, hg, cut_andThen_cut, streamAll, andThen_tick, andThen_andThen,
      cut]

/-- **The search is the stream.** -/
theorem Plain.followsStream {g : Goal} (hg : g.Plain) : FollowsStream g := by
  induction hg with
  | print cell => exact followsStream_print cell
  | unify a b => exact followsStream_unify a b
  | or _ ih =>
    intro next hnext s
    rw [runThen, Run.findings_enter, findings_runAny ih hnext, stream, andThen_tick, cut]
  | and _ ih =>
    intro next hnext s
    rw [runThen, Run.findings_enter, findings_runAll ih hnext, stream, andThen_tick, cut]

/-- What a search comes across is its stream up to the first answer, with the end of all goals
before the answer. -/
theorem findings_run {g : Goal} (hg : g.Plain) (s : Store) :
    (g.run s).findings =
      beforeAnswer (g.stream s) ++
        match firstAnswer? (g.stream s) with
        | some t => [.tick, .answer t]
        | none => [] := by
  have hfinish : ∀ t, (finish t).findings = [.tick, .answer t] := fun _ => rfl
  rw [run, hg.followsStream restores_finish s]
  simp only [hfinish]
  exact cut_andThen_finish (g.stream s)

/-- The end of a run that succeeds is the first answer. -/
theorem Plain.answer_run {g : Goal} (hg : g.Plain) (s : Store) :
    (if (g.run s).succeeded then some (g.run s).store else none) = firstAnswer? (g.stream s) := by
  rw [← Run.firstAnswer?_findings, findings_run hg s, firstAnswer?_beforeAnswer_append]
  cases firstAnswer? (g.stream s) <;> rfl

theorem Plain.succeeded_run {g : Goal} (hg : g.Plain) (s : Store) :
    (g.run s).succeeded = (firstAnswer? (g.stream s)).isSome := by
  rw [← hg.answer_run s]
  cases (g.run s).succeeded <;> rfl

/-- **Depth first, left to right.** A search succeeds exactly if the goal's stream has an answer. It
prints the outputs before the first answer, ends in the store of that answer, or where it began if
there is none, and enters the nodes before it and the end of all goals. -/
theorem run_follows_stream {g : Goal} (hg : g.Plain) (s : Store) :
    ((g.run s).succeeded = true ↔ ∃ t, Finding.answer t ∈ g.stream s) ∧
    (g.run s).printed = outputs (beforeAnswer (g.stream s)) ∧
    (g.run s).store = (firstAnswer? (g.stream s)).getD s ∧
    (g.run s).steps =
      ticks (beforeAnswer (g.stream s)) + if (firstAnswer? (g.stream s)).isSome then 1 else 0 := by
  have hrun := findings_run hg s
  refine ⟨?_, ?_, ?_, ?_⟩
  · rw [hg.succeeded_run, isSome_firstAnswer?]
  · rw [← Run.outputs_findings, hrun, outputs_append]
    cases firstAnswer? (g.stream s) <;> simp [outputs, output?]
  · rw [← hg.answer_run s]
    cases h : (g.run s).succeeded with
    | true => rfl
    | false => exact restores_run g s h
  · rw [← Run.ticks_findings, hrun, ticks_append]
    cases firstAnswer? (g.stream s) <;> simp [ticks]

/-- The first alternative prints, solves its equation and is undone, since the last equation fails;
what it printed stays. -/
theorem run_follows_stream_backtracking :
    let s : Store := ⟨#[⟨some "X", .unbound⟩, ⟨none, .bound ⟨"a"⟩⟩, ⟨none, .bound ⟨"b"⟩⟩]⟩
    let g : Goal := .and [.or [.and [.print ⟨1⟩, .unify ⟨0⟩ ⟨1⟩], .unify ⟨0⟩ ⟨2⟩], .print ⟨0⟩,
      .unify ⟨2⟩ ⟨0⟩]
    g.Plain ∧ (g.run s).succeeded = true ∧ (g.run s).printed = [⟨"a"⟩, ⟨"a"⟩, ⟨"b"⟩] ∧
      (g.run s).store = s.setState ⟨0⟩ (.aliasOf ⟨2⟩) ∧ (g.run s).steps = 18 := by
  intro s g
  have hg : g.Plain := by
    refine .and ?_
    simp only [List.mem_cons, List.not_mem_nil, or_false]
    rintro _ (rfl | rfl | rfl)
    · refine .or ?_
      simp only [List.mem_cons, List.not_mem_nil, or_false]
      rintro _ (rfl | rfl)
      · refine .and ?_
        simp only [List.mem_cons, List.not_mem_nil, or_false]
        rintro _ (rfl | rfl)
        · exact .print ⟨1⟩
        · exact .unify ⟨0⟩ ⟨1⟩
      · exact .unify ⟨0⟩ ⟨2⟩
    · exact .print ⟨0⟩
    · exact .unify ⟨2⟩ ⟨0⟩
  obtain ⟨hsucceeded, hprinted, hstore, hsteps⟩ := run_follows_stream hg s
  refine ⟨hg, ?_, hprinted.trans (by decide), hstore.trans (by decide), hsteps.trans (by decide)⟩
  exact hsucceeded.mpr ⟨s.setState ⟨0⟩ (.aliasOf ⟨2⟩), by decide⟩

end Goal

end GoalSearch
