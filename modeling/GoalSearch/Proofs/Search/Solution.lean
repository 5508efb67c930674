import GoalSearch.Proofs.Search.Stream
import GoalSearch.Proofs.Store.Valuation

/-!
# Searching is solving

A goal of equations, alternatives and conjunctions holds in a valuation or does not, whatever order
it is searched in. A search for it succeeds exactly if the goal holds in some valuation that the store
allows (`Equational.run_succeeded_iff`).

The stream of the goal carries the proof: its answers cover exactly the allowed valuations in which
the goal holds (`Covers`). Alternatives add up what their answers cover, and a goal after another one
cuts down what each answer covers.
-/

namespace GoalSearch

namespace Goal

/-- A goal of equations, alternatives and conjunctions. -/
inductive Equational : Goal → Prop where
  | unify (left right : Cell) : Equational (.unify left right)
  | or {alternatives : List Goal} (h : ∀ g ∈ alternatives, Equational g) :
      Equational (.or alternatives)
  | and {conjuncts : List Goal} (h : ∀ g ∈ conjuncts, Equational g) :
      Equational (.and conjuncts)

theorem Equational.plain {g : Goal} (h : g.Equational) : g.Plain := by
  induction h with
  | unify a b => exact .unify a b
  | or _ ih => exact .or ih
  | and _ ih => exact .and ih

/-- Whether a goal holds when its cells stand for symbols. -/
inductive HoldsIn (ν : Valuation) : Goal → Prop where
  | unify {left right : Cell} (h : ν left = ν right) : HoldsIn ν (.unify left right)
  | or {alternatives : List Goal} {g : Goal} (hg : g ∈ alternatives) (h : HoldsIn ν g) :
      HoldsIn ν (.or alternatives)
  | and {conjuncts : List Goal} (h : ∀ g ∈ conjuncts, HoldsIn ν g) : HoldsIn ν (.and conjuncts)

mutual

def cells : Goal → List Cell
  | .terminal => []
  | .print cell => [cell]
  | .unify left right => [left, right]
  | .or alternatives => cellsOfAll alternatives
  | .compose left right => cells left ++ cells right
  | .and conjuncts => cellsOfAll conjuncts

def cellsOfAll : List Goal → List Cell
  | [] => []
  | g :: later => cells g ++ cellsOfAll later

end

variable {ν : Valuation} {g : Goal} {gs : List Goal}

theorem mem_cellsOfAll {c : Cell} : c ∈ cellsOfAll gs ↔ ∃ g ∈ gs, c ∈ g.cells := by
  induction gs with
  | nil => simp [cellsOfAll]
  | cons g later ih => simp [cellsOfAll, ih]

theorem holdsIn_unify_iff {a b : Cell} : HoldsIn ν (.unify a b) ↔ ν a = ν b :=
  ⟨fun h => by cases h with | unify h => exact h, .unify⟩

theorem holdsIn_or_iff : HoldsIn ν (.or gs) ↔ ∃ g ∈ gs, HoldsIn ν g :=
  ⟨fun h => by cases h with | or hg h => exact ⟨_, hg, h⟩, fun ⟨_, hg, h⟩ => .or hg h⟩

theorem holdsIn_and_iff : HoldsIn ν (.and gs) ↔ ∀ g ∈ gs, HoldsIn ν g :=
  ⟨fun h => by cases h with | and h => exact h, .and⟩

/-- Only the cells of a goal count. -/
theorem HoldsIn.congr {μ : Valuation} (h : HoldsIn ν g) (heq : ∀ c ∈ g.cells, ν c = μ c) :
    HoldsIn μ g := by
  induction h with
  | @unify a b h =>
    have hl := heq a (by simp [cells])
    have hr := heq b (by simp [cells])
    exact .unify (hl.symm.trans (h.trans hr))
  | or hg _ ih =>
    refine .or hg (ih fun c hc => heq c ?_)
    rw [cells]
    exact mem_cellsOfAll.mpr ⟨_, hg, hc⟩
  | and _ ih =>
    refine .and fun g hg => ih g hg fun c hc => heq c ?_
    rw [cells]
    exact mem_cellsOfAll.mpr ⟨g, hg, hc⟩

end Goal

/-! ## What answers cover -/

namespace Finding

theorem answer_mem_andThen {fs : List Finding} {next : Store → List Finding} {t : Store} :
    Finding.answer t ∈ andThen fs next ↔ ∃ u, Finding.answer u ∈ fs ∧ Finding.answer t ∈ next u := by
  induction fs with
  | nil => simp
  | cons f fs ih =>
    cases f with
    | tick => simp [ih]
    | output symbol => simp [ih]
    | answer u => simp [ih, or_and_right, exists_or]

/-- The answers among findings are stores without cycles over the cells of a store, and allow together
those valuations of the store that have a property. -/
structure Covers (s : Store) (fs : List Finding) (P : Valuation → Prop) : Prop where
  /-- Answers have no cycles and no new cells. -/
  proper : ∀ {t : Store}, Finding.answer t ∈ fs → t.Acyclic ∧ t.size = s.size
  /-- What the answers allow. -/
  allows_iff : ∀ ν, (∃ t, Finding.answer t ∈ fs ∧ t.Allows ν) ↔ s.Allows ν ∧ P ν

variable {s : Store} {fs gs : List Finding} {P Q : Valuation → Prop}

theorem Covers.congr (h : Covers s fs P) (hiff : ∀ ν, s.Allows ν → (P ν ↔ Q ν)) :
    Covers s fs Q where
  proper := h.proper
  allows_iff := by
    intro ν
    rw [h.allows_iff ν]
    exact and_congr_right fun hν => hiff ν hν

theorem covers_nil (h : ∀ ν, s.Allows ν → ¬P ν) : Covers s [] P where
  proper := by simp
  allows_iff := by
    intro ν
    simpa using h ν

theorem Covers.tick (h : Covers s fs P) : Covers s (.tick :: fs) P where
  proper := by
    intro t ht
    exact h.proper (by simpa using ht)
  allows_iff := by
    intro ν
    simpa using h.allows_iff ν

theorem covers_answer {t : Store} (hacyclic : t.Acyclic) (hsize : t.size = s.size)
    (h : ∀ ν, t.Allows ν ↔ s.Allows ν ∧ P ν) : Covers s [.answer t] P where
  proper := by
    intro u hu
    rw [List.mem_singleton, Finding.answer.injEq] at hu
    rw [hu]
    exact ⟨hacyclic, hsize⟩
  allows_iff := by
    intro ν
    simpa using h ν

theorem Covers.append (hf : Covers s fs P) (hg : Covers s gs Q) :
    Covers s (fs ++ gs) fun ν => P ν ∨ Q ν where
  proper := by
    intro t ht
    rcases List.mem_append.mp ht with ht | ht
    · exact hf.proper ht
    · exact hg.proper ht
  allows_iff := by
    intro ν
    simp only [List.mem_append, or_and_right, exists_or, and_or_left]
    rw [hf.allows_iff, hg.allows_iff]

/-- Continuing each answer cuts down what it allows. -/
theorem Covers.andThen {next : Store → List Finding} (hf : Covers s fs P)
    (hnext : ∀ t : Store, t.Acyclic → t.size = s.size → Covers t (next t) Q) :
    Covers s (andThen fs next) fun ν => P ν ∧ Q ν where
  proper := by
    intro t ht
    obtain ⟨u, hu, ht⟩ := answer_mem_andThen.mp ht
    obtain ⟨hacyclic, hsize⟩ := hf.proper hu
    obtain ⟨htacyclic, htsize⟩ := (hnext u hacyclic hsize).proper ht
    exact ⟨htacyclic, htsize.trans hsize⟩
  allows_iff := by
    intro ν
    constructor
    · rintro ⟨t, ht, hν⟩
      obtain ⟨u, hu, ht⟩ := answer_mem_andThen.mp ht
      obtain ⟨hacyclic, hsize⟩ := hf.proper hu
      obtain ⟨huν, hQ⟩ := ((hnext u hacyclic hsize).allows_iff ν).mp ⟨t, ht, hν⟩
      obtain ⟨hsν, hP⟩ := (hf.allows_iff ν).mp ⟨u, hu, huν⟩
      exact ⟨hsν, hP, hQ⟩
    · rintro ⟨hsν, hP, hQ⟩
      obtain ⟨u, hu, huν⟩ := (hf.allows_iff ν).mpr ⟨hsν, hP⟩
      obtain ⟨hacyclic, hsize⟩ := hf.proper hu
      obtain ⟨t, ht, htν⟩ := ((hnext u hacyclic hsize).allows_iff ν).mpr ⟨huν, hQ⟩
      exact ⟨t, answer_mem_andThen.mpr ⟨u, hu, ht⟩, htν⟩

end Finding

/-! ## Streams of equational goals -/

namespace Goal

open Finding

variable {s : Store} {g : Goal}

theorem covers_stream_unify (hs : s.Acyclic) {a b : Cell} (ha : s.Has a) (hb : s.Has b) :
    Covers s ((Goal.unify a b).stream s) fun ν => HoldsIn ν (.unify a b) := by
  refine Covers.congr (P := fun ν => ν a = ν b) ?_ fun ν _ => holdsIn_unify_iff.symm
  rw [stream]
  obtain ⟨u, t, h⟩ : ∃ u t, s.unify a b = (u, t) := ⟨_, _, rfl⟩
  rw [h]
  refine Covers.tick ?_
  cases u with
  | failed => exact covers_nil fun ν hν => hs.ne_of_unify_failed h hν
  | unchanged =>
    obtain ⟨hacyclic, hsize, hiff⟩ := hs.unify_spec ha hb h (by simp)
    exact covers_answer hacyclic hsize hiff
  | aliased binding target =>
    obtain ⟨hacyclic, hsize, hiff⟩ := hs.unify_spec ha hb h (by simp)
    exact covers_answer hacyclic hsize hiff

/-- The answers of an equational goal cover the valuations in which it holds. -/
def CoversSolutions (g : Goal) : Prop :=
  ∀ s : Store, s.Acyclic → (∀ c ∈ g.cells, s.Has c) → Covers s (g.stream s) fun ν => HoldsIn ν g

theorem covers_streamAny {gs : List Goal} (hgs : ∀ g ∈ gs, CoversSolutions g) (hs : s.Acyclic)
    (hcells : ∀ c ∈ cellsOfAll gs, s.Has c) :
    Covers s (streamAny gs s) fun ν => ∃ g ∈ gs, HoldsIn ν g := by
  induction gs with
  | nil =>
    rw [streamAny]
    exact covers_nil (by simp)
  | cons g later ih =>
    have hg := hgs g List.mem_cons_self s hs fun c hc => hcells c (by simp [cellsOfAll, hc])
    have hlater := ih (fun h hh => hgs h (List.mem_cons_of_mem g hh))
      fun c hc => hcells c (by simp [cellsOfAll, hc])
    rw [streamAny]
    exact (hg.append hlater).congr fun ν _ => by simp

theorem covers_streamAll {gs : List Goal} (hgs : ∀ g ∈ gs, CoversSolutions g) (hs : s.Acyclic)
    (hcells : ∀ c ∈ cellsOfAll gs, s.Has c) :
    Covers s (streamAll gs s) fun ν => ∀ g ∈ gs, HoldsIn ν g := by
  induction gs generalizing s with
  | nil =>
    rw [streamAll]
    exact covers_answer hs rfl (by simp)
  | cons g later ih =>
    have hg := hgs g List.mem_cons_self s hs fun c hc => hcells c (by simp [cellsOfAll, hc])
    have hlater : ∀ t : Store, t.Acyclic → t.size = s.size →
        Covers t (streamAll later t) fun ν => ∀ g ∈ later, HoldsIn ν g := by
      intro t ht hsize
      refine ih (fun h hh => hgs h (List.mem_cons_of_mem g hh)) ht fun c hc => ?_
      unfold Store.Has
      rw [hsize]
      exact hcells c (by simp [cellsOfAll, hc])
    rw [streamAll]
    exact (hg.andThen hlater).tick.congr fun ν _ => by simp

theorem Equational.coversSolutions (hg : g.Equational) : CoversSolutions g := by
  induction hg with
  | unify a b =>
    intro s hs hcells
    exact covers_stream_unify hs (hcells a (by simp [cells])) (hcells b (by simp [cells]))
  | or _ ih =>
    intro s hs hcells
    rw [cells] at hcells
    rw [stream]
    exact (covers_streamAny ih hs hcells).tick.congr fun ν _ => holdsIn_or_iff.symm
  | and _ ih =>
    intro s hs hcells
    rw [cells] at hcells
    rw [stream]
    exact (covers_streamAll ih hs hcells).tick.congr fun ν _ => holdsIn_and_iff.symm

/-- **Searching is solving.** The search for an equational goal succeeds exactly if the goal holds in
some valuation that the store allows. -/
theorem Equational.run_succeeded_iff (hg : g.Equational) (hs : s.Acyclic)
    (hcells : ∀ c ∈ g.cells, s.Has c) :
    (g.run s).succeeded = true ↔ ∃ ν, s.Allows ν ∧ HoldsIn ν g := by
  have hcovers := hg.coversSolutions s hs hcells
  rw [hg.plain.succeeded_run, isSome_firstAnswer?]
  constructor
  · rintro ⟨t, ht⟩
    obtain ⟨hacyclic, -⟩ := hcovers.proper ht
    exact ⟨_, (hcovers.allows_iff _).mp ⟨t, ht, hacyclic.allows_fill fun _ => ⟨""⟩⟩⟩
  · rintro ⟨ν, hν⟩
    obtain ⟨t, ht, -⟩ := (hcovers.allows_iff ν).mpr hν
    exact ⟨t, ht⟩

end Goal

end GoalSearch
