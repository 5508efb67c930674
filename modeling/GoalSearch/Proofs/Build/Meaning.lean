import GoalSearch.Proofs.Build.Fit
import GoalSearch.Proofs.Search.Solution

/-!
# Building keeps the meaning

A goal expression without `print` becomes an equational goal that says the same (`interprets_goal`). If
the goal holds in a valuation, the expression holds for the symbols of its variables; and an assignment
extends to a valuation in which the goal holds if the expression does (`Interprets`).

Both directions go through the applications that the build replaces by rule bodies. Each has a frame of
its own, so that the other variables of a body can be chosen afresh for each application.
-/

namespace GoalSearch

namespace Build

open Workspace

/-- A goal that has been built in a scope says of the scope's variables what `truth` says. -/
structure Interprets (i : ScopeId) (w : Workspace) (g : Goal) (w' : Workspace)
    (truth : Assignment → Prop) : Prop where
  equational : g.Equational
  cells : ∀ c ∈ g.cells, w'.store.Has c
  /-- What the goal says is true. -/
  sound : ∀ {σ ν}, w'.Fits i σ ν → g.HoldsIn ν → truth σ
  /-- The goal says no more than that. -/
  complete : ∀ {σ ν}, w.Fits i σ ν →
    ∃ μ, w.store.SameOn ν μ ∧ w'.Fits i σ μ ∧ (truth σ → g.HoldsIn μ)

/-- Goals that have been built in a scope say one by one what expressions do. -/
structure InterpretsAll (rules : NameTable Rule) (i : ScopeId) (w : Workspace) (gs : List Goal)
    (w' : Workspace) (es : List Expr) : Prop where
  equational : ∀ g ∈ gs, g.Equational
  cells : ∀ c ∈ Goal.cellsOfAll gs, w'.store.Has c
  sound : ∀ {σ ν}, w'.Fits i σ ν →
    List.Forall₂ (fun g e => Goal.HoldsIn ν g → Holds rules σ e) gs es
  complete : ∀ {σ ν}, w.Fits i σ ν → ∃ μ, w.store.SameOn ν μ ∧ w'.Fits i σ μ ∧
    List.Forall₂ (fun e g => Holds rules σ e → Goal.HoldsIn μ g) es gs

variable {root i : ScopeId} {rules : NameTable Rule} {limit left : Nat} {w u w' : Workspace}
  {g : Goal} {gs : List Goal} {es : List Expr} {P Q : Assignment → Prop}

theorem Interprets.congr (h : Interprets i w g w' P) (hiff : ∀ σ, P σ ↔ Q σ) :
    Interprets i w g w' Q where
  equational := h.equational
  cells := h.cells
  sound := fun hfits hg => (hiff _).mp (h.sound hfits hg)
  complete := by
    intro σ ν hfits
    obtain ⟨μ, hsame, hμ, hg⟩ := h.complete hfits
    exact ⟨μ, hsame, hμ, fun htrue => hg ((hiff σ).mpr htrue)⟩

/-! ## Equations -/

theorem interprets_equal (hw : w.Proper root rules) (hi : w.scopes.Has i) (hne : i ≠ root)
    {x y : Expr} {a b : Cell} (hx : term i x w = .ok a u) (hy : term i y u = .ok b w') :
    ∃ t v, x = .atom t ∧ y = .atom v ∧
      Interprets i w (.unify a b) w' fun σ => denote σ t = denote σ v := by
  obtain ⟨t, rfl, -⟩ := term_ok hx
  obtain ⟨v, rfl, -⟩ := term_ok hy
  have hwu := (grows_term w i (.atom t)).of_ok hx (.refl i w)
  have huw := (grows_term u i (.atom v)).of_ok hy (.refl i u)
  have hu := (proper_term hne (.atom t)).of_ok hx hw
  have hcells : ∀ {σ ν}, w'.Fits i σ ν → ν a = denote σ t ∧ ν b = denote σ v := by
    intro σ ν hfits
    exact ⟨(hfits.of_grows huw).of_term hw hi hne hx, hfits.of_term hu (hwu.has_scope hi) hne hy⟩
  refine ⟨t, v, rfl, rfl, .unify a b, ?_, ?_, ?_⟩
  · intro c hc
    rcases List.mem_pair.mp hc with rfl | rfl
    · exact huw.has (has_of_term hw.toRooted hne hx)
    · exact has_of_term hu.toRooted hne hy
  · intro σ ν hfits hg
    obtain ⟨ha, hb⟩ := hcells hfits
    rw [← ha, ← hb]
    exact Goal.holdsIn_unify_iff.mp hg
  · intro σ ν hfits
    obtain ⟨κ, hsame, hκ⟩ := hfits.exists_term hw hne hx
    obtain ⟨μ, hsame', hμ⟩ := hκ.exists_term hu hne hy
    refine ⟨μ, hsame.trans hsame' hwu.size_le, hμ, fun htrue => .unify ?_⟩
    obtain ⟨ha, hb⟩ := hcells hμ
    rw [ha, hb]
    exact htrue

/-! ## Goals in order -/

theorem forall_of_forall₂ {α β : Type} {p : α → Prop} {q : β → Prop} {as : List α} {bs : List β}
    (h : List.Forall₂ (fun a b => p a → q b) as bs) (hp : ∀ a ∈ as, p a) : ∀ b ∈ bs, q b := by
  induction h with
  | nil => simp
  | @cons a b as bs hab _ ih =>
    intro d hd
    rcases List.mem_cons.mp hd with rfl | hd
    · exact hab (hp a List.mem_cons_self)
    · exact ih (fun c hc => hp c (List.mem_cons_of_mem a hc)) d hd

theorem exists_of_forall₂ {α β : Type} {p : α → Prop} {q : β → Prop} {as : List α} {bs : List β}
    (h : List.Forall₂ (fun a b => p a → q b) as bs) (hp : ∃ a ∈ as, p a) : ∃ b ∈ bs, q b := by
  induction h with
  | nil => simp at hp
  | @cons a b as bs hab _ ih =>
    obtain ⟨c, hc, hpc⟩ := hp
    rcases List.mem_cons.mp hc with rfl | hc
    · exact ⟨b, List.mem_cons_self, hab hpc⟩
    · obtain ⟨d, hd, hqd⟩ := ih ⟨c, hc, hpc⟩
      exact ⟨d, List.mem_cons_of_mem b hd, hqd⟩

theorem InterpretsAll.and (h : InterpretsAll rules i w gs w' es) :
    Interprets i w (.and gs) w' fun σ => ∀ e ∈ es, Holds rules σ e where
  equational := .and h.equational
  cells := h.cells
  sound := fun hfits hg => forall_of_forall₂ (h.sound hfits) (Goal.holdsIn_and_iff.mp hg)
  complete := by
    intro σ ν hfits
    obtain ⟨μ, hsame, hμ, hall⟩ := h.complete hfits
    exact ⟨μ, hsame, hμ, fun htrue => .and (forall_of_forall₂ hall htrue)⟩

theorem InterpretsAll.or (h : InterpretsAll rules i w gs w' es) :
    Interprets i w (.or gs) w' fun σ => ∃ e ∈ es, Holds rules σ e where
  equational := .or h.equational
  cells := h.cells
  sound := fun hfits hg => exists_of_forall₂ (h.sound hfits) (Goal.holdsIn_or_iff.mp hg)
  complete := by
    intro σ ν hfits
    obtain ⟨μ, hsame, hμ, hall⟩ := h.complete hfits
    exact ⟨μ, hsame, hμ, fun htrue => Goal.holdsIn_or_iff.mpr (exists_of_forall₂ hall htrue)⟩

theorem interpretsAll_nil : InterpretsAll rules i w [] w [] where
  equational := by simp
  cells := by simp [Goal.cellsOfAll]
  sound := fun _ => .nil
  complete := fun {_ ν} hfits => ⟨ν, .refl w.store ν, hfits, .nil⟩

theorem Interprets.cons {e : Expr} (h : Interprets i w g u fun σ => Holds rules σ e)
    (hall : InterpretsAll rules i u gs w' es) (hwu : w.Grows i u) (huw : u.Grows i w') :
    InterpretsAll rules i w (g :: gs) w' (e :: es) where
  equational := List.forall_mem_cons.mpr ⟨h.equational, hall.equational⟩
  cells := by
    intro c hc
    rcases List.mem_append.mp hc with hc | hc
    · exact huw.has (h.cells c hc)
    · exact hall.cells c hc
  sound := fun hfits => .cons (h.sound (hfits.of_grows huw)) (hall.sound hfits)
  complete := by
    intro σ ν hfits
    obtain ⟨κ, hsame, hκ, hg⟩ := h.complete hfits
    obtain ⟨μ, hsame', hμ, hgs⟩ := hall.complete hκ
    refine ⟨μ, hsame.trans hsame' hwu.size_le, hμ, .cons (fun htrue => ?_) hgs⟩
    -- The later goals do not change what the cells of the first one stand for.
    exact (hg htrue).congr fun c hc => (hsame' c (h.cells c hc)).symm

/-! ## Goals and applications -/

/-- A goal expression keeps its meaning wherever it is built in a scope. -/
def Meant (root : ScopeId) (rules : NameTable Rule) (limit left : Nat) (i : ScopeId) (e : Expr) :
    Prop :=
  ∀ {w g w'}, w.Proper root rules → w.scopes.Has i →
    goal (applyRule root limit left) i e w = .ok g w' →
    Interprets i w g w' fun σ => Holds rules σ e

/-- Applications keep their meaning wherever they are built in a scope. -/
def ApplicationsMeant (root : ScopeId) (rules : NameTable Rule) (limit left : Nat) (i : ScopeId) :
    Prop :=
  ∀ {name args w g w'}, w.Proper root rules → w.scopes.Has i →
    applyRule root limit left name args i w = .ok g w' →
    Interprets i w g w' (Applies rules name args)

theorem interprets_goals (hrules : rules.Legal) (hne : i ≠ root)
    (hes : ∀ e ∈ es, Meant root rules limit left i e) (hw : w.Proper root rules)
    (hi : w.scopes.Has i) (h : goals (applyRule root limit left) i es w = .ok gs w') :
    InterpretsAll rules i w gs w' es := by
  induction es generalizing w gs with
  | nil =>
    obtain ⟨rfl, rfl⟩ := goals_nil_ok h
    exact interpretsAll_nil
  | cons e later ih =>
    obtain ⟨g, rest, u, rfl, hg, hrest⟩ := goals_cons_ok h
    have hwu := (grows_goal root limit left w i e).of_ok hg (.refl i w)
    have huw := (grows_goals root limit left u i later).of_ok hrest (.refl i u)
    have hu := (proper_goal hrules limit left hne e).of_ok hg hw
    have hfirst := hes e List.mem_cons_self hw hi hg
    have hlater := ih (fun d hd => hes d (List.mem_cons_of_mem e hd)) hu (hwu.has_scope hi) hrest
    exact hfirst.cons hlater hwu huw

/-- A goal keeps its meaning if the applications in it do. -/
theorem meant_goal (hrules : rules.Legal) (hne : i ≠ root)
    (happly : ApplicationsMeant root rules limit left i) {e : Expr} (hprint : hasPrint e = false) :
    Meant root rules limit left i e := by
  induction e using Expr.induction with
  | atom name =>
    intro w g w' hw hi h
    cases goal_ok h with
    | bare h => exact (happly hw hi h).congr fun _ => holds_atom_iff.symm
  | list items ih =>
    intro w g w' hw hi h
    cases goal_ok h with
    | print _ =>
      rw [hasPrint_print] at hprint
      cases hprint
    | equal hx hy =>
      obtain ⟨t, v, rfl, rfl, hequal⟩ := interprets_equal hw hi hne hx hy
      exact hequal.congr fun _ => (holds_equal_iff hrules).symm
    | and h =>
      rw [hasPrint_and, anyHasPrint_eq_false_iff] at hprint
      have hall := interprets_goals hrules hne
        (fun e he => ih e (List.mem_cons_of_mem _ he) (hprint e he)) hw hi h
      exact hall.and.congr fun _ => (holds_and_iff hrules).symm
    | or h =>
      rw [hasPrint_or, anyHasPrint_eq_false_iff] at hprint
      have hall := interprets_goals hrules hne
        (fun e he => ih e (List.mem_cons_of_mem _ he) (hprint e he)) hw hi h
      exact hall.or.congr fun _ => (holds_or_iff hrules).symm
    | application hname h => exact (happly hw hi h).congr fun _ => (holds_application_iff hname).symm

/-- The application of a rule keeps its meaning if the rule's body does in a frame of its own. -/
theorem interprets_application (hrules : rules.Legal) (hne : i ≠ root) (hw : w.Proper root rules)
    (hi : w.scopes.Has i) {name : String} {args : List Expr} {r : Rule}
    (hr : rules.find? name = some r) (hlen : args.length = r.params.length)
    (hargs : bindArguments (w.scopes.openChild root).1 i r.params args
      { w with scopes := (w.scopes.openChild root).2 } = .ok () u)
    (huw : u.Grows (w.scopes.openChild root).1 w')
    (hbody : Interprets (w.scopes.openChild root).1 u g w' fun ρ => Holds rules ρ r.body) :
    Interprets i w g w' (Applies rules name args) := by
  obtain ⟨-, -, hnodup, hvars⟩ := hrules name r hr
  have hfills := hw.fills hi hne
  have hu := hfills.arguments hvars hargs
  have hwu := (grows_bindArguments (w.scopes.not_has_openChild root) r.params args).of_ok hargs
    ((Grows.refl i w).openChild root)
  obtain ⟨names, rfl⟩ := names_of_arguments hlen hargs
  rw [List.length_map] at hlen
  refine ⟨hbody.equational, hbody.cells, ?_, ?_⟩
  · intro σ ν hσ hg
    obtain ⟨ρ, hρ⟩ := exists_fits w' (w.scopes.openChild root).1 hσ.allows
    have hmap := Fits.of_arguments hfills hvars hnodup hlen hargs (hσ.of_grows huw)
      (hρ.of_grows huw)
    exact ⟨r, ρ, names, hr, rfl, hmap, hbody.sound hρ hg⟩
  · intro σ ν hσ
    obtain ⟨ρ, hmap, htrue⟩ := exists_body_assignment hr hnodup hlen σ
    have hσ' := hσ.elsewhere ((Grows.refl (w.scopes.openChild root).1 w).openChild root) hi
      hfills.ne.symm hσ.allows
    obtain ⟨κ, hsame, hκ, hκρ⟩ := Fits.exists_arguments hfills hvars hargs hσ'
      (Fits.frame hσ.allows root ρ) hmap
    obtain ⟨μ, hsame', hμρ, hg⟩ := hbody.complete hκρ
    have hμ := (hκ.congr hu.proper hu.caller_ne hsame').elsewhere huw hu.has_caller hu.ne.symm
      hμρ.allows
    exact ⟨μ, hsame.trans hsame' hwu.size_le, hμ, fun h => hg (htrue h)⟩

theorem applicationsMeant (hrules : rules.Legal)
    (hprint : ∀ name r, rules.find? name = some r → hasPrint r.body = false) (limit left : Nat)
    (hne : i ≠ root) : ApplicationsMeant root rules limit left i := by
  induction left generalizing i with
  | zero =>
    intro name args w g w' _ _ h
    obtain ⟨n, r, u, hleft, -⟩ := applyRule_ok h
    cases hleft
  | succ left ih =>
    intro name args w g w' hw hi h
    obtain ⟨n, r, u, hleft, hl, hlen, hargs, hgoal⟩ := applyRule_ok h
    cases hleft
    have hr := hw.find?_of_lookup_rule hne hl
    have hu := (hw.fills hi hne).arguments (hrules name r hr).isVariable hargs
    have hbody := meant_goal hrules hw.frame_ne (ih hw.frame_ne) (hprint name r hr) hu.proper
      hu.has_frame hgoal
    have huw := (grows_goal root limit left u _ r.body).of_ok hgoal (.refl _ u)
    exact interprets_application hrules hne hw hi hr hlen hargs huw hbody

/-- **Building keeps the meaning** of goals without `print`. -/
theorem interprets_goal (hrules : rules.Legal)
    (hrulesPrint : ∀ name r, rules.find? name = some r → hasPrint r.body = false)
    (hne : i ≠ root) {e : Expr} (hprint : hasPrint e = false) (hw : w.Proper root rules)
    (hi : w.scopes.Has i) (h : goal (applyRule root limit left) i e w = .ok g w') :
    Interprets i w g w' fun σ => Holds rules σ e :=
  meant_goal hrules hne (applicationsMeant hrules hrulesPrint limit left hne) hprint hw hi h

end Build

end GoalSearch
