import GoalSearch.Proofs.Build.Chains
import GoalSearch.Proofs.Build.Phrase
import GoalSearch.Proofs.Rule
import GoalSearch.Proofs.Search.Stream

/-!
# What a built goal says

A goal that was built is a reading of the expression that it was built from. Every term stands for the cell
that it denotes in its scope, and every application for the rule's body, as it reads in a frame in which the
parameters stand for the same cells as the arguments do (`Workspace.Reads`). The workspace in which this
holds is the one at the end, so that a name denotes the same cell wherever it is written:

    goal (applyRule root limit left) i e w = .ok g u → u.Reads root i e g                 (reads_goal)

A reading does not depend on what is built later.
-/

namespace GoalSearch

theorem exists_mem_zip {α β : Type} {as : List α} {bs : List β} (hlength : as.length ≤ bs.length)
    {a : α} (ha : a ∈ as) : ∃ b, (a, b) ∈ as.zip bs := by
  rw [← List.map_fst_zip hlength] at ha
  obtain ⟨⟨_, b⟩, hab, rfl⟩ := List.mem_map.mp ha
  exact ⟨b, hab⟩

namespace Workspace

/-! ## Readings -/

/-- The cell that a term stands for in a scope. A constant has a cell of its own wherever it is written,
unless a scope gives its name to a cell. -/
inductive Denotes (w : Workspace) (i : ScopeId) : Expr → Cell → Prop where
  | named {name : String} {c : Cell} (hl : w.scopes.lookup i name = some (.cell c)) :
      Denotes w i (.atom name) c
  | constant {name : String} {c : Cell} (hvar : isVariableName name = false)
      (hl : ∀ d, w.scopes.lookup i name ≠ some (.cell d)) (hc : w.store.state c = .bound ⟨name⟩) :
      Denotes w i (.atom name) c

/-- The goal that an expression is read as in a scope, with the rules' frames inside the root. -/
inductive Reads (root : ScopeId) (w : Workspace) : ScopeId → Expr → Goal → Prop where
  | print {i : ScopeId} {e x : Expr} {c : Cell} (he : e.phrase = .print x) (hx : w.Denotes i x c) :
      Reads root w i e (.print c)
  | equal {i : ScopeId} {e x y : Expr} {a b : Cell} (he : e.phrase = .equal x y)
      (hx : w.Denotes i x a) (hy : w.Denotes i y b) : Reads root w i e (.unify a b)
  | and {i : ScopeId} {e : Expr} {es : List Expr} {gs : List Goal} (he : e.phrase = .and es)
      (hlength : gs.length = es.length) (h : ∀ d g, (d, g) ∈ es.zip gs → Reads root w i d g) :
      Reads root w i e (.and gs)
  | or {i : ScopeId} {e : Expr} {es : List Expr} {gs : List Goal} (he : e.phrase = .or es)
      (hlength : gs.length = es.length) (h : ∀ d g, (d, g) ∈ es.zip gs → Reads root w i d g) :
      Reads root w i e (.or gs)
  | application {i f : ScopeId} {e : Expr} {name : String} {args : List Expr} {r : Rule}
      {cells : List Cell} {g : Goal} (he : e.phrase = .application name args)
      (hrule : w.scopes.lookup i name = some (.rule r))
      (hargs : List.Forall₂ (w.Denotes i) args cells)
      (hframe : w.scopes.Has f ∧ w.scopes.enclosing f = w.scopes.chain root)
      (hparams : List.Forall₂ (fun param c => w.scopes.lookup f param = some (.cell c)) r.params cells)
      (hbody : Reads root w f r.body g) : Reads root w i e g

variable {root i f : ScopeId} {w u v : Workspace} {e x : Expr} {c : Cell} {g : Goal} {n : Nat}

/-- A workspace after others were built on it, as seen from its first `n` scopes. -/
structure Extends (n : Nat) (w u : Workspace) : Prop where
  scopes : w.scopes.Extends n u.scopes
  state_eq : ∀ {c}, w.store.Has c → u.store.state c = w.store.state c

/-- A variable stands for the cell that its scope gives it. -/
theorem denotes_iff_of_find? {name : String} (hvar : isVariableName name = true)
    (hc : (w.scopes.names i).find? name = some (.cell c)) {d : Cell} :
    w.Denotes i (.atom name) d ↔ d = c := by
  have hl : w.scopes.lookup i name = some (.cell c) := Scopes.lookup_of_find? hc
  constructor
  · intro h
    cases h with
    | named hd =>
      rw [hl] at hd
      cases hd
      rfl
    | constant hconstant _ _ =>
      rw [hvar] at hconstant
      cases hconstant
  · rintro rfl
    exact .named hl

theorem Denotes.mono (h : w.Denotes i x c) (hi : i.id < n) (hu : w.Extends n u) : u.Denotes i x c := by
  cases h with
  | named hl => exact .named (hu.scopes.lookup_eq_some hi hl)
  | @constant name _ hvar hl hc =>
    have hhas : w.store.Has c := Store.has_of_ne_unbound (by rw [hc]; simp)
    refine .constant hvar (fun d hd => ?_) ((hu.state_eq hhas).trans hc)
    obtain heq | ⟨-, hvar'⟩ := hu.scopes.lookup_cases hi name
    · exact hl d (heq ▸ hd)
    · rw [hvar] at hvar'
      cases hvar'

theorem Reads.mono (h : w.Reads root i e g) (hi : w.scopes.Has i) (hroot : w.scopes.Has root)
    (hu : w.Extends w.scopes.scopes.size u) : u.Reads root i e g := by
  induction h with
  | print he hx => exact .print he (hx.mono hi hu)
  | equal he hx hy => exact .equal he (hx.mono hi hu) (hy.mono hi hu)
  | and he hlength _ ih => exact .and he hlength fun d g hd => ih d g hd hi
  | or he hlength _ ih => exact .or he hlength fun d g hd => ih d g hd hi
  | application he hrule hargs hframe hparams _ ih =>
    refine .application he (hu.scopes.lookup_eq_some hi hrule) (hargs.imp fun x c hx => hx.mono hi hu)
      ⟨Nat.lt_of_lt_of_le hframe.1 hu.scopes.size_le, ?_⟩
      (hparams.imp fun param c hc => hu.scopes.lookup_eq_some hframe.1 hc) (ih hframe.1)
    rw [hu.scopes.enclosing_eq hframe.1, hframe.2, Scopes.chain, Scopes.chain,
      hu.scopes.enclosing_eq hroot]

/-- A goal that reads an expression has only printing, equations, alternatives and conjunctions. -/
theorem Reads.plain (h : w.Reads root i e g) : g.Plain := by
  have hmem : ∀ {es : List Expr} {gs : List Goal}, gs.length = es.length →
      (∀ d g, (d, g) ∈ es.zip gs → g.Plain) → ∀ g ∈ gs, g.Plain := by
    intro es gs hlength hzip g hg
    rw [← List.map_snd_zip hlength.le] at hg
    obtain ⟨⟨d, _⟩, hd, rfl⟩ := List.mem_map.mp hg
    exact hzip d _ hd
  induction h with
  | print _ _ => exact .print _
  | equal _ _ _ => exact .unify _ _
  | and _ hlength _ ih => exact .and (hmem hlength ih)
  | or _ hlength _ ih => exact .or (hmem hlength ih)
  | application _ _ _ _ _ _ ih => exact ih

theorem Reads.exists_denotes_term (h : w.Reads root i e g) (hx : x ∈ e.phrase.terms) :
    ∃ c, w.Denotes i x c := by
  cases h with
  | print he hc =>
    rw [he] at hx
    obtain rfl := List.mem_singleton.mp hx
    exact ⟨_, hc⟩
  | equal he ha hb =>
    rw [he] at hx
    obtain rfl | hx := List.mem_cons.mp hx
    · exact ⟨_, ha⟩
    · obtain rfl := List.mem_singleton.mp hx
      exact ⟨_, hb⟩
  | and he _ _ | or he _ _ =>
    rw [he] at hx
    cases hx
  | application he _ hargs _ _ _ =>
    rw [he] at hx
    obtain ⟨c, hc⟩ := exists_mem_zip hargs.length_eq.le hx
    exact ⟨c, List.forall₂_zip hargs hc⟩

theorem Reads.exists_reads_part (h : w.Reads root i e g) {d : Expr} (hd : d ∈ e.phrase.parts) :
    ∃ g', w.Reads root i d g' := by
  cases h with
  | print he _ | equal he _ _ | application he _ _ _ _ _ =>
    rw [he] at hd
    cases hd
  | and he hlength hparts | or he hlength hparts =>
    rw [he] at hd
    obtain ⟨g', hg'⟩ := exists_mem_zip hlength.ge hd
    exact ⟨g', hparts d g' hg'⟩

theorem Reads.not_refused (h : w.Reads root i e g) (error : BuildError) :
    e.phrase ≠ .refused error := by
  cases h with
  | print he _ | equal he _ _ | and he _ _ | or he _ _ | application he _ _ _ _ _ => simp [he]

/-- Every name in the place of a term denotes a cell. -/
theorem Reads.exists_denotes (h : w.Reads root i e g) {name : String} (hname : name ∈ e.termNames) :
    ∃ c, w.Denotes i (.atom name) c := by
  induction e using Expr.phraseInduction generalizing g with
  | goal e ih =>
    obtain hterm | ⟨d, hd, hname⟩ := (Expr.mem_termNames_iff h.not_refused).mp hname
    · exact h.exists_denotes_term hterm
    · obtain ⟨g', hd'⟩ := h.exists_reads_part hd
      exact ih d hd hd' hname

/-! ## Workspaces to build in -/

/-- Scopes nest as they were opened, the root among them, and their rules are as definitions make them. -/
structure WellScoped (root : ScopeId) (w : Workspace) : Prop where
  nested : w.scopes.Nested
  has_root : w.scopes.Has root
  rules : w.AllRules fun _ r => r.WellFormed

/-- A global scope with rules as definitions make them, and with any cells. -/
theorem wellScoped_openRoot (store : Store) {names : NameTable Meaning}
    (hrules : ∀ name r, names.find? name = some (.rule r) → r.WellFormed) :
    WellScoped ⟨0⟩ ⟨store, (Scopes.empty.openRoot names).2⟩ where
  nested := Scopes.nested_empty.openRoot names
  has_root := Nat.zero_lt_one
  rules := by
    intro i name r hr
    have hi : i.id = 0 := Nat.lt_one_iff.mp (Scopes.has_of_find? hr)
    obtain rfl : i = ⟨0⟩ := congrArg ScopeId.mk hi
    exact hrules name r hr

theorem WellScoped.openChild (h : w.WellScoped root) :
    WellScoped root { w with scopes := (w.scopes.openChild root).2 } :=
  ⟨h.nested.openChild h.has_root, h.has_root.openChild root, h.rules.openChild root⟩

theorem WellScoped.of_extends (h : w.WellScoped root) (hu : w.scopes.Extends n u.scopes)
    (hrules : u.AllRules fun _ r => r.WellFormed) : u.WellScoped root :=
  ⟨hu.nested, Nat.lt_of_lt_of_le h.has_root hu.size_le, hrules⟩

end Workspace

namespace Build

open Workspace

variable {root i f : ScopeId} {limit left n : Nat} {w u : Workspace} {e x : Expr} {c : Cell} {g : Goal}

theorem wellScoped_bindArguments (f i : ScopeId) (params : List String) (args : List Expr) :
    Preserves (WellScoped root) (bindArguments f i params args) :=
  fun w hw => hw.of_extends
    (extends_bindArguments (Nat.zero_le f.id) w i params args w (hw.nested.extends_refl 0))
    (allRules_bindArguments f i params args w hw.rules)

theorem wellScoped_goal (root : ScopeId) (limit left : Nat) (i : ScopeId) (e : Expr) :
    Preserves (WellScoped root) (goal (applyRule root limit left) i e) :=
  fun w hw => hw.of_extends
    (extends_goal (Nat.zero_le _) hw.has_root limit left i e w (hw.nested.extends_refl 0))
    (allRules_goal root limit left i e w hw.rules)

theorem extends_of_term (hw : w.scopes.Nested) (h : term i x w = .ok c u) (n : Nat) : w.Extends n u :=
  ⟨(extends_term n w i x).of_ok h (hw.extends_refl n),
    ((grows_term w i x).of_ok h (.refl i w)).state_eq⟩

theorem extends_of_goal (hw : w.WellScoped root)
    (h : goal (applyRule root limit left) i e w = .ok g u) : w.Extends w.scopes.scopes.size u :=
  ⟨(extends_goal (Nat.le_refl _) hw.has_root limit left i e).of_ok h (hw.nested.extends_refl _),
    ((grows_goal root limit left w i e).of_ok h (.refl i w)).state_eq⟩

theorem extends_of_goals (hw : w.WellScoped root) {es : List Expr} {gs : List Goal}
    (h : goals (applyRule root limit left) i es w = .ok gs u) : w.Extends w.scopes.scopes.size u := by
  have hextends := preserves_goals fun e (_ : e ∈ es) =>
    extends_goal (Nat.le_refl w.scopes.scopes.size) hw.has_root limit left i e
  exact ⟨hextends.of_ok h (hw.nested.extends_refl _),
    ((grows_goals root limit left w i es).of_ok h (.refl i w)).state_eq⟩

/-! ## Reading what was built -/

theorem denotes_of_term (hi : w.scopes.Has i) (h : term i x w = .ok c u) : u.Denotes i x c := by
  cases x with
  | list items => cases h
  | atom name =>
    have hres : resolve i name w = .ok c u := h
    obtain ⟨d, hl, h⟩ | ⟨hl, hvar, h⟩ | ⟨-, -, h⟩ | ⟨r, -, -, h⟩ := resolve_cases i name w
    · rw [hres] at h
      cases h
      exact .named hl
    · rw [hres] at h
      cases h
      exact .constant hvar hl (w.store.state_create_self none (.bound ⟨name⟩))
    · rw [hres] at h
      cases h
      exact .named (Scopes.lookup_of_find? (find?_newVariable hi name _))
    · rw [hres] at h
      cases h

theorem enclosing_bindArguments (j : ScopeId) (scopes : List ScopeId) (f i : ScopeId)
    (params : List String) (args : List Expr) :
    Preserves (fun w => w.scopes.enclosing j = scopes) (bindArguments f i params args) := by
  refine preserves_bindArguments (fun x _ => preserves_term (fun _ _ h => h) ?_) ?_
  · intro w name _ _ _ h
    exact (Scopes.enclosing_bind ..).trans h
  · intro param _ x w c u _ _ h
    exact (Scopes.enclosing_bind ..).trans h

/-- The parameters stand for the cells that the arguments denote. -/
theorem denotes_arguments (hw : w.scopes.Nested) (hi : w.scopes.Has i) (hf : w.scopes.Has f)
    (hif : i.id < f.id) {params : List String} (hnodup : params.Nodup) {args : List Expr}
    (hlength : args.length = params.length) (h : bindArguments f i params args w = .ok () u) :
    ∃ cells, List.Forall₂ (u.Denotes i) args cells ∧
      List.Forall₂ (fun param c => u.scopes.lookup f param = some (.cell c)) params cells := by
  have hne : i ≠ f := by
    rintro rfl
    exact Nat.lt_irrefl _ hif
  induction params generalizing args w with
  | nil =>
    obtain rfl := List.length_eq_zero_iff.mp hlength
    exact ⟨[], .nil, .nil⟩
  | cons param params ih =>
    match args with
    | [] => cases hlength
    | arg :: args =>
      obtain ⟨hnew, hnodup⟩ := List.nodup_cons.mp hnodup
      obtain ⟨c, v, hc, hrest⟩ := bindArguments_cons_ok h
      have hterm := extends_of_term hw hc f.id
      have hvi : v.scopes.Has i := Nat.lt_of_lt_of_le hi hterm.scopes.size_le
      have hvf : v.scopes.Has f := Nat.lt_of_lt_of_le hf hterm.scopes.size_le
      obtain ⟨cells, hcells, hparams⟩ := ih (hterm.scopes.nested.bind f param (.cell c))
        (Scopes.has_bind.mpr hvi) (Scopes.has_bind.mpr hvf) hnodup (Nat.succ.inj hlength) hrest
      refine ⟨c :: cells, .cons ?_ hcells, .cons ?_ hparams⟩
      · -- A parameter may hide a name from the frame on, so only the scopes before the frame are compared.
        have hscopes := (extends_bindArguments (Nat.le_refl f.id) v i params args).of_ok hrest
          ((hterm.scopes.nested.extends_refl f.id).bind_later (Nat.le_refl f.id) param (.cell c))
        have hkeeps := (keeps_bindArguments hne params args).of_ok hrest
          ((Keeps.refl i v).bind_ne hne param (.cell c))
        exact (denotes_of_term hi hc).mono hif ⟨hscopes, hkeeps.state_eq⟩
      · exact Scopes.lookup_of_find?
          ((find?_frame hnew args (.cell c)).of_ok hrest (find?_newVariable hvf param c))

/-- Goals in order are readings of the expressions in order. -/
theorem reads_goals {es : List Expr} {gs : List Goal} (hw : w.WellScoped root) (hi : w.scopes.Has i)
    (hes : ∀ e ∈ es, ∀ {w g u}, w.WellScoped root → w.scopes.Has i →
      goal (applyRule root limit left) i e w = .ok g u → u.Reads root i e g)
    (h : goals (applyRule root limit left) i es w = .ok gs u) :
    gs.length = es.length ∧ ∀ d g, (d, g) ∈ es.zip gs → u.Reads root i d g := by
  induction es generalizing w gs with
  | nil =>
    obtain ⟨rfl, -⟩ := goals_nil_ok h
    exact ⟨rfl, by simp⟩
  | cons e later ih =>
    obtain ⟨g, rest, v, rfl, hg, hrest⟩ := goals_cons_ok h
    have hv : v.WellScoped root := (wellScoped_goal root limit left i e).of_ok hg hw
    have hvi : v.scopes.Has i := Nat.lt_of_lt_of_le hi (extends_of_goal hw hg).scopes.size_le
    obtain ⟨hlength, hlater⟩ := ih hv hvi (fun d hd => hes d (List.mem_cons_of_mem e hd)) hrest
    refine ⟨congrArg Nat.succ hlength, fun d g' hd => ?_⟩
    rw [List.zip_cons_cons] at hd
    obtain hfirst | hd := List.mem_cons.mp hd
    · cases hfirst
      exact (hes e List.mem_cons_self hw hi hg).mono hvi hv.has_root (extends_of_goals hv hrest)
    · exact hlater d g' hd

/-- A goal reads as what it was built from if applications do. -/
theorem reads_goal_of (happly : ∀ {e name args w g u}, e.phrase = .application name args →
      w.WellScoped root → w.scopes.Has i → applyRule root limit left name args i w = .ok g u →
      u.Reads root i e g)
    (hw : w.WellScoped root) (hi : w.scopes.Has i)
    (h : goal (applyRule root limit left) i e w = .ok g u) : u.Reads root i e g := by
  induction e using Expr.phraseInduction generalizing w g u with
  | goal e ih =>
    rw [goal_eq] at h
    cases he : e.phrase with
    | application name args =>
      rw [he] at h
      exact happly he hw hi h
    | print x =>
      rw [he] at h
      obtain ⟨c, v, hx, h⟩ := bind_ok_iff.mp h
      obtain ⟨rfl, rfl⟩ := pure_ok_iff.mp h
      exact .print he (denotes_of_term hi hx)
    | equal x y =>
      rw [he] at h
      obtain ⟨a, v, hx, h⟩ := bind_ok_iff.mp h
      obtain ⟨b, z, hy, h⟩ := bind_ok_iff.mp h
      obtain ⟨rfl, rfl⟩ := pure_ok_iff.mp h
      have hv := extends_of_term hw.nested hx w.scopes.scopes.size
      have hvi : v.scopes.Has i := Nat.lt_of_lt_of_le hi hv.scopes.size_le
      have hz := extends_of_term hv.scopes.nested hy v.scopes.scopes.size
      exact .equal he ((denotes_of_term hi hx).mono hvi hz) (denotes_of_term hvi hy)
    | and es =>
      rw [he] at h ih
      obtain ⟨gs, v, hgs, h⟩ := bind_ok_iff.mp h
      obtain ⟨rfl, rfl⟩ := pure_ok_iff.mp h
      obtain ⟨hlength, hparts⟩ := reads_goals hw hi (fun d hd => ih d hd) hgs
      exact .and he hlength hparts
    | or es =>
      rw [he] at h ih
      obtain ⟨gs, v, hgs, h⟩ := bind_ok_iff.mp h
      obtain ⟨rfl, rfl⟩ := pure_ok_iff.mp h
      obtain ⟨hlength, hparts⟩ := reads_goals hw hi (fun d hd => ih d hd) hgs
      exact .or he hlength hparts
    | refused error =>
      rw [he] at h
      cases h

/-- **A goal that was built reads as what it was built from.** -/
theorem reads_goal (hw : w.WellScoped root) (hi : w.scopes.Has i)
    (h : goal (applyRule root limit left) i e w = .ok g u) : u.Reads root i e g := by
  induction left generalizing i w e g u with
  | zero =>
    refine reads_goal_of (fun _ _ _ happly => ?_) hw hi h
    obtain ⟨n, _, _, hn, -⟩ := applyRule_ok happly
    cases hn
  | succ left ih =>
    refine reads_goal_of (fun {e name args w g u} he hw hi happly => ?_) hw hi h
    obtain ⟨n, r, z, hn, hl, hlength, hargs, hbody⟩ := applyRule_ok happly
    cases hn
    obtain ⟨cells, hcells, hparams⟩ := denotes_arguments hw.openChild.nested (hi.openChild root)
      (w.scopes.has_openChild root) hi (hw.rules.lookup hl).nodup hlength hargs
    have hz : z.WellScoped root :=
      (wellScoped_bindArguments _ i r.params args).of_ok hargs hw.openChild
    have hfilled := (extends_bindArguments (Nat.zero_le _) _ i r.params args).of_ok hargs
      (hw.openChild.nested.extends_refl 0)
    have hzi : z.scopes.Has i := Nat.lt_of_lt_of_le (hi.openChild root) hfilled.size_le
    have hzf : z.scopes.Has (w.scopes.openChild root).1 :=
      Nat.lt_of_lt_of_le (w.scopes.has_openChild root) hfilled.size_le
    have hu := extends_of_goal hz hbody
    have hwhole := (extends_applyRule (Nat.le_refl w.scopes.scopes.size) hw.has_root limit (left + 1) name
      args i).of_ok happly (hw.nested.extends_refl _)
    have hframe : u.scopes.enclosing (w.scopes.openChild root).1 = u.scopes.chain root := by
      have hopen : (w.scopes.openChild root).2.enclosing (w.scopes.openChild root).1 =
          w.scopes.chain root := by
        rw [Scopes.enclosing_openChild, if_pos rfl]
      have hkept := (enclosing_bindArguments _ (w.scopes.chain root) _ i r.params args).of_ok hargs hopen
      rw [hu.scopes.enclosing_eq hzf, hkept, Scopes.chain, Scopes.chain,
        hwhole.enclosing_eq hw.has_root]
    exact .application he (hwhole.lookup_eq_some hi hl) (hcells.imp fun x c hx => hx.mono hzi hu)
      ⟨Nat.lt_of_lt_of_le hzf hu.scopes.size_le, hframe⟩
      (hparams.imp fun param c hc => hu.scopes.lookup_eq_some hzf hc) (ih hz hzf hbody)

end Build

end GoalSearch
