import GoalSearch.Proofs.Build.Growth
import GoalSearch.Proofs.Build.Proper
import GoalSearch.Proofs.Store.Valuation
import GoalSearch.Proofs.Truth

/-!
# Variables and cells

How an assignment to the variables of a scope and a valuation of the cells go together (`Fits`) while the
scope is built in. A term's cell stands for what the term denotes (`Fits.of_term`), and a valuation can
always be extended to the cells that a term adds (`Fits.exists_term`). In the frame of an application
the parameters stand for what the arguments denote:

    w'.Fits i σ ν → w'.Fits f ρ ν → params.map ρ = names.map (denote σ)     (Fits.of_arguments)
-/

namespace GoalSearch

namespace Workspace

/-- A valuation is one of the store's, and the variables of a scope stand for what their cells do. -/
structure Fits (w : Workspace) (i : ScopeId) (σ : Assignment) (ν : Valuation) : Prop where
  allows : w.store.Allows ν
  named : ∀ {name c}, (w.scopes.names i).find? name = some (.cell c) → σ name = ν c

variable {root i j f : ScopeId} {rules : NameTable Rule} {w w' : Workspace} {σ ρ : Assignment}
  {ν μ : Valuation}

/-! ## Workspaces that grow -/

theorem Keeps.allows (hw : w.Keeps i w') (h : w'.store.Allows ν) : w.store.Allows ν where
  bound := by
    intro c v hc
    have hhas : w.store.Has c := Store.has_of_ne_unbound (by simp [hc])
    exact h.bound (by rw [hw.state_eq hhas, hc])
  link := by
    intro c d hc
    have hhas : w.store.Has c := Store.has_of_ne_unbound (by simp [hc])
    exact h.link (by rw [hw.state_eq hhas, hc])

theorem Fits.of_keeps (h : w'.Fits i σ ν) (hw : w.Keeps i w') : w.Fits i σ ν where
  allows := hw.allows h.allows
  named := fun hname => h.named (hw.keeps hname)

/-- What fits a workspace fits it from the start. -/
theorem Fits.of_grows (h : w'.Fits j σ ν) (hw : w.Grows i w') : w.Fits j σ ν where
  allows := hw.toKeeps.allows h.allows
  named := fun hname => h.named (hw.find?_eq_some hname)

/-- What fits one scope goes on to fit it while another one is built in. -/
theorem Fits.elsewhere (h : w.Fits j σ ν) (hw : w.Grows i w') (hj : w.scopes.Has j) (hji : j ≠ i)
    (hν : w'.store.Allows ν) : w'.Fits j σ ν where
  allows := hν
  named := by
    intro name c hname
    rw [hw.names_eq hj hji] at hname
    exact h.named hname

theorem Fits.congr (h : w.Fits i σ ν) (hw : w.Proper root rules) (hne : i ≠ root)
    (heq : w.store.SameOn ν μ) : w.Fits i σ μ where
  allows := h.allows.congr hw.isEnd heq
  named := by
    intro name c hname
    obtain ⟨-, d, hd, hhas⟩ := hw.named hne hname
    cases hd
    rw [h.named hname, heq c hhas]

/-- What the names of a scope stand for in a valuation. -/
def reading (w : Workspace) (i : ScopeId) (ν : Valuation) : Assignment := fun name =>
  match (w.scopes.names i).find? name with
  | some (.cell c) => ν c
  | _ => ⟨""⟩

/-- Every scope can be read in a valuation. -/
theorem exists_fits (w : Workspace) (i : ScopeId) (hν : w.store.Allows ν) :
    ∃ ρ, w.Fits i ρ ν := by
  refine ⟨w.reading i ν, hν, ?_⟩
  intro name c hname
  simp only [reading, hname]

/-- A new frame says nothing yet. -/
theorem Fits.frame (hν : w.store.Allows ν) (root : ScopeId) (ρ : Assignment) :
    Fits { w with scopes := (w.scopes.openChild root).2 } (w.scopes.openChild root).1 ρ ν where
  allows := hν
  named := by
    intro name c hname
    rw [Scopes.names_openChild] at hname
    exact absurd (Scopes.has_of_find? hname) (w.scopes.not_has_openChild root)

/-- A variable that stands for what a cell does may get that cell. -/
theorem Fits.bind (h : w.Fits i σ ν) {name : String} {c : Cell} (hc : σ name = ν c) :
    Fits { w with scopes := w.scopes.bind i name (.cell c) } i σ ν where
  allows := h.allows
  named := by
    intro n d hn
    have hi := Scopes.has_bind.mp (Scopes.has_of_find? hn)
    rw [Scopes.names_bind_self name (.cell c) hi, NameTable.find?_insert] at hn
    by_cases hname : n = name
    · rw [if_pos hname] at hn
      cases hn
      rw [hname]
      exact hc
    · rw [if_neg hname] at hn
      exact h.named hn

theorem Fits.bind_ne (h : w.Fits i σ ν) (hif : i ≠ f) (name : String) (m : Meaning) :
    Fits { w with scopes := w.scopes.bind f name m } i σ ν where
  allows := h.allows
  named := by
    intro n d hn
    rw [Scopes.names_bind_ne w.scopes name m hif] at hn
    exact h.named hn

theorem Fits.create (h : w.Fits i σ ν) (hw : w.Proper root rules) (hne : i ≠ root)
    (name : Option String) (state : CellState) {v : Symbol}
    (hstate : state = .unbound ∨ state = .bound v) :
    Fits { w with store := (w.store.create name state).2 } i σ
      (Function.update ν (w.store.create name state).1 v) where
  allows := h.allows.create hw.isEnd name hstate
  named := (h.congr hw hne (w.store.sameOn_update ν name state v)).named

/-! ## Terms -/

open Build

/-- The cell of a term stands for what the term denotes. -/
theorem Fits.of_term (hw : w.Proper root rules) (hi : w.scopes.Has i) (hne : i ≠ root)
    {name : String} {c : Cell} (h : term i (.atom name) w = .ok c w') (hfits : w'.Fits i σ ν) :
    ν c = denote σ name := by
  obtain ⟨_, hatom, hok⟩ := term_ok h
  cases hatom
  cases hok with
  | known hl =>
    have hname := (hw.lookup_cell_iff hne).mp hl
    obtain ⟨hvar, -⟩ := hw.named hne hname
    rw [denote_of_variable hvar, hfits.named hname]
  | constant hvar =>
    rw [denote_of_constant hvar]
    exact hfits.allows.bound (w.store.state_create_self none (.bound ⟨name⟩))
  | fresh _ hvar =>
    rw [denote_of_variable hvar]
    exact (hfits.named (find?_newVariable hi name _)).symm

/-- A valuation extends to the cell of a term. -/
theorem Fits.exists_term (hfits : w.Fits i σ ν) (hw : w.Proper root rules) (hne : i ≠ root)
    {name : String} {c : Cell} (h : term i (.atom name) w = .ok c w') :
    ∃ μ, w.store.SameOn ν μ ∧ w'.Fits i σ μ := by
  obtain ⟨_, hatom, hok⟩ := term_ok h
  cases hatom
  cases hok with
  | known _ => exact ⟨ν, .refl w.store ν, hfits⟩
  | constant _ =>
    exact ⟨_, w.store.sameOn_update ν none (.bound ⟨name⟩) ⟨name⟩,
      hfits.create hw hne none (.bound ⟨name⟩) (.inr rfl)⟩
  | fresh _ _ =>
    -- A new variable is unbound, so that its cell may stand for what the variable does.
    have hcreate := hfits.create hw hne (some name) .unbound (v := σ name) (.inl rfl)
    refine ⟨_, w.store.sameOn_update ν (some name) .unbound (σ name), hcreate.bind ?_⟩
    exact (Function.update_self (w.store.create (some name) .unbound).1 (σ name) ν).symm

/-! ## Arguments -/

/-- A frame is filled for a caller. Both are scopes of a proper workspace, and neither is the root. -/
structure Fills (root : ScopeId) (rules : NameTable Rule) (f i : ScopeId) (w : Workspace) :
    Prop where
  proper : w.Proper root rules
  has_caller : w.scopes.Has i
  has_frame : w.scopes.Has f
  caller_ne : i ≠ root
  frame_ne : f ≠ root
  ne : f ≠ i

theorem Proper.fills (hw : w.Proper root rules) (hi : w.scopes.Has i) (hne : i ≠ root) :
    Fills root rules (w.scopes.openChild root).1 i
      { w with scopes := (w.scopes.openChild root).2 } where
  proper := hw.openChild
  has_caller := hi.openChild root
  has_frame := w.scopes.has_openChild root
  caller_ne := hne
  frame_ne := hw.frame_ne
  ne := fun e => w.scopes.not_has_openChild root (e ▸ hi)

/-- A frame with one more parameter. -/
theorem Fills.param (h : w.Fills root rules f i) {param : String}
    (hvar : isVariableName param = true) {x : Expr} {c : Cell} {u : Workspace}
    (hc : term i x w = .ok c u) :
    Fills root rules f i { u with scopes := u.scopes.bind f param (.cell c) } where
  proper := ((proper_term h.caller_ne x).of_ok hc h.proper).bind h.frame_ne hvar
    (has_of_term h.proper.toRooted h.caller_ne hc)
  has_caller := Scopes.has_bind.mpr
    (((grows_term w i x).of_ok hc (.refl i w)).has_scope h.has_caller)
  has_frame := Scopes.has_bind.mpr
    (((grows_term w i x).of_ok hc (.refl i w)).has_scope h.has_frame)
  caller_ne := h.caller_ne
  frame_ne := h.frame_ne
  ne := h.ne

theorem Fills.arguments (h : w.Fills root rules f i) {params : List String}
    (hvars : ∀ param ∈ params, isVariableName param = true) {args : List Expr}
    (hargs : bindArguments f i params args w = .ok () w') : w'.Fills root rules f i where
  proper := (proper_bindArguments h.caller_ne h.frame_ne hvars args).of_ok hargs h.proper
  has_caller := ((keeps_bindArguments h.ne.symm params args).of_ok hargs
    (.refl i w)).has_scope h.has_caller
  has_frame := ((keeps_bindArguments h.ne.symm params args).of_ok hargs
    (.refl i w)).has_scope h.has_frame
  caller_ne := h.caller_ne
  frame_ne := h.frame_ne
  ne := h.ne

/-- The arguments of an application are names. -/
theorem names_of_arguments {params : List String} {args : List Expr}
    (hlen : args.length = params.length) (h : bindArguments f i params args w = .ok () w') :
    ∃ names : List String, args = names.map .atom := by
  induction params generalizing args w with
  | nil =>
    obtain rfl := List.length_eq_zero_iff.mp hlen
    exact ⟨[], rfl⟩
  | cons param params ih =>
    match args with
    | [] => cases hlen
    | arg :: args =>
      obtain ⟨c, u, hc, hrest⟩ := bindArguments_cons_ok h
      obtain ⟨name, rfl, -⟩ := term_ok hc
      obtain ⟨names, rfl⟩ := ih (Nat.succ.inj hlen) hrest
      exact ⟨name :: names, rfl⟩

/-- The parameters stand for what the arguments denote. -/
theorem Fits.of_arguments (hw : w.Fills root rules f i) {params names : List String}
    (hvars : ∀ param ∈ params, isVariableName param = true) (hnodup : params.Nodup)
    (hlen : names.length = params.length)
    (h : bindArguments f i params (names.map .atom) w = .ok () w') (hσ : w'.Fits i σ ν)
    (hρ : w'.Fits f ρ ν) : params.map ρ = names.map (denote σ) := by
  -- Both assignments are read off the workspace at the end, so each step is compared with that one.
  induction params generalizing names w with
  | nil =>
    obtain rfl := List.length_eq_zero_iff.mp hlen
    rfl
  | cons param params ih =>
    match names with
    | [] => cases hlen
    | name :: names =>
      obtain ⟨hnew, hnodup⟩ := List.nodup_cons.mp hnodup
      obtain ⟨c, u, hc, hrest⟩ := bindArguments_cons_ok h
      have hfills := hw.param (hvars param List.mem_cons_self) hc
      have hcell : ρ param = ν c := by
        have hu : u.scopes.Has f := Scopes.has_bind.mp hfills.has_frame
        refine hρ.named ((find?_frame hnew (names.map .atom) (.cell c)).of_ok hrest ?_)
        exact find?_newVariable hu param c
      have hterm : ν c = denote σ name := by
        have hkeeps := (keeps_bindArguments hw.ne.symm params (names.map .atom)).of_ok hrest
          ((Keeps.refl i u).bind_ne hw.ne.symm param (.cell c))
        exact Fits.of_term hw.proper hw.has_caller hw.caller_ne hc (hσ.of_keeps hkeeps)
      have hlater := ih hfills (fun p hp => hvars p (List.mem_cons_of_mem param hp)) hnodup
        (Nat.succ.inj hlen) hrest
      rw [List.map_cons, List.map_cons, hcell, hterm, hlater]

/-- A valuation extends to the cells of arguments, if the parameters stand for what they denote. -/
theorem Fits.exists_arguments (hw : w.Fills root rules f i) {params names : List String}
    (hvars : ∀ param ∈ params, isVariableName param = true)
    (h : bindArguments f i params (names.map .atom) w = .ok () w') (hσ : w.Fits i σ ν)
    (hρ : w.Fits f ρ ν) (hmap : params.map ρ = names.map (denote σ)) :
    ∃ μ, w.store.SameOn ν μ ∧ w'.Fits i σ μ ∧ w'.Fits f ρ μ := by
  induction params generalizing names w ν with
  | nil =>
    cases h
    exact ⟨ν, fun _ _ => rfl, hσ, hρ⟩
  | cons param params ih =>
    match names with
    | [] => cases hmap
    | name :: names =>
      rw [List.map_cons, List.map_cons, List.cons.injEq] at hmap
      obtain ⟨hparam, hmap⟩ := hmap
      obtain ⟨c, u, hc, hrest⟩ := bindArguments_cons_ok h
      have hgrows := (grows_term w i (.atom name)).of_ok hc (.refl i w)
      have hfills := hw.param (hvars param List.mem_cons_self) hc
      obtain ⟨κ, hsame, hσu⟩ := hσ.exists_term hw.proper hw.caller_ne hc
      have hρu : u.Fits f ρ κ :=
        (hρ.congr hw.proper hw.frame_ne hsame).elsewhere hgrows hw.has_frame hw.ne hσu.allows
      have hcell : ρ param = κ c :=
        hparam.trans (Fits.of_term hw.proper hw.has_caller hw.caller_ne hc hσu).symm
      obtain ⟨μ, hsame', hσ', hρ'⟩ := ih hfills
        (fun p hp => hvars p (List.mem_cons_of_mem param hp)) hrest
        (hσu.bind_ne hw.ne.symm param (.cell c)) (hρu.bind hcell) hmap
      exact ⟨μ, hsame.trans hsame' hgrows.size_le, hσ', hρ'⟩

end Workspace

end GoalSearch
