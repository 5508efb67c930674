import GoalSearch.Proofs.Build.Proper
import GoalSearch.Proofs.Build.Reading
import GoalSearch.Proofs.Store.Lawful

/-!
# What building leaves behind

The only trace of a build in what was there before are new names in the scope that it was done in. They are
variables of the goal's own text, and their cells are new (`Workspace.Footprint`). This holds at every point
of the build, so that it does not matter whether it succeeds:

    w.WellScoped root → w.scopes.Has s → w.Footprint s e.termNames ((buildGoal root limit s e).leaves w)

The scope may be any one, also the global scope or a scope around it. What belongs to the rules' bodies is
written to frames, which were not there before. A build that succeeds has named every variable that was
without a meaning (`buildGoal_footprint`).
-/

namespace GoalSearch

/-- A cell was created for a variable on the way from one store to another and is still unbound. -/
structure Store.NewVariable (s t : Store) (name : String) (c : Cell) : Prop where
  not_has : ¬s.Has c
  has : t.Has c
  unbound : t.state c = .unbound
  name_eq : t.name? c = some name

theorem Store.NewVariable.create {s t : Store} {name : String} {c : Cell} (h : s.NewVariable t name c)
    (other : Option String) (state : CellState) : s.NewVariable (t.create other state).2 name c := by
  have hne : c ≠ (t.create other state).1 := by
    rintro rfl
    exact t.not_has_create other state h.has
  refine ⟨h.not_has, (Store.has_create_iff other state).mpr (.inl h.has), ?_, ?_⟩
  · rw [t.state_create_ne other state hne, h.unbound]
  · rw [t.name?_create_ne other state hne, h.name_eq]

namespace Workspace

/-- A scope has got a meaning for a name that it gave no meaning to. -/
def Gains (s : ScopeId) (w u : Workspace) (name : String) (m : Meaning) : Prop :=
  (w.scopes.names s).find? name = none ∧ (u.scopes.names s).find? name = some m

/-- A workspace has grown in a scope only by new cells for some variables that had no meaning there. -/
structure Footprint (s : ScopeId) (names : List String) (w u : Workspace) : Prop
    extends w.Grows s u where
  gained : ∀ {name m}, w.Gains s u name m →
    name ∈ names ∧ isVariableName name = true ∧ w.scopes.lookup s name = none ∧
      ∃ c, m = .cell c ∧ w.store.NewVariable u.store name c

variable {s f : ScopeId} {w u v : Workspace} {names : List String}

theorem Footprint.refl (s : ScopeId) (names : List String) (w : Workspace) : w.Footprint s names w where
  toGrows := .refl s w
  gained := by
    rintro name m ⟨hnone, hsome⟩
    rw [hnone] at hsome
    cases hsome

/-- Growth counts as none for a scope that has the same names afterwards. -/
theorem Footprint.of_names_eq (h : w.Footprint s names u) (hgrows : w.Grows s v)
    (hnames : v.scopes.names s = u.scopes.names s)
    (hnew : ∀ {name c}, w.store.NewVariable u.store name c → w.store.NewVariable v.store name c) :
    w.Footprint s names v where
  toGrows := hgrows
  gained := by
    rintro name m ⟨hnone, hsome⟩
    rw [hnames] at hsome
    obtain ⟨hmem, hvar, hl, c, hm, hc⟩ := h.gained ⟨hnone, hsome⟩
    exact ⟨hmem, hvar, hl, c, hm, hnew hc⟩

/-- The scope gets a cell for a variable that has no meaning there. -/
theorem Footprint.newVariable (h : w.Footprint s names u) (hs : w.scopes.Has s) {name : String}
    (hmem : name ∈ names) (hvar : isVariableName name = true) (hl : w.scopes.lookup s name = none)
    (hlu : u.scopes.lookup s name = none) :
    w.Footprint s names ((Build.newVariable s name).leaves u) where
  toGrows := h.toGrows.trans (Build.grows_newVariable hlu)
  gained := by
    rintro other m ⟨hnone, hsome⟩
    have hfind : ((u.scopes.bind s name (.cell (u.store.createNamed name).1)).names s).find? other =
      some m := hsome
    rw [Scopes.find?_bind (h.has_scope hs)] at hfind
    by_cases hother : other = name
    · rw [if_pos ⟨rfl, hother⟩, Option.some.injEq] at hfind
      rw [hother]
      refine ⟨hmem, hvar, hl, _, hfind.symm, Nat.not_lt.mpr h.size_le, ?_, ?_, ?_⟩
      · exact u.store.has_create (some name) .unbound
      · exact u.store.state_create_self (some name) .unbound
      · exact u.store.name?_create_self (some name) .unbound
    · rw [if_neg fun hand => hother hand.2] at hfind
      obtain ⟨hmem', hvar', hl', c, hm, hc⟩ := h.gained ⟨hnone, hfind⟩
      exact ⟨hmem', hvar', hl', c, hm, hc.create (some name) .unbound⟩

/-- A name that has got a meaning as seen from the scope has got it there. -/
theorem Footprint.gains_of_lookup (h : w.Footprint s names u) (hw : w.scopes.Nested)
    (hs : w.scopes.Has s) (henclosing : u.scopes.enclosing s = w.scopes.enclosing s) {name : String}
    {m : Meaning} (hl : w.scopes.lookup s name = none) (hlu : u.scopes.lookup s name = some m) :
    w.Gains s u name m := by
  have hnone : ∀ k ∈ w.scopes.chain s, (w.scopes.names k).find? name = none :=
    List.findSome?_eq_none_iff.mp hl
  obtain ⟨k, hk, hkm⟩ := List.exists_of_findSome?_eq_some hlu
  refine ⟨hnone s List.mem_cons_self, ?_⟩
  obtain rfl | hk := List.mem_cons.mp hk
  · exact hkm
  · -- The scopes around this one are as they were.
    rw [henclosing] at hk
    have hlt : k.id < s.id := hw.lt_of_mem_enclosing hk
    have hne : k ≠ s := by
      rintro rfl
      exact Nat.lt_irrefl _ hlt
    rw [h.names_eq (Nat.lt_trans hlt hs) hne, hnone k (List.mem_cons_of_mem s hk)] at hkm
    cases hkm

/-- Different names are gained with different cells. -/
theorem Footprint.name_eq (h : w.Footprint s names u) {name other : String} {c : Cell}
    (hname : w.Gains s u name (.cell c)) (hother : w.Gains s u other (.cell c)) : name = other := by
  obtain ⟨-, -, -, _, ⟨⟩, hc⟩ := h.gained hname
  obtain ⟨-, -, -, _, ⟨⟩, hc'⟩ := h.gained hother
  exact Option.some.inj (hc.name_eq.symm.trans hc'.name_eq)

end Workspace

namespace Build

open Workspace

variable {root s f : ScopeId} {w : Workspace} {names : List String}

/-- A term of the goal's own text. -/
theorem footprint_term (hs : w.scopes.Has s) {x : Expr} (hx : ∀ name, x = .atom name → name ∈ names) :
    Preserves (fun u => w.scopes.Extends w.scopes.scopes.size u.scopes ∧ w.Footprint s names u)
      (term s x) := by
  refine preserves_term ?_ ?_
  · rintro name u ⟨hextends, hu⟩
    have hgrows := hu.toGrows.trans (grows_create s u none (.bound ⟨name⟩))
    exact ⟨hextends, hu.of_names_eq hgrows rfl fun hc => hc.create none (.bound ⟨name⟩)⟩
  · rintro u name hname hl hvar ⟨hextends, hu⟩
    exact ⟨hextends.trans (hextends.nested.extends_bind hl hvar _ _),
      hu.newVariable hs (hx name hname) hvar (hextends.lookup_eq_none hs hl) hl⟩

/-- The arguments are terms of the text. What they fill is a frame. -/
theorem footprint_bindArguments (hs : w.scopes.Has s) (hf : w.scopes.scopes.size ≤ f.id)
    {args : List Expr} (hargs : ∀ name, .atom name ∈ args → name ∈ names) (params : List String) :
    Preserves (fun u => w.scopes.Extends w.scopes.scopes.size u.scopes ∧ w.Footprint s names u)
      (bindArguments f s params args) := by
  refine preserves_bindArguments (fun x hx => footprint_term hs ?_) ?_
  · rintro name rfl
    exact hargs name hx
  · rintro param - x v c u - - ⟨hextends, hu⟩
    have hsf : s ≠ f := by
      rintro rfl
      exact absurd hs (Nat.not_lt.mpr hf)
    refine ⟨hextends.bind_later hf param (.cell c), hu.of_names_eq ?_ ?_ id⟩
    · exact hu.toGrows.bind_frame (Nat.not_lt.mpr hf) param (.cell c)
    · exact Scopes.names_bind_ne u.scopes param (.cell c) hsf

/-- The rule's body is built in the frame. -/
theorem footprint_applyRule (hs : w.scopes.Has s) (hroot : w.scopes.Has root) (limit left : Nat)
    (name : String) {args : List Expr} (hargs : ∀ name, .atom name ∈ args → name ∈ names) :
    Preserves (fun u => w.scopes.Extends w.scopes.scopes.size u.scopes ∧ w.Footprint s names u)
      (applyRule root limit left name args s) := by
  cases left with
  | zero =>
    rw [applyRule]
    exact (preserves_rule s name args.length).bind fun _ => preserves_throw _
  | succ left =>
    rw [applyRule]
    refine (preserves_rule s name args.length).bind fun r => ?_
    rintro u ⟨hextends, hu⟩
    have hopen := hextends.trans
      (hextends.nested.extends_openChild (Nat.lt_of_lt_of_le hroot hextends.size_le) hextends.size_le)
    have hframe : w.Footprint s names { u with scopes := (u.scopes.openChild root).2 } :=
      hu.of_names_eq (hu.toGrows.openChild root) (u.scopes.names_openChild root s) id
    have hf : ¬w.scopes.Has (u.scopes.openChild root).1 := Nat.not_lt.mpr hextends.size_le
    have hbody : Preserves
        (fun z => w.scopes.Extends w.scopes.scopes.size z.scopes ∧ w.Footprint s names z)
        (goal (applyRule root limit left) (u.scopes.openChild root).1 r.body) := by
      rintro z ⟨hextends, hz⟩
      have hgrows := grows_goal root limit left z (u.scopes.openChild root).1 r.body z (.refl _ z)
      have hsf : s ≠ (u.scopes.openChild root).1 := by
        rintro rfl
        exact hf hs
      refine ⟨extends_goal (Nat.le_refl _) hroot limit left _ r.body z hextends,
        hz.of_names_eq (hz.toGrows.frame hf hgrows) (hgrows.names_eq (hz.has_scope hs) hsf) ?_⟩
      intro name c hc
      exact created_goal (P := fun t => w.store.NewVariable t name c)
        (fun t other state _ ht => ht.create other state) root limit left _ r.body z hc
    have hfilled := footprint_bindArguments (f := (u.scopes.openChild root).1) hs hextends.size_le hargs
      r.params
    exact (hfilled.bind fun _ => hbody) _ ⟨hopen, hframe⟩

/-- **Building leaves a footprint of its own variables**, whether or not it succeeds. -/
theorem footprint_goal (hs : w.scopes.Has s) (hroot : w.scopes.Has root) (limit left : Nat) (e : Expr) :
    Preserves (fun u => w.scopes.Extends w.scopes.scopes.size u.scopes ∧ w.Footprint s e.termNames u)
      (goal (applyRule root limit left) s e) :=
  preserves_goal_of_termNames (fun _ hx => footprint_term hs hx)
    fun name _ hargs => footprint_applyRule hs hroot limit left name hargs

end Build

/-- **Building has no side effects but for the variables of the goal's own text.** Cells keep their states,
scopes keep their meanings, and other scopes gain none. A build that succeeds has named all variables that
had no meaning, and what it gives is a reading of the goal, in which each of them stands for its cell. -/
theorem buildGoal_footprint {root s : ScopeId} {w : Workspace} (hw : w.WellScoped root)
    (hs : w.scopes.Has s) (limit : Nat) (e : Expr) :
    let build := buildGoal root limit s e
    w.Footprint s e.termNames (build.leaves w) ∧
      (∀ name other c, w.Gains s (build.leaves w) name (.cell c) →
        w.Gains s (build.leaves w) other (.cell c) → name = other) ∧
      ∀ g u, build w = .ok g u →
        (∀ name, (∃ m, w.Gains s u name m) ↔
          name ∈ e.termNames ∧ isVariableName name = true ∧ w.scopes.lookup s name = none) ∧
        u.Reads root s e g ∧
        (∀ name c, w.Gains s u name (.cell c) → ∀ d, u.Denotes s (.atom name) d ↔ d = c) ∧
        g.Plain := by
  intro build
  obtain ⟨hextends, hfootprint⟩ := Build.footprint_goal hs hw.has_root limit limit e w
    ⟨hw.nested.extends_refl _, .refl s e.termNames w⟩
  refine ⟨hfootprint, fun name other c hname hother => hfootprint.name_eq hname hother, ?_⟩
  intro g u h
  have hreads : u.Reads root s e g := Build.reads_goal hw hs h
  obtain rfl : build.leaves w = u := Build.leaves_of_ok h
  refine ⟨fun name => ⟨?_, ?_⟩, hreads, fun name c hc => ?_, hreads.plain⟩
  · rintro ⟨m, hm⟩
    obtain ⟨hmem, hvar, hl, -⟩ := hfootprint.gained hm
    exact ⟨hmem, hvar, hl⟩
  · rintro ⟨hmem, hvar, hl⟩
    obtain ⟨c, hc⟩ := hreads.exists_denotes hmem
    cases hc with
    | named hlu =>
      exact ⟨.cell c, hfootprint.gains_of_lookup hw.nested hs (hextends.enclosing_eq hs) hl hlu⟩
    | constant hconstant _ _ =>
      rw [hvar] at hconstant
      cases hconstant
  · exact fun d => Workspace.denotes_iff_of_find? (hfootprint.gained hc).2.1 hc.2

/-- The scope of the query is the global scope. It knows one of the variables, and the rule has a variable of
its own. -/
theorem buildGoal_footprint_global :
    let r : Rule := ⟨"pair", ["X", "Y"], .list [.atom "and",
      .list [.atom ":=:", .atom "X", .atom "Z"], .list [.atom ":=:", .atom "Z", .atom "Y"]]⟩
    let table := (NameTable.empty.insert "pair" (.rule r)).insert "A" (.cell ⟨0⟩)
    let w : Workspace := ⟨(Store.empty.createNamed "A").2, (Scopes.empty.openRoot table).2⟩
    let e : Expr := .list [.atom "and", .list [.atom "pair", .atom "A", .atom "b"],
      .list [.atom "print", .atom "B"]]
    ∃ g u, buildGoal ⟨0⟩ 1 ⟨0⟩ e w = .ok g u ∧ u.Reads ⟨0⟩ ⟨0⟩ e g ∧ (∃ m, w.Gains ⟨0⟩ u "B" m) ∧
      ∀ name m, w.Gains ⟨0⟩ u name m → name = "B" := by
  intro r table w e
  have hr : r.WellFormed := ⟨by decide, by decide +kernel⟩
  have hw : w.WellScoped ⟨0⟩ := by
    refine Workspace.wellScoped_openRoot _ fun name r' hr' => ?_
    rw [NameTable.find?_insert, NameTable.find?_insert] at hr'
    split at hr'
    · cases hr'
    · split at hr'
      · cases hr'
        exact hr
      · cases hr'
  obtain ⟨g, u, h⟩ : ∃ g u, buildGoal ⟨0⟩ 1 ⟨0⟩ e w = .ok g u := ⟨_, _, rfl⟩
  obtain ⟨-, -, hok⟩ := buildGoal_footprint hw (s := ⟨0⟩) Nat.zero_lt_one 1 e
  obtain ⟨hgains, hreads, -, -⟩ := hok g u h
  refine ⟨g, u, h, hreads, (hgains "B").mpr ⟨by decide +kernel, by decide +kernel, by rfl⟩, ?_⟩
  intro name m hm
  obtain ⟨hmem, hvar, hl⟩ := (hgains name).mp ⟨m, hm⟩
  have hnames : name ∈ ["A", "b", "B"] := hmem
  simp only [List.mem_cons, List.not_mem_nil, or_false] at hnames
  obtain rfl | rfl | rfl := hnames
  · cases hl
  · revert hvar
    decide +kernel
  · rfl

end GoalSearch
