import GoalSearch.Proofs.Build.Phrase

/-!
# Steps of building

What the steps of building do, case by case: how a name becomes a cell (`resolve_cases`), of which
kinds the goals are that a build gives (`goal_ok`), and what the application of a rule goes through
(`applyRule_ok`). Later proofs use these cases and do not open the steps themselves.

`Preserves` is for what holds in every workspace on the way, also when a build fails. A goal preserves
whatever its terms and applications preserve (`preserves_goal`).
-/

namespace GoalSearch

namespace Build

variable {α β : Type} {w w' : Workspace}

/-! ## One step after another -/

theorem bind_ok_iff {m : Build α} {f : α → Build β} {b : β} :
    (m >>= f) w = .ok b w' ↔ ∃ a u, m w = .ok a u ∧ f a u = .ok b w' := by
  show EStateM.bind m f w = .ok b w' ↔ _
  unfold EStateM.bind
  cases m w with
  | ok a u =>
    constructor
    · intro h
      exact ⟨a, u, rfl, h⟩
    · rintro ⟨_, _, h, hf⟩
      cases h
      exact hf
  | error e u => simp

theorem pure_ok_iff {a b : α} : (pure a : Build α) w = .ok b w' ↔ a = b ∧ w = w' := by
  show EStateM.Result.ok a w = .ok b w' ↔ _
  simp

/-- The workspace that a step leaves, whether or not it fails. -/
def leaves (m : Build α) (w : Workspace) : Workspace :=
  match m w with
  | .ok _ w' => w'
  | .error _ w' => w'

/-- What holds of a workspace still holds of the one that a step leaves. -/
def Preserves (P : Workspace → Prop) (m : Build α) : Prop := ∀ w, P w → P (m.leaves w)

variable {P : Workspace → Prop}

theorem leaves_of_ok {m : Build α} {a : α} (h : m w = .ok a w') : m.leaves w = w' := by
  unfold leaves
  rw [h]

theorem leaves_of_error {m : Build α} {e : BuildError} (h : m w = .error e w') :
    m.leaves w = w' := by
  unfold leaves
  rw [h]

theorem leaves_congr {m m' : Build α} (h : m w = m' w) : m.leaves w = m'.leaves w := by
  unfold leaves
  rw [h]

theorem Preserves.of_ok {m : Build α} {a : α} (h : Preserves P m) (hm : m w = .ok a w')
    (hw : P w) : P w' := by
  rw [← leaves_of_ok hm]
  exact h w hw

theorem preserves_pure (a : α) : Preserves P (pure a : Build α) := fun _ h => h

theorem preserves_throw (e : BuildError) : Preserves P (throw e : Build α) := fun _ h => h

/-- Two steps in order preserve what the first one does, if the second one does so after a success. -/
theorem Preserves.bind_of_ok {m : Build α} {f : α → Build β} (hm : Preserves P m)
    (hf : ∀ {w a u}, P w → m w = .ok a u → P u → P ((f a).leaves u)) : Preserves P (m >>= f) := by
  intro w hw
  have hu := hm w hw
  show P (match EStateM.bind m f w with
    | .ok _ w' => w'
    | .error _ w' => w')
  unfold leaves at hu
  unfold EStateM.bind
  cases h : m w with
  | ok a u =>
    rw [h] at hu
    exact hf hw h hu
  | error e u =>
    rw [h] at hu
    exact hu

theorem Preserves.bind {m : Build α} {f : α → Build β} (hm : Preserves P m)
    (hf : ∀ a, Preserves P (f a)) : Preserves P (m >>= f) :=
  hm.bind_of_ok fun {_ a u} _ _ hu => hf a u hu

/-! ## Terms -/

theorem resolve_eq (i : ScopeId) (name : String) (w : Workspace) :
    resolve i name w =
      (match w.scopes.lookup i name with
        | some (.cell cell) => pure cell
        | some (.rule _) =>
          if isVariableName name then throw (.expectedTerm name) else newConstant name
        | none => if isVariableName name then newVariable i name else newConstant name :
        Build Cell) w := rfl

/-- How a name in the place of a term becomes a cell. -/
theorem resolve_cases (i : ScopeId) (name : String) (w : Workspace) :
    (∃ c, w.scopes.lookup i name = some (.cell c) ∧ resolve i name w = .ok c w) ∨
    ((∀ c, w.scopes.lookup i name ≠ some (.cell c)) ∧ isVariableName name = false ∧
      resolve i name w = newConstant name w) ∨
    (w.scopes.lookup i name = none ∧ isVariableName name = true ∧
      resolve i name w = newVariable i name w) ∨
    (∃ r, w.scopes.lookup i name = some (.rule r) ∧ isVariableName name = true ∧
      resolve i name w = .error (.expectedTerm name) w) := by
  rw [resolve_eq]
  cases hl : w.scopes.lookup i name with
  | none =>
    cases hv : isVariableName name with
    | true => exact .inr (.inr (.inl ⟨rfl, rfl, rfl⟩))
    | false => exact .inr (.inl ⟨by simp, rfl, rfl⟩)
  | some meaning =>
    cases meaning with
    | cell c => exact .inl ⟨c, rfl, rfl⟩
    | rule r =>
      cases hv : isVariableName name with
      | true => exact .inr (.inr (.inr ⟨r, rfl, rfl, rfl⟩))
      | false => exact .inr (.inl ⟨by simp, rfl, rfl⟩)

inductive TermOk (i : ScopeId) (w : Workspace) (name : String) : Cell → Workspace → Prop where
  /-- The name has had a cell before. -/
  | known {c : Cell} (hl : w.scopes.lookup i name = some (.cell c)) : TermOk i w name c w
  /-- The name is a constant and gets a cell of its own. -/
  | constant (hvar : isVariableName name = false) :
      TermOk i w name (w.store.createBound ⟨name⟩).1
        { w with store := (w.store.createBound ⟨name⟩).2 }
  /-- The name is a variable that is new in the scope. -/
  | fresh (hl : w.scopes.lookup i name = none) (hvar : isVariableName name = true) :
      TermOk i w name (w.store.createNamed name).1
        ⟨(w.store.createNamed name).2,
          w.scopes.bind i name (.cell (w.store.createNamed name).1)⟩

theorem term_ok {i : ScopeId} {x : Expr} {c : Cell} (h : term i x w = .ok c w') :
    ∃ name, x = .atom name ∧ TermOk i w name c w' := by
  cases x with
  | list items => cases h
  | atom name =>
    refine ⟨name, rfl, ?_⟩
    have hres : resolve i name w = .ok c w' := h
    obtain ⟨d, hl, h⟩ | ⟨-, hvar, h⟩ | ⟨hl, hvar, h⟩ | ⟨r, -, -, h⟩ := resolve_cases i name w
    · rw [hres] at h
      cases h
      exact .known hl
    · rw [hres] at h
      cases h
      exact .constant hvar
    · rw [hres] at h
      cases h
      exact .fresh hl hvar
    · rw [hres] at h
      cases h

/-- A term preserves what new constants do, and what its variable does if it is new. -/
theorem preserves_term {i : ScopeId} {x : Expr}
    (hconstant : ∀ name, Preserves P (newConstant name))
    (hvariable : ∀ {w name}, x = .atom name → w.scopes.lookup i name = none →
      isVariableName name = true → P w → P ((newVariable i name).leaves w)) :
    Preserves P (term i x) := by
  cases x with
  | list items => exact preserves_throw (.expectedIdentifier (.list items))
  | atom name =>
    intro w hw
    show P ((resolve i name).leaves w)
    obtain ⟨c, -, h⟩ | ⟨-, -, h⟩ | ⟨hl, hvar, h⟩ | ⟨r, -, -, h⟩ := resolve_cases i name w
    · rw [leaves_of_ok h]
      exact hw
    · rw [leaves_congr h]
      exact hconstant name w hw
    · rw [leaves_congr h]
      exact hvariable rfl hl hvar hw
    · have hthrow : resolve i name w = (throw (.expectedTerm name) : Build Cell) w := h
      rw [leaves_congr hthrow]
      exact hw

/-! ## Goals -/

inductive GoalOk (apply : Application) (i : ScopeId) (w : Workspace) :
    Expr → Goal → Workspace → Prop where
  | bare {name : String} {g : Goal} {w' : Workspace} (h : apply name [] i w = .ok g w') :
      GoalOk apply i w (.atom name) g w'
  | print {x : Expr} {c : Cell} {w' : Workspace} (h : term i x w = .ok c w') :
      GoalOk apply i w (.list [.atom Keyword.print.text, x]) (.print c) w'
  | equal {x y : Expr} {a b : Cell} {u w' : Workspace} (hx : term i x w = .ok a u)
      (hy : term i y u = .ok b w') :
      GoalOk apply i w (.list [.atom Keyword.equal.text, x, y]) (.unify a b) w'
  | and {es : List Expr} {gs : List Goal} {w' : Workspace} (h : goals apply i es w = .ok gs w') :
      GoalOk apply i w (.list (.atom Keyword.and.text :: es)) (.and gs) w'
  | or {es : List Expr} {gs : List Goal} {w' : Workspace} (h : goals apply i es w = .ok gs w') :
      GoalOk apply i w (.list (.atom Keyword.or.text :: es)) (.or gs) w'
  | application {name : String} {args : List Expr} {g : Goal} {w' : Workspace}
      (hname : isGoalForm name = false) (h : apply name args i w = .ok g w') :
      GoalOk apply i w (.list (.atom name :: args)) g w'

theorem goal_ok {apply : Application} {i : ScopeId} {e : Expr} {g : Goal}
    (h : goal apply i e w = .ok g w') : GoalOk apply i w e g w' := by
  match e with
  | .atom name =>
    rw [goal] at h
    exact .bare h
  | .list [] =>
    rw [goal] at h
    cases h
  | .list (.list items :: _) =>
    rw [goal] at h
    cases h
  | .list (.atom head :: args) =>
    unfold goal at h
    cases hk : Keyword.ofText? head with
    | none =>
      rw [hk] at h
      exact .application (by simp [isGoalForm, hk]) h
    | some k =>
      have htext := Keyword.text_of_ofText? hk
      rw [hk] at h
      cases k with
      | define => exact .application (by simp [isGoalForm, hk]) h
      | query => exact .application (by simp [isGoalForm, hk]) h
      | print =>
        rcases args with _ | ⟨x, _ | ⟨_, _⟩⟩
        · cases h
        · obtain ⟨c, u, hx, hg⟩ := bind_ok_iff.mp h
          obtain ⟨rfl, rfl⟩ := pure_ok_iff.mp hg
          rw [← htext]
          exact .print hx
        · cases h
      | equal =>
        rcases args with _ | ⟨x, _ | ⟨y, _ | ⟨_, _⟩⟩⟩
        · cases h
        · cases h
        · obtain ⟨a, u, hx, h⟩ := bind_ok_iff.mp h
          obtain ⟨b, v, hy, hg⟩ := bind_ok_iff.mp h
          obtain ⟨rfl, rfl⟩ := pure_ok_iff.mp hg
          rw [← htext]
          exact .equal hx hy
        · cases h
      | and =>
        obtain ⟨gs, u, hgs, hg⟩ := bind_ok_iff.mp h
        obtain ⟨rfl, rfl⟩ := pure_ok_iff.mp hg
        rw [← htext]
        exact .and hgs
      | or =>
        obtain ⟨gs, u, hgs, hg⟩ := bind_ok_iff.mp h
        obtain ⟨rfl, rfl⟩ := pure_ok_iff.mp hg
        rw [← htext]
        exact .or hgs

theorem goals_nil_ok {apply : Application} {i : ScopeId} {gs : List Goal}
    (h : goals apply i [] w = .ok gs w') : gs = [] ∧ w' = w := by
  rw [goals] at h
  obtain ⟨hgs, hw⟩ := pure_ok_iff.mp h
  exact ⟨hgs.symm, hw.symm⟩

theorem goals_cons_ok {apply : Application} {i : ScopeId} {e : Expr} {later : List Expr}
    {gs : List Goal} (h : goals apply i (e :: later) w = .ok gs w') :
    ∃ g rest u, gs = g :: rest ∧ goal apply i e w = .ok g u ∧
      goals apply i later u = .ok rest w' := by
  rw [goals] at h
  obtain ⟨g, u, hg, h⟩ := bind_ok_iff.mp h
  obtain ⟨rest, v, hrest, h⟩ := bind_ok_iff.mp h
  obtain ⟨rfl, rfl⟩ := pure_ok_iff.mp h
  exact ⟨g, rest, u, rfl, hg, hrest⟩

theorem preserves_goals {apply : Application} {i : ScopeId} {es : List Expr}
    (hes : ∀ e ∈ es, Preserves P (goal apply i e)) : Preserves P (goals apply i es) := by
  induction es with
  | nil =>
    rw [goals]
    exact preserves_pure []
  | cons e later ih =>
    rw [goals]
    refine (hes e List.mem_cons_self).bind fun g => ?_
    refine (ih fun d hd => hes d (List.mem_cons_of_mem e hd)).bind fun rest => ?_
    exact preserves_pure (g :: rest)

/-- A goal preserves what the terms and applications do whose names are among those of its own terms. -/
theorem preserves_goal_of_termNames {apply : Application} {i : ScopeId} {e : Expr}
    (hterm : ∀ x, (∀ name, x = .atom name → name ∈ e.termNames) → Preserves P (term i x))
    (happly : ∀ name args, (∀ x, .atom x ∈ args → x ∈ e.termNames) →
      Preserves P (apply name args i)) :
    Preserves P (goal apply i e) := by
  induction e using Expr.phraseInduction with
  | goal e ih =>
    have hown : ∀ x ∈ e.phrase.terms, Preserves P (term i x) := by
      intro x hx
      refine hterm x ?_
      rintro name rfl
      exact Expr.mem_termNames_of_mem_terms hx
    have hparts : Preserves P (goals apply i e.phrase.parts) := by
      refine preserves_goals fun d hd => ih d hd (fun x hx => ?_) fun name args hargs => ?_
      · exact hterm x fun name hname => Expr.mem_termNames_of_mem_parts hd (hx name hname)
      · exact happly name args fun x hx => Expr.mem_termNames_of_mem_parts hd (hargs x hx)
    rw [goal_eq]
    cases he : e.phrase with
    | application name args =>
      refine happly name args fun x hx => Expr.mem_termNames_of_mem_terms ?_
      rw [he]
      exact hx
    | print x =>
      rw [he] at hown
      exact (hown x List.mem_cons_self).bind fun _ => preserves_pure _
    | equal x y =>
      rw [he] at hown
      refine (hown x List.mem_cons_self).bind fun _ => ?_
      exact (hown y (List.mem_cons_of_mem x List.mem_cons_self)).bind fun _ => preserves_pure _
    | and es | or es =>
      rw [he] at hparts
      exact hparts.bind fun _ => preserves_pure _
    | refused error => exact preserves_throw error

/-- A goal preserves what its terms and applications preserve. -/
theorem preserves_goal {apply : Application} {i : ScopeId}
    (hterm : ∀ x, Preserves P (term i x))
    (happly : ∀ name args, Preserves P (apply name args i)) (e : Expr) :
    Preserves P (goal apply i e) :=
  preserves_goal_of_termNames (fun x _ => hterm x) fun name args _ => happly name args

/-! ## Applications -/

theorem rule_eq (i : ScopeId) (name : String) (argCount : Nat) (w : Workspace) :
    rule i name argCount w =
      (match w.scopes.lookup i name with
        | some (.rule r) =>
          if argCount = r.arity then pure r else throw (.arity name r.arity argCount)
        | some (.cell _) => throw (.notARelation (.atom name))
        | none => throw (.unknownRelation name) : Build Rule) w := rfl

/-- What a name in the place of a relation stands for. -/
theorem rule_cases (i : ScopeId) (name : String) (argCount : Nat) (w : Workspace) :
    (∃ r, w.scopes.lookup i name = some (.rule r) ∧ argCount = r.arity ∧
      rule i name argCount w = .ok r w) ∨
    (∃ r, w.scopes.lookup i name = some (.rule r) ∧ argCount ≠ r.arity ∧
      rule i name argCount w = .error (.arity name r.arity argCount) w) ∨
    (∃ c, w.scopes.lookup i name = some (.cell c) ∧
      rule i name argCount w = .error (.notARelation (.atom name)) w) ∨
    (w.scopes.lookup i name = none ∧
      rule i name argCount w = .error (.unknownRelation name) w) := by
  rw [rule_eq]
  cases hl : w.scopes.lookup i name with
  | none => exact .inr (.inr (.inr ⟨rfl, rfl⟩))
  | some meaning =>
    cases meaning with
    | cell c => exact .inr (.inr (.inl ⟨c, rfl, rfl⟩))
    | rule r =>
      by_cases hcount : argCount = r.arity
      · simp only [if_pos hcount]
        exact .inl ⟨r, rfl, hcount, rfl⟩
      · simp only [if_neg hcount]
        exact .inr (.inl ⟨r, rfl, hcount, rfl⟩)

theorem rule_ok {i : ScopeId} {name : String} {argCount : Nat} {r : Rule}
    (h : rule i name argCount w = .ok r w') :
    w.scopes.lookup i name = some (.rule r) ∧ argCount = r.arity ∧ w' = w := by
  obtain ⟨r', hl, hcount, hr⟩ | ⟨_, -, -, hr⟩ | ⟨_, -, hr⟩ | ⟨-, hr⟩ := rule_cases i name argCount w
  · rw [h] at hr
    cases hr
    exact ⟨hl, hcount, rfl⟩
  all_goals
    rw [h] at hr
    cases hr

theorem preserves_rule (i : ScopeId) (name : String) (argCount : Nat) :
    Preserves P (rule i name argCount) := by
  intro w hw
  obtain ⟨_, -, -, h⟩ | ⟨_, -, -, h⟩ | ⟨_, -, h⟩ | ⟨-, h⟩ := rule_cases i name argCount w
  · rw [leaves_of_ok h]
    exact hw
  all_goals
    rw [leaves_of_error h]
    exact hw

/-- Arguments preserve what their terms and the naming of their cells do. -/
theorem preserves_bindArguments {f i : ScopeId} {params : List String} {args : List Expr}
    (hterm : ∀ x ∈ args, Preserves P (term i x))
    (hbind : ∀ param ∈ params, ∀ {x w c u}, P w → term i x w = .ok c u →
      P u → P ((bindCell f param c).leaves u)) : Preserves P (bindArguments f i params args) := by
  induction params generalizing args with
  | nil => exact preserves_pure ()
  | cons param params ih =>
    cases args with
    | nil => exact preserves_pure ()
    | cons arg args =>
      rw [bindArguments]
      refine (hterm arg List.mem_cons_self).bind_of_ok fun {w c u} hw hc hu => ?_
      have hrest := ih (fun x hx => hterm x (List.mem_cons_of_mem arg hx))
        (fun p hp => hbind p (List.mem_cons_of_mem param hp))
      exact hrest _ (hbind param List.mem_cons_self hw hc hu)

theorem bindArguments_cons_ok {f i : ScopeId} {param : String} {params : List String} {arg : Expr}
    {args : List Expr} (h : bindArguments f i (param :: params) (arg :: args) w = .ok () w') :
    ∃ c u, term i arg w = .ok c u ∧
      bindArguments f i params args { u with scopes := u.scopes.bind f param (.cell c) } =
        .ok () w' := by
  rw [bindArguments] at h
  obtain ⟨c, u, hc, hrest⟩ := bind_ok_iff.mp h
  obtain ⟨⟨⟩, v, hbind, hrest⟩ := bind_ok_iff.mp hrest
  cases hbind
  exact ⟨c, u, hc, hrest⟩

/-- What the application of a rule has gone through. -/
theorem applyRule_ok {root i : ScopeId} {limit left : Nat} {name : String} {args : List Expr}
    {g : Goal} (h : applyRule root limit left name args i w = .ok g w') :
    ∃ n r u, left = n + 1 ∧ w.scopes.lookup i name = some (.rule r) ∧
      args.length = r.params.length ∧
      bindArguments (w.scopes.openChild root).1 i r.params args
        { w with scopes := (w.scopes.openChild root).2 } = .ok () u ∧
      goal (applyRule root limit n) (w.scopes.openChild root).1 r.body u = .ok g w' := by
  cases left with
  | zero =>
    rw [applyRule] at h
    obtain ⟨r, u, -, h⟩ := bind_ok_iff.mp h
    cases h
  | succ n =>
    rw [applyRule] at h
    obtain ⟨r, u, hr, hrest⟩ := bind_ok_iff.mp h
    obtain ⟨hlookup, hcount, rfl⟩ := rule_ok hr
    obtain ⟨frame, v, hframe, hrest⟩ := bind_ok_iff.mp hrest
    obtain ⟨⟨⟩, z, hargs, hbody⟩ := bind_ok_iff.mp hrest
    cases hframe
    exact ⟨n, r, z, rfl, hlookup, hcount, hargs, hbody⟩

end Build

end GoalSearch
