import GoalSearch.Proofs.Build.Transfer

/-!
# Bodies in place of applications

The outline of a goal does not change much if one application of a rule is replaced by the text that it
stands for. Say that the application opens frame `k`. Then the variables of frame `k` have become
variables of the query, under other names, and each later frame has a number that is less by one
(`Token.Inlined`). That keeps different variables apart, so that the outlines are alike:

    outline rules.find? limit (C.fill app) = .ok T → ∃ T' Q, Faithful Q ∧ T.Alike Q T' ∧
      outline rules.find? limit (C.fill (r.inlined args fresh)) = .ok T'               (outline_inlined)

The body may then nest one rule more than it could inside the application, and it learns of the arguments
when it comes to them, not before.
-/

namespace GoalSearch

/-! ## Tokens -/

/-- What becomes of a token if an application is replaced by the text that it stands for. The application
has opened frame `k`, and the names in `outer` are those of the goal that it stands in. -/
inductive Token.Inlined (r : Rule) (outer : List String) (fresh : String → String) (k : Nat) :
    Token → Token → Prop where
  | constant (x : String) : Inlined r outer fresh k (.constant x) (.constant x)
  | own {x : String} (hx : x ∈ outer) : Inlined r outer fresh k (.var 0 x) (.var 0 x)
  | before {n : Nat} (x : String) (hpos : 0 < n) (hn : n < k) :
      Inlined r outer fresh k (.var n x) (.var n x)
  | body {x : String} (hx : x ∈ r.locals) : Inlined r outer fresh k (.var k x) (.var 0 (fresh x))
  /-- A variable of an application in the body or behind it. -/
  | after {n : Nat} (x : String) (hn : k ≤ n) : Inlined r outer fresh k (.var (n + 1) x) (.var n x)

namespace Token.Inlined

variable {r : Rule} {outer : List String} {fresh : String → String} {k : Nat} {t t' u u' : Token}

theorem right_unique (hk : 0 < k) (h : Inlined r outer fresh k t u)
    (h' : Inlined r outer fresh k t u') : u = u' := by
  cases h with
  | constant x =>
    cases h'
    rfl
  | own hx => cases h' <;> first | rfl | omega
  | before x hpos hn => cases h' <;> first | rfl | omega
  | body hx => cases h' <;> first | rfl | omega
  | after x hn => cases h' <;> first | rfl | omega

theorem left_unique (hk : 0 < k) (hnew : ∀ x ∈ r.locals, fresh x ∉ outer)
    (hinjective : ∀ x ∈ r.locals, ∀ y ∈ r.locals, fresh x = fresh y → x = y)
    (h : Inlined r outer fresh k t u) (h' : Inlined r outer fresh k t' u) : t = t' := by
  cases h with
  | constant x =>
    cases h'
    rfl
  | own hx =>
    cases h' with
    | own => rfl
    | before => omega
    | body hy => exact absurd hx (hnew _ hy)
    | after => omega
  | before x hpos hn => cases h' <;> first | rfl | omega
  | body hx =>
    generalize hy : fresh _ = y at h'
    cases h' with
    | own hy' => exact absurd (hy ▸ hy') (hnew _ hx)
    | before => omega
    | body hx' => rw [hinjective _ hx _ hx' hy]
    | after => omega
  | after x hn => cases h' <;> first | rfl | omega

/-- Different tokens become different tokens. -/
theorem faithful (hk : 0 < k) (hnew : ∀ x ∈ r.locals, fresh x ∉ outer)
    (hinjective : ∀ x ∈ r.locals, ∀ y ∈ r.locals, fresh x = fresh y → x = y) :
    Faithful (Inlined r outer fresh k) where
  eq_iff := by
    intro t t' u u' h h'
    constructor
    · rintro rfl
      exact right_unique hk h h'
    · rintro rfl
      exact left_unique hk hnew hinjective h h'
  state_eq := by
    intro t u h
    cases h <;> rfl

end Token.Inlined

namespace Sketch

variable {rules : String → Option Rule} {r : Rule} {outer : List String} {fresh : String → String}
  {limit k : Nat} {d d' u u' : Draft}

/-! ## Names of the goal around -/

theorem token_query (x : String) :
    Frame.query.token x = if isVariableName x then .var 0 x else .constant x := by
  unfold Frame.token Frame.query
  cases isVariableName x <;> rfl

theorem inlined_token_query {x : String} (hx : x ∈ outer) :
    Token.Inlined r outer fresh k (Frame.query.token x) (Frame.query.token x) := by
  rw [token_query]
  cases isVariableName x with
  | false => exact .constant x
  | true => exact .own hx

/-- The names of the goal around the application stay. -/
theorem carries_query {x : String} (hx : x ∈ outer) :
    Carries rules (Token.Inlined r outer fresh k) .query .query .atom x :=
  ⟨x, rfl, id, inlined_token_query hx⟩

/-! ## The body -/

/-- The names of the body are carried over from the frame of the application. -/
theorem carries_body (hr : r.WellFormed) {args : List Expr} {ts : List Token}
    (hargs : List.Forall₂ (fun e t => ∃ x, e = .atom x ∧ Permits rules .query x ∧
      t = Frame.query.token x) args ts)
    (hlen : ts.length = r.params.length) (houter : ∀ x ∈ args.filterMap Expr.atomText?, x ∈ outer)
    (hvariable : ∀ x ∈ r.locals, isVariableName (fresh x) = true)
    (hunnamed : ∀ x ∈ r.locals, rules (fresh x) = none) {x : String} (hx : x ∈ r.body.termNames) :
    Carries rules (Token.Inlined r outer fresh k) ⟨k, r.params.zip ts⟩ .query
      (r.replacement args fresh) x := by
  have hlen' : args.length = r.params.length := hargs.length_eq.trans hlen
  have hrel := lookup_zip_rel hargs r.params x
  unfold Carries Rule.replacement Frame.token
  dsimp only
  cases harg : (r.params.zip args).lookup x with
  | some arg =>
    obtain ⟨hparam, hmem⟩ := List.of_mem_zip (NameTable.mem_of_lookup harg)
    generalize (r.params.zip ts).lookup x = t at hrel ⊢
    rw [harg] at hrel
    cases hrel with
    | some hy =>
      obtain ⟨y, rfl, hpermits, rfl⟩ := hy
      refine ⟨y, rfl, fun _ => hpermits, ?_⟩
      rw [hr.isVariable x hparam]
      exact inlined_token_query (houter y (List.mem_filterMap.mpr ⟨_, hmem, rfl⟩))
  | none =>
    have hparam : x ∉ r.params := by
      intro hparam
      rw [← List.map_fst_zip hlen'.ge] at hparam
      obtain ⟨entry, hentry, rfl⟩ := List.mem_map.mp hparam
      simpa using List.lookup_eq_none_iff.mp harg entry hentry
    rw [Build.lookup_zip_of_not_mem ts hparam]
    cases hvar : isVariableName x with
    | false =>
      refine ⟨x, rfl, fun _ => .inl hvar, ?_⟩
      rw [hvar]
      exact .constant x
    | true =>
      have hlocal : x ∈ r.locals := Rule.mem_locals.mpr ⟨hx, hvar, hparam⟩
      refine ⟨fresh x, rfl, fun _ => .inr (.inr (hunnamed x hlocal)), ?_⟩
      rw [hvariable x hlocal]
      exact .body hlocal

/-! ## Frames -/

/-- Frames that were opened before the application keep their numbers. -/
theorem shifts_before : Shifts (Token.Inlined r outer fresh k) 1 1 k := by
  intro n n' x hpos hn hframes
  obtain rfl : n = n' := Nat.add_right_cancel hframes
  exact .before x hpos hn

/-- Frames that were opened since are one less. -/
theorem shifts_after (hi : Nat) : Shifts (Token.Inlined r outer fresh k) (k + 1) k hi := by
  intro n n' x hn _ hframes
  obtain rfl : n = n' + 1 := by omega
  exact .after x (Nat.le_of_succ_le_succ hn)

/-- Goals beside the application stay as they are. -/
theorem transfer_beside {lo lo' hi : Nat} {es : List Expr}
    (hes : ∀ x ∈ Expr.namesOfAll es, x ∈ outer)
    (hshifts : Shifts (Token.Inlined r outer fresh k) lo lo' hi) :
    ∀ e ∈ es, Transfers rules (Token.Inlined r outer fresh k) .query .query lo lo' hi
      (goal rules (applyRule rules limit limit) .query e)
      (goal rules (applyRule rules limit limit) .query (e.substGoal .atom)) := by
  intro e he
  refine transfer_goal .constant hshifts (Nat.le_refl limit) fun x hx => carries_query ?_
  exact hes x (Expr.mem_namesOfAll.mpr ⟨e, he, Expr.mem_names_of_mem_termNames hx⟩)

/-! ## The application and the goal around it -/

/-- Two sketches of queries begin alike. -/
theorem abreast_query : Abreast rules .query .query 1 1 ⟨[], 1⟩ ⟨[], 1⟩ where
  params := fun _ _ hx => hx
  tidy := fun _ _ => Iff.rfl
  tidy' := fun _ _ => Iff.rfl
  le_frames := Nat.le_refl 1
  frames_eq := rfl

/-- What is sketched with an application is sketched with the body in its place, and the one is like the
other but for the frame that the application opens. -/
def Inlines {α : Type} (rules : String → Option Rule) (r : Rule) (outer : List String)
    (fresh : String → String) (Like : (Token → Token → Prop) → α → α → Prop) (m m' : Sketch α) :
    Prop :=
  ∀ {d u a}, 0 < d.frames → m d = .ok (a, u) → ∃ k, d.frames ≤ k ∧ k < u.frames ∧
    ∀ {d'}, Abreast rules .query .query 1 1 d d' → ∃ a' u', m' d' = .ok (a', u') ∧
      Like (Token.Inlined r outer fresh k) a a' ∧ Abreast rules .query .query (k + 1) k u u'

theorem goal_of_appliesTo {apply : Application} {f : Frame} {name : String} {args : List Expr}
    {app : Expr} (h : Expr.AppliesTo name args app) :
    goal rules apply f app = apply name args f := by
  cases h with
  | bare => exact goal_bare name
  | list hname args => exact goal_application hname args

theorem inlines_application (hwf : r.WellFormed) {name : String} (hr : rules name = some r)
    {args : List Expr} (hargs : ∀ x ∈ args.filterMap Expr.atomText?, x ∈ outer)
    (hvariable : ∀ x ∈ r.locals, isVariableName (fresh x) = true)
    (hunnamed : ∀ x ∈ r.locals, rules (fresh x) = none) :
    Inlines rules r outer fresh Outline.Alike (applyRule rules limit limit name args .query)
      (goal rules (applyRule rules limit limit) .query (r.inlined args fresh)) := by
  intro d u T _ h
  refine ⟨d.frames, Nat.le_refl _, frames_lt_of_applyRule h, ?_⟩
  intro d' hd
  obtain ⟨n, r', ts, v, w, s, hn, hr', hts, hbody, rfl⟩ := applyRule_ok_iff.mp h
  obtain ⟨-, hrule, hcount, hs⟩ := (rule_ok_iff hd.tidy).mp hr'
  subst s
  obtain rfl : r = r' := Option.some.inj (hr.symm.trans hrule)
  obtain ⟨hatoms, hframes, htidy⟩ := terms_ok hd.openFrame.tidy hts
  have hlen : ts.length = r.params.length := hatoms.length_eq.symm.trans hcount
  have hle : n ≤ limit := hn ▸ Nat.le_succ n
  -- The body is sketched in the query's own frame. It has no parameters, so that heads mean the same.
  have hentered : Abreast rules ⟨d.frames, r.params.zip ts⟩ .query (d.frames + 1) d.frames
      { v with known := r.params } d' := {
    params := fun x _ hx => absurd hx List.not_mem_nil
    tidy := fun x _ => by rw [map_fst_zip hlen]
    tidy' := hd.tidy'
    le_frames := hframes.ge
    frames_eq := by
      have hequal := hd.frames_eq
      dsimp only at hframes ⊢
      omega }
  obtain ⟨T', u', hT', halike, hu⟩ :=
    transfer_goal .constant (shifts_after w.frames) hle
      (fun x hx => carries_body hwf hatoms hlen hargs hvariable hunnamed hx) hentered
      (Nat.le_refl _) hbody
  exact ⟨T', u', hT', halike, fun x _ hx => hx, htidy, hu.tidy', hu.le_frames, hu.frames_eq⟩

theorem inlines_goals {before after : List Expr} {e e' : Expr}
    (hbefore : ∀ x ∈ Expr.namesOfAll before, x ∈ outer)
    (hafter : ∀ x ∈ Expr.namesOfAll after, x ∈ outer)
    (he : Inlines rules r outer fresh Outline.Alike
      (goal rules (applyRule rules limit limit) .query e)
      (goal rules (applyRule rules limit limit) .query e')) :
    Inlines rules r outer fresh (fun Q => List.Forall₂ (Outline.Alike Q))
      (goals rules (applyRule rules limit limit) .query (before ++ e :: after))
      (goals rules (applyRule rules limit limit) .query (before ++ e' :: after)) := by
  intro d u ts hpos h
  obtain ⟨first, _, v, hfirst, hlater, rfl⟩ := goals_append_ok_iff.mp h
  obtain ⟨T, rest, w, hT, hrest, rfl⟩ := goals_cons_ok_iff.mp hlater
  have hdv := frames_le_goals hfirst
  have hwu := frames_le_goals hrest
  obtain ⟨k, hvk, hkw, hinner⟩ := he (Nat.lt_of_lt_of_le hpos hdv) hT
  refine ⟨k, Nat.le_trans hdv hvk, Nat.lt_of_lt_of_le hkw hwu, ?_⟩
  intro d' hd
  obtain ⟨first', v', hfirst', halikes, hv⟩ :=
    transfer_goals (transfer_beside hbefore shifts_before) hd hvk hfirst
  obtain ⟨T', w', hT', halike, hw⟩ := hinner hv
  obtain ⟨rest', u', hrest', halikes', hu⟩ :=
    transfer_goals (transfer_beside hafter (shifts_after u.frames)) hw (Nat.le_refl _) hrest
  rw [Expr.map_substGoal_atom] at hfirst' hrest'
  refine ⟨first' ++ T' :: rest', u', ?_, List.rel_append halikes (.cons halike halikes'), hu⟩
  exact goals_append_ok_iff.mpr
    ⟨first', _, v', hfirst', goals_cons_ok_iff.mpr ⟨T', rest', w', hT', hrest', rfl⟩, rfl⟩

theorem inlines_fill {app body : Expr}
    (happ : Inlines rules r outer fresh Outline.Alike
      (goal rules (applyRule rules limit limit) .query app)
      (goal rules (applyRule rules limit limit) .query body))
    (C : Expr.Context) (houter : ∀ x ∈ (C.fill app).names, x ∈ outer) :
    Inlines rules r outer fresh Outline.Alike
      (goal rules (applyRule rules limit limit) .query (C.fill app))
      (goal rules (applyRule rules limit limit) .query (C.fill body)) := by
  induction C with
  | hole => exact happ
  | and before inner after ih =>
    obtain ⟨hbefore, hinner, hafter⟩ := Expr.forall_names_fill houter
    intro d u T hpos h
    obtain ⟨ts, hts, rfl⟩ := goal_and_ok_iff.mp h
    obtain ⟨k, hk, hku, hmatch⟩ := inlines_goals hbefore hafter (ih hinner) hpos hts
    refine ⟨k, hk, hku, fun hd => ?_⟩
    obtain ⟨ts', u', hts', halike, hu⟩ := hmatch hd
    exact ⟨.and ts', u', goal_and_ok_iff.mpr ⟨ts', hts', rfl⟩, .and halike, hu⟩
  | or before inner after ih =>
    obtain ⟨hbefore, hinner, hafter⟩ := Expr.forall_names_fill houter
    intro d u T hpos h
    obtain ⟨ts, hts, rfl⟩ := goal_or_ok_iff.mp h
    obtain ⟨k, hk, hku, hmatch⟩ := inlines_goals hbefore hafter (ih hinner) hpos hts
    refine ⟨k, hk, hku, fun hd => ?_⟩
    obtain ⟨ts', u', hts', halike, hu⟩ := hmatch hd
    exact ⟨.or ts', u', goal_or_ok_iff.mpr ⟨ts', hts', rfl⟩, .or halike, hu⟩

end Sketch

/-- **Outlines with a body in the place of an application are alike.** -/
theorem outline_inlined {rules : NameTable Rule} (hrules : rules.WellFormed) {limit : Nat}
    (C : Expr.Context) {name : String} {args : List Expr} {app : Expr}
    (happ : Expr.AppliesTo name args app) {r : Rule} (hr : rules.find? name = some r)
    {fresh : String → String} (hfresh : r.Renames rules.find? (C.fill app) fresh) {T : Outline}
    (hT : outline rules.find? limit (C.fill app) = .ok T) :
    ∃ T' Q, Faithful Q ∧ T.Alike Q T' ∧
      outline rules.find? limit (C.fill (r.inlined args fresh)) = .ok T' := by
  have happ : Sketch.Inlines rules.find? r (C.fill app).names fresh Outline.Alike
      (Sketch.goal rules.find? (Sketch.applyRule rules.find? limit limit) .query app)
      (Sketch.goal rules.find? (Sketch.applyRule rules.find? limit limit) .query
        (r.inlined args fresh)) := by
    rw [Sketch.goal_of_appliesTo happ]
    exact Sketch.inlines_application (hrules name r hr) hr
      (fun x hx => C.mem_names_fill (happ.mem_names hx)) hfresh.isVariable hfresh.unnamed
  obtain ⟨u, hu⟩ := outline_ok_iff.mp hT
  obtain ⟨k, hk, -, hmatch⟩ := Sketch.inlines_fill happ C (fun _ hx => hx) Nat.zero_lt_one hu
  obtain ⟨T', u', hu', halike, -⟩ := hmatch Sketch.abreast_query
  exact ⟨T', _, Token.Inlined.faithful hk hfresh.new hfresh.injective, halike,
    outline_ok_iff.mpr ⟨u', hu'⟩⟩

end GoalSearch
