import GoalSearch.Proofs.Build.Transfer
import GoalSearch.Proofs.Renaming

/-!
# Goals under other names

The outline of a goal keeps its shape if the goal and the rules get other names for their variables, each of
them by a renaming of its own:

    outline rules.find? limit e = .ok T → ∃ T' Q, Faithful Q ∧ T.Alike Q T' ∧
      outline (rules.renamed ρ).find? limit (e.renamed σ) = .ok T'                      (outline_renamed)

and a goal without an outline is refused for the same reason. The variables of an outline come from many
texts, so that no single renaming takes one outline to the other. But each frame is opened for one text. The
list of the namings of all frames, which grows as frames are opened, tells what has become of a variable
(`Token.Renamed`). The frame at work knows the same names on either side, up to its own naming
(`Draft.renamed`).
-/

namespace GoalSearch

variable {rules : NameTable Rule} {namings namings' : List (Renaming rules)} {σ : Renaming rules}

/-! ## Tokens and frames -/

/-- A frame's naming stays as further frames are opened. -/
theorem naming_mono (hle : namings <+: namings') {n : Nat} (h : namings[n]? = some σ) :
    namings'[n]? = some σ := by
  obtain ⟨rest, rfl⟩ := hle
  obtain ⟨hlt, -⟩ := List.getElem?_eq_some_iff.mp h
  rw [List.getElem?_append_left hlt, h]

/-- What becomes of a token if the variables of each frame get other names by the frame's naming. -/
inductive Token.Renamed (namings : List (Renaming rules)) : Token → Token → Prop where
  | constant (x : String) : Renamed namings (.constant x) (.constant x)
  | var {n : Nat} {σ : Renaming rules} (h : namings[n]? = some σ) (x : String) :
      Renamed namings (.var n x) (.var n (σ.name x))

theorem Token.Renamed.mono (hle : namings <+: namings') {t u : Token} (h : t.Renamed namings u) :
    t.Renamed namings' u := by
  cases h with
  | constant x => exact .constant x
  | var h x => exact .var (naming_mono hle h) x

/-- Different tokens become different tokens. -/
theorem Token.faithful_renamed (namings : List (Renaming rules)) :
    Faithful (Token.Renamed namings) where
  eq_iff := by
    intro t t' u u' h h'
    cases h with
    | constant x =>
      cases h' with
      | constant y => exact Iff.rfl
      | var h' y => exact iff_of_false (by simp) (by simp)
    | var h x =>
      cases h' with
      | constant y => exact iff_of_false (by simp) (by simp)
      | var h' y =>
        rw [Token.var.injEq, Token.var.injEq]
        refine and_congr_right ?_
        rintro rfl
        rw [Option.some.inj (h'.symm.trans h), (Renaming.name_injective _).eq_iff]
  state_eq := by
    intro t u h
    cases h <;> rfl

/-- The frames that a text opens before and after it gets other names. -/
structure Frame.Renamed (namings : List (Renaming rules)) (σ : Renaming rules) (f f' : Frame) :
    Prop where
  number_eq : f'.number = f.number
  naming : namings[f.number]? = some σ
  params : ∀ x, Option.Rel (Token.Renamed namings) (f.params.lookup x)
    (f'.params.lookup (σ.name x))

namespace Frame.Renamed

variable {f f' : Frame}

theorem mono (hle : namings <+: namings') (h : f.Renamed namings σ f') :
    f.Renamed namings' σ f' where
  number_eq := h.number_eq
  naming := naming_mono hle h.naming
  params := by
    intro x
    have hparam := h.params x
    generalize f.params.lookup x = t, f'.params.lookup (σ.name x) = t' at hparam ⊢
    cases hparam with
    | none => exact .none
    | some ht => exact .some (ht.mono hle)

theorem token (h : f.Renamed namings σ f') (x : String) :
    (f.token x).Renamed namings (f'.token (σ.name x)) := by
  unfold Frame.token
  rw [σ.isVariableName_name]
  cases hx : isVariableName x with
  | false =>
    rw [σ.name_of_not_isVariable hx]
    exact .constant x
  | true =>
    have hparam := h.params x
    generalize f.params.lookup x = t, f'.params.lookup (σ.name x) = t' at hparam ⊢
    cases hparam with
    | none =>
      rw [h.number_eq]
      exact .var h.naming x
    | some ht => exact ht

end Frame.Renamed

theorem Frame.renamed_query (σ : Renaming rules) : Frame.query.Renamed [σ] σ .query :=
  ⟨rfl, rfl, fun _ => .none⟩

theorem lookup_map_zip {g : String → String} (hg : Function.Injective g) (params : List String)
    (ts : List Token) (x : String) :
    ((params.map g).zip ts).lookup (g x) = (params.zip ts).lookup x := by
  induction params generalizing ts with
  | nil => rfl
  | cons param params ih =>
    cases ts with
    | nil => rfl
    | cons t ts =>
      rw [List.map_cons, List.zip_cons_cons, List.zip_cons_cons, NameTable.lookup_entry,
        NameTable.lookup_entry, ih]
      simp only [hg.eq_iff]

/-- The frame of an application, for arguments that have got other names themselves. -/
theorem Frame.renamed_application {n : Nat} (hn : namings[n]? = some σ) (params : List String)
    {ts ts' : List Token} (hts : List.Forall₂ (Token.Renamed namings) ts ts') :
    Frame.Renamed namings σ ⟨n, params.zip ts⟩ ⟨n, (params.map σ.name).zip ts'⟩ where
  number_eq := rfl
  naming := hn
  params := by
    intro x
    rw [lookup_map_zip σ.name_injective]
    exact Sketch.lookup_zip_rel hts params x

/-! ## Sketches -/

/-- What a sketch keeps in mind, under other names for the variables of the frame at work. -/
def Draft.renamed (σ : Renaming rules) (d : Draft) : Draft :=
  { d with known := d.known.map σ.name }

theorem Draft.mem_known_renamed {d : Draft} {x : String} :
    σ.name x ∈ (d.renamed σ).known ↔ x ∈ d.known :=
  List.mem_map_of_injective σ.name_injective

namespace Sketch

/-- A sketch comes to the same under other names for the variables of the frame at work: to results that
belong together as far as the namings tell, or to the same error, under the names of the text it is in. -/
inductive Echo {α : Type} (namings : List (Renaming rules)) (σ : Renaming rules)
    (Like : List (Renaming rules) → α → α → Prop) :
    Except BuildError (α × Draft) → Except BuildError (α × Draft) → Prop where
  | ok {namings' : List (Renaming rules)} {a a' : α} {d : Draft} (hle : namings <+: namings')
      (hframes : namings'.length = d.frames) (h : Like namings' a a') :
      Echo namings σ Like (.ok (a, d)) (.ok (a', d.renamed σ))
  | error (τ : Renaming rules) (e : BuildError) :
      Echo namings σ Like (.error e) (.error (e.renamed τ))

/-- Outlines that are alike but for the names of their variables. -/
def LikeOutline (namings : List (Renaming rules)) : Outline → Outline → Prop :=
  Outline.Alike (Token.Renamed namings)

def LikeOutlines (namings : List (Renaming rules)) : List Outline → List Outline → Prop :=
  List.Forall₂ (LikeOutline namings)

variable {α β : Type} {Like : List (Renaming rules) → α → α → Prop}
  {Like' : List (Renaming rules) → β → β → Prop} {d : Draft} {f f' : Frame}
  {ρ : String → Renaming rules}

theorem Echo.weaken {r r' : Except BuildError (α × Draft)} (hle : namings <+: namings')
    (h : Echo namings' σ Like r r') : Echo namings σ Like r r' := by
  cases h with
  | ok hle' hframes h => exact .ok (hle.trans hle') hframes h
  | error τ e => exact .error τ e

theorem Echo.bind {m m' : Sketch α} {g g' : α → Sketch β}
    (h : Echo namings σ Like (m d) (m' (d.renamed σ)))
    (hnext : ∀ {namings' a a' u}, namings <+: namings' → namings'.length = u.frames →
      Like namings' a a' → Echo namings' σ Like' (g a u) (g' a' (u.renamed σ))) :
    Echo namings σ Like' ((m >>= g) d) ((m' >>= g') (d.renamed σ)) := by
  show Echo namings σ Like' (m d >>= fun result => g result.1 result.2)
    (m' (d.renamed σ) >>= fun result => g' result.1 result.2)
  generalize m d = r, m' (d.renamed σ) = r' at h ⊢
  cases h with
  | ok hle hframes h => exact (hnext hle hframes h).weaken hle
  | error τ e => exact .error τ e

theorem echo_pure {a a' : α} (hframes : namings.length = d.frames) (h : Like namings a a') :
    Echo namings σ Like ((pure a : Sketch α) d) ((pure a' : Sketch α) (d.renamed σ)) :=
  .ok List.prefix_rfl hframes h

theorem echo_throw (e : BuildError) :
    Echo namings σ Like ((throw e : Sketch α) d)
      ((throw (e.renamed σ) : Sketch α) (d.renamed σ)) :=
  .error σ e

theorem echo_arity (form : String) (expected : Nat) (args : List Expr) :
    Echo namings σ Like ((throw (.arity form expected args.length) : Sketch α) d)
      ((throw (.arity (σ.name form) expected (args.map (Expr.renamed σ)).length) : Sketch α)
        (d.renamed σ)) := by
  rw [List.length_map]
  exact echo_throw (.arity form expected args.length)

/-- A step in a frame of another naming. -/
theorem Echo.inside {τ : Renaming rules} {known : List String} {m m' : Sketch α}
    (h : Echo namings τ Like (m { d with known })
      (m' { d.renamed σ with known := known.map τ.name })) :
    Echo namings σ Like (Sketch.inside known m d)
      (Sketch.inside (known.map τ.name) m' (d.renamed σ)) := by
  unfold Sketch.inside
  generalize m { d with known } = r, m' { d.renamed σ with known := known.map τ.name } = r' at h ⊢
  cases h with
  | ok hle hframes h => exact .ok hle hframes h
  | error τ e => exact .error τ e

/-! ### Terms -/

theorem echo_term (hf : f.Renamed namings σ f') (hd : namings.length = d.frames) (x : Expr) :
    Echo namings σ Token.Renamed (term rules.find? f x d)
      (term (rules.renamed ρ).find? f' (x.renamed σ) (d.renamed σ)) := by
  cases x with
  | list items => exact .error σ (.expectedIdentifier (.list items))
  | atom name =>
    rw [Expr.renamed_atom]
    simp only [term, σ.isVariableName_name, Draft.mem_known_renamed, NameTable.find?_renamed_name,
      Option.isSome_map]
    split
    · exact .ok List.prefix_rfl hd (hf.token name)
    · split
      · exact .error σ (.expectedTerm name)
      · exact .ok List.prefix_rfl hd (hf.token name)

theorem echo_terms (hf : f.Renamed namings σ f') (hd : namings.length = d.frames)
    (xs : List Expr) :
    Echo namings σ (fun namings => List.Forall₂ (Token.Renamed namings))
      (terms rules.find? f xs d)
      (terms (rules.renamed ρ).find? f' (xs.map (Expr.renamed σ)) (d.renamed σ)) := by
  induction xs generalizing namings d with
  | nil => exact echo_pure hd .nil
  | cons x later ih =>
    refine (echo_term hf hd x).bind fun hle₁ hd₁ ht => ?_
    refine (ih (hf.mono hle₁) hd₁).bind fun hle₂ hd₂ hts => ?_
    exact echo_pure hd₂ (.cons (ht.mono hle₂) hts)

/-! ### Goals -/

section Goals

variable {apply apply' : Application}

theorem echo_goals {es : List Expr}
    (hes : ∀ e ∈ es, ∀ {namings d}, f.Renamed namings σ f' → namings.length = d.frames →
      Echo namings σ LikeOutline (goal rules.find? apply f e d)
        (goal (rules.renamed ρ).find? apply' f' (e.renamed σ) (d.renamed σ)))
    (hf : f.Renamed namings σ f') (hd : namings.length = d.frames) :
    Echo namings σ LikeOutlines (goals rules.find? apply f es d)
      (goals (rules.renamed ρ).find? apply' f' (es.map (Expr.renamed σ)) (d.renamed σ)) := by
  induction es generalizing namings d with
  | nil =>
    rw [List.map_nil, goals, goals]
    exact echo_pure hd .nil
  | cons e later ih =>
    rw [List.map_cons, goals, goals]
    refine (hes e List.mem_cons_self hf hd).bind fun hle₁ hd₁ hT => ?_
    refine (ih (fun e' he' => hes e' (List.mem_cons_of_mem e he')) (hf.mono hle₁) hd₁).bind
      fun hle₂ hd₂ hts => ?_
    exact echo_pure hd₂ (.cons (hT.mono (fun ht => ht.mono hle₂)) hts)

/-- A goal comes to the same under other names if the applications in it do. -/
theorem echo_goal_of (happly : ∀ {namings d} name args, f.Renamed namings σ f' →
      namings.length = d.frames → Echo namings σ LikeOutline (apply name args f d)
        (apply' (σ.name name) (args.map (Expr.renamed σ)) f' (d.renamed σ)))
    (hf : f.Renamed namings σ f') (hd : namings.length = d.frames) (e : Expr) :
    Echo namings σ LikeOutline (goal rules.find? apply f e d)
      (goal (rules.renamed ρ).find? apply' f' (e.renamed σ) (d.renamed σ)) := by
  induction e using Expr.induction generalizing namings d with
  | atom name => exact happly name [] hf hd
  | list items ih =>
    rw [Expr.renamed_list]
    rcases items with _ | ⟨head | items, args⟩
    · exact echo_throw .emptyGoal
    · rw [List.map_cons, Expr.renamed_atom]
      unfold goal
      rw [σ.ofText?_name]
      have hgoals := echo_goals (fun e he _ _ => ih e (List.mem_cons_of_mem _ he)) hf hd
      cases Keyword.ofText? head with
      | none => exact happly head args hf hd
      | some k =>
        cases k with
        | define => exact happly head args hf hd
        | query => exact happly head args hf hd
        | print =>
          rcases args with _ | ⟨x, _ | ⟨y, later⟩⟩
          · exact echo_arity head 1 []
          · refine (echo_term hf hd x).bind fun hle₁ hd₁ ht => ?_
            exact echo_pure hd₁ (.print ht)
          · exact echo_arity head 1 (x :: y :: later)
        | equal =>
          rcases args with _ | ⟨x, _ | ⟨y, _ | ⟨z, later⟩⟩⟩
          · exact echo_arity head 2 []
          · exact echo_arity head 2 [x]
          · refine (echo_term hf hd x).bind fun hle₁ hd₁ ht => ?_
            refine (echo_term (hf.mono hle₁) hd₁ y).bind fun hle₂ hd₂ hu => ?_
            exact echo_pure hd₂ (.unify (ht.mono hle₂) hu)
          · exact echo_arity head 2 (x :: y :: z :: later)
        | and =>
          refine hgoals.bind fun hle₁ hd₁ hts => ?_
          exact echo_pure hd₁ (.and hts)
        | or =>
          refine hgoals.bind fun hle₁ hd₁ hts => ?_
          exact echo_pure hd₁ (.or hts)
    · exact echo_throw (.notARelation (.list items))

end Goals

/-! ### Applications -/

theorem echo_rule (hd : namings.length = d.frames) (name : String) (argCount : Nat) :
    Echo namings σ (fun _ r r' => r' = r.renamed (ρ name))
      (rule rules.find? name argCount d)
      (rule (rules.renamed ρ).find? (σ.name name) argCount (d.renamed σ)) := by
  simp only [rule, Draft.mem_known_renamed, NameTable.find?_renamed_name]
  split
  · exact .error σ (.notARelation (.atom name))
  · cases rules.find? name with
    | none => exact .error σ (.unknownRelation name)
    | some r =>
      simp only [Option.map_some, Rule.arity_renamed]
      split
      · exact .ok List.prefix_rfl hd rfl
      · exact .error σ (.arity name r.arity argCount)

/-- A frame may be opened for any text. -/
theorem echo_openFrame (hd : namings.length = d.frames) (τ : Renaming rules) :
    Echo namings σ (fun namings' n n' => n = n' ∧ namings'[n]? = some τ) (openFrame d)
      (openFrame (d.renamed σ)) := by
  refine .ok (List.prefix_append namings [τ]) ?_ ⟨rfl, ?_⟩
  · rw [List.length_append, hd]
    rfl
  · rw [← hd, List.getElem?_concat_length]

theorem echo_applyRule (ρ : String → Renaming rules) (limit left : Nat)
    (hf : f.Renamed namings σ f') (hd : namings.length = d.frames) (name : String)
    (args : List Expr) :
    Echo namings σ LikeOutline (applyRule rules.find? limit left name args f d)
      (applyRule (rules.renamed ρ).find? limit left (σ.name name) (args.map (Expr.renamed σ)) f'
        (d.renamed σ)) := by
  induction left generalizing namings σ f f' d name args with
  | zero =>
    rw [applyRule, applyRule, List.length_map]
    refine (echo_rule hd name args.length).bind fun hle₁ hd₁ _ => ?_
    exact echo_throw (.ruleDepthExceeded name limit)
  | succ left ih =>
    rw [applyRule, applyRule, List.length_map]
    refine (echo_rule hd name args.length).bind ?_
    rintro namings₁ r _ d₁ hle₁ hd₁ rfl
    refine (echo_openFrame hd₁ (ρ name)).bind ?_
    rintro namings₂ n _ d₂ hle₂ hd₂ ⟨rfl, hn⟩
    refine (echo_terms (hf.mono (hle₁.trans hle₂)) hd₂ args).bind ?_
    intro namings₃ ts ts' d₃ hle₃ hd₃ hts
    have hf' := Frame.renamed_application (naming_mono hle₃ hn) r.params hts
    -- The body gets the rule's own renaming, whatever that of the text around is.
    refine Echo.inside ?_
    exact echo_goal_of (d := { d₃ with known := r.params })
      (fun name args hf hd => ih hf hd name args) hf' hd₃ r.body

end Sketch

/-- **The outline of a goal under other names.** -/
theorem outline_renamed (σ : Renaming rules) (ρ : String → Renaming rules) (limit : Nat) (e : Expr) :
    (∃ T T' Q, Faithful Q ∧ T.Alike Q T' ∧ outline rules.find? limit e = .ok T ∧
      outline (rules.renamed ρ).find? limit (e.renamed σ) = .ok T') ∨
    ∃ (err : BuildError) (τ : Renaming rules), outline rules.find? limit e = .error err ∧
      outline (rules.renamed ρ).find? limit (e.renamed σ) = .error (err.renamed τ) := by
  have hecho : Sketch.Echo [σ] σ Sketch.LikeOutline
      (Sketch.goal rules.find? (Sketch.applyRule rules.find? limit limit) .query e ⟨[], 1⟩)
      (Sketch.goal (rules.renamed ρ).find? (Sketch.applyRule (rules.renamed ρ).find? limit limit)
        .query (e.renamed σ) ⟨[], 1⟩) :=
    Sketch.echo_goal_of (d := ⟨[], 1⟩)
      (fun name args hf hd => Sketch.echo_applyRule ρ limit limit hf hd name args)
      (Frame.renamed_query σ) rfl e
  have houtline : ∀ (rules : String → Option Rule) (e : Expr), outline rules limit e =
      (Sketch.goal rules (Sketch.applyRule rules limit limit) .query e ⟨[], 1⟩).map Prod.fst :=
    fun _ _ => rfl
  rw [houtline, houtline]
  generalize Sketch.goal rules.find? _ _ e _ = r, Sketch.goal (rules.renamed ρ).find? _ _ _ _ = r'
    at hecho ⊢
  cases hecho with
  | ok hle hframes h => exact .inl ⟨_, _, _, Token.faithful_renamed _, h, rfl, rfl⟩
  | error τ err => exact .inr ⟨err, τ, rfl, rfl⟩

end GoalSearch
