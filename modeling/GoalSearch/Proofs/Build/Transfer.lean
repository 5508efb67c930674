import GoalSearch.Proofs.Build.Depict
import GoalSearch.Proofs.Build.Sketch
import GoalSearch.Proofs.Substitution

/-!
# One goal in two frames

A goal that has been sketched in one frame can be sketched in another frame as well, with other expressions
in the place of its terms, if each name that it has in the place of a term is carried over:

    (∀ x ∈ e.termNames, Carries rules Q f f' σ x) →
      Transfers rules Q f f' lo lo' hi (goal rules (applyRule rules limit left) f e)
        (goal rules (applyRule rules limit left') f' (e.substGoal σ))                  (transfer_goal)

The two outlines are alike. Applications of rules open new frames on either side, in the same order, so
that the frames opened since `lo` on one side are those opened since `lo'` on the other. Nothing else
about the frames matters, and the second sketch may nest rules more deeply than the first.
-/

namespace GoalSearch

namespace Sketch

/-! ## Sketches side by side -/

/-- A name of a term in one frame, and what stands in its place in another frame. -/
def Carries (rules : String → Option Rule) (Q : Token → Token → Prop) (f f' : Frame)
    (σ : String → Expr) (x : String) : Prop :=
  ∃ y, σ x = .atom y ∧ (Permits rules f x → Permits rules f' y) ∧
    Q (f.token x) (f'.token y)

/-- Two drafts, each of its own frame, that have come equally far. -/
structure Abreast (rules : String → Option Rule) (f f' : Frame) (lo lo' : Nat) (d d' : Draft) :
    Prop where
  /-- A relation of the first frame is a relation of the second. -/
  params : ∀ x, (rules x).isSome = true → x ∈ f'.params.map Prod.fst → x ∈ f.params.map Prod.fst
  tidy : Tidy rules f d.known
  tidy' : Tidy rules f' d'.known
  le_frames : lo ≤ d.frames
  /-- As many frames were opened since the one as since the other. -/
  frames_eq : d.frames + lo' = d'.frames + lo

/-- Variables of frames opened by one sketch correspond to those of the frames opened by another. -/
def Shifts (Q : Token → Token → Prop) (lo lo' hi : Nat) : Prop :=
  ∀ {n n'} x, lo ≤ n → n < hi → n + lo' = n' + lo → Q (.var n x) (.var n' x)

/-- Where one sketch comes to an outline, another one comes to an outline that is alike. -/
def Transfers (rules : String → Option Rule) (Q : Token → Token → Prop) (f f' : Frame)
    (lo lo' hi : Nat) (m m' : Sketch Outline) : Prop :=
  ∀ {d d' u T}, Abreast rules f f' lo lo' d d' → u.frames ≤ hi → m d = .ok (T, u) →
    ∃ T' u', m' d' = .ok (T', u') ∧ T.Alike Q T' ∧ Abreast rules f f' lo lo' u u'

variable {rules : String → Option Rule} {Q : Token → Token → Prop} {f f' : Frame}
  {σ : String → Expr} {lo lo' hi : Nat} {d d' u u' : Draft}

/-! ## Terms -/

theorem transfer_term (hd : Abreast rules f f' lo lo' d d') {e : Expr} {t : Token}
    (he : ∀ x, e.atomText? = some x → Carries rules Q f f' σ x)
    (h : term rules f e d = .ok (t, u)) :
    ∃ t' u', term rules f' (e.substTerm σ) d' = .ok (t', u') ∧ Q t t' ∧
      Abreast rules f f' lo lo' u u' := by
  obtain ⟨x, rfl, hx, rfl, hframes, htidy⟩ := term_ok hd.tidy h
  obtain ⟨y, hσ, hpermits, hQ⟩ := he x rfl
  obtain ⟨u', hu'⟩ := exists_term_ok hd.tidy' (hpermits hx)
  obtain ⟨_, -, -, -, hframes', htidy'⟩ := term_ok hd.tidy' hu'
  refine ⟨f'.token y, u', ?_, hQ, hd.params, htidy, htidy', ?_, ?_⟩
  · rw [Expr.substTerm, hσ]
    exact hu'
  · rw [hframes]
    exact hd.le_frames
  · rw [hframes, hframes']
    exact hd.frames_eq

theorem transfer_terms (hd : Abreast rules f f' lo lo' d d') {args : List Expr} {ts : List Token}
    (hargs : ∀ x ∈ args.filterMap Expr.atomText?, Carries rules Q f f' σ x)
    (h : terms rules f args d = .ok (ts, u)) :
    ∃ ts' u', terms rules f' (args.map (Expr.substTerm σ)) d' = .ok (ts', u') ∧
      List.Forall₂ Q ts ts' ∧ Abreast rules f f' lo lo' u u' := by
  induction args generalizing d d' ts with
  | nil =>
    obtain ⟨rfl, rfl⟩ := pure_ok_iff.mp h
    exact ⟨[], d', rfl, .nil, hd⟩
  | cons e later ih =>
    obtain ⟨t, rest, v, ht, hrest, rfl⟩ := terms_cons_ok_iff.mp h
    obtain ⟨t', v', ht', hQ, hv⟩ := transfer_term hd
      (fun x hx => hargs x (List.mem_filterMap.mpr ⟨e, List.mem_cons_self, hx⟩)) ht
    have hlater : ∀ x ∈ later.filterMap Expr.atomText?, Carries rules Q f f' σ x := by
      intro x hx
      obtain ⟨e', he', hx⟩ := List.mem_filterMap.mp hx
      exact hargs x (List.mem_filterMap.mpr ⟨e', List.mem_cons_of_mem _ he', hx⟩)
    obtain ⟨rest', u', hrest', hQs, hu⟩ := ih hv hlater hrest
    exact ⟨t' :: rest', u', terms_cons_ok_iff.mpr ⟨t', rest', v', ht', hrest', rfl⟩,
      .cons hQ hQs, hu⟩

/-! ## Goals -/

section Goals

variable {limit left left' : Nat}

theorem transfer_goals {es : List Expr}
    (hes : ∀ e ∈ es, Transfers rules Q f f' lo lo' hi
      (goal rules (applyRule rules limit left) f e)
      (goal rules (applyRule rules limit left') f' (e.substGoal σ)))
    (hd : Abreast rules f f' lo lo' d d') (hu : u.frames ≤ hi) {ts : List Outline}
    (h : goals rules (applyRule rules limit left) f es d = .ok (ts, u)) :
    ∃ ts' u', goals rules (applyRule rules limit left') f' (es.map (Expr.substGoal σ)) d' =
        .ok (ts', u') ∧
      List.Forall₂ (Outline.Alike Q) ts ts' ∧ Abreast rules f f' lo lo' u u' := by
  induction es generalizing d d' ts with
  | nil =>
    obtain ⟨rfl, rfl⟩ := goals_nil_ok_iff.mp h
    exact ⟨[], d', rfl, .nil, hd⟩
  | cons e later ih =>
    obtain ⟨T, rest, v, hT, hrest, rfl⟩ := goals_cons_ok_iff.mp h
    obtain ⟨T', v', hT', halike, hv⟩ :=
      hes e List.mem_cons_self hd (Nat.le_trans (frames_le_goals hrest) hu) hT
    obtain ⟨rest', u', hrest', halikes, hu⟩ :=
      ih (fun e' he' => hes e' (List.mem_cons_of_mem _ he')) hv hrest
    exact ⟨T' :: rest', u', goals_cons_ok_iff.mpr ⟨T', rest', v', hT', hrest', rfl⟩,
      .cons halike halikes, hu⟩

/-- A goal can be carried over if applications can. -/
theorem transfer_goal_of
    (happly : ∀ name args, (∀ x ∈ args.filterMap Expr.atomText?, Carries rules Q f f' σ x) →
      Transfers rules Q f f' lo lo' hi (applyRule rules limit left name args f)
        (applyRule rules limit left' name (args.map (Expr.substTerm σ)) f'))
    {e : Expr} (he : ∀ x ∈ e.termNames, Carries rules Q f f' σ x) :
    Transfers rules Q f f' lo lo' hi (goal rules (applyRule rules limit left) f e)
      (goal rules (applyRule rules limit left') f' (e.substGoal σ)) := by
  induction e using Expr.induction with
  | atom name =>
    rw [Expr.substGoal, goal_bare, goal_bare]
    · exact happly name [] (by simp)
    · simp
  | list items ih =>
    intro d d' u T hd hu h
    have hgoals : ∀ {es : List Expr}, (∀ e ∈ es, e ∈ items) →
        (∀ x ∈ Expr.termNamesOfAll es, Carries rules Q f f' σ x) →
        ∀ e ∈ es, Transfers rules Q f f' lo lo' hi (goal rules (applyRule rules limit left) f e)
          (goal rules (applyRule rules limit left') f' (e.substGoal σ)) :=
      fun hsub hes e he => ih e (hsub e he) fun x hx => hes x (Expr.mem_termNamesOfAll.mpr ⟨e, he, hx⟩)
    cases shape_of_ok h with
    | print x =>
      rw [Expr.termNames_print] at he
      obtain ⟨t, ht, rfl⟩ := goal_print_ok_iff.mp h
      obtain ⟨t', u', ht', hQ, hu⟩ := transfer_term hd
        (fun y hy => he y (List.mem_filterMap.mpr ⟨x, List.mem_cons_self, hy⟩)) ht
      rw [Expr.substGoal_print]
      exact ⟨.print t', u', goal_print_ok_iff.mpr ⟨t', ht', rfl⟩, .print hQ, hu⟩
    | equal x y =>
      rw [Expr.termNames_equal] at he
      obtain ⟨t, s, v, ht, hs, rfl⟩ := goal_equal_ok_iff.mp h
      obtain ⟨t', v', ht', hQ, hv⟩ := transfer_term hd
        (fun z hz => he z (List.mem_filterMap.mpr ⟨x, List.mem_cons_self, hz⟩)) ht
      obtain ⟨s', u', hs', hQ', hu⟩ := transfer_term hv
        (fun z hz => he z (List.mem_filterMap.mpr
          ⟨y, List.mem_cons_of_mem _ List.mem_cons_self, hz⟩)) hs
      rw [Expr.substGoal_equal]
      exact ⟨.unify t' s', u', goal_equal_ok_iff.mpr ⟨t', s', v', ht', hs', rfl⟩,
        .unify hQ hQ', hu⟩
    | and es =>
      rw [Expr.termNames_and] at he
      obtain ⟨ts, hts, rfl⟩ := goal_and_ok_iff.mp h
      obtain ⟨ts', u', hts', halikes, hu⟩ :=
        transfer_goals (hgoals (fun e he => List.mem_cons_of_mem _ he) he) hd hu hts
      rw [Expr.substGoal_and]
      exact ⟨.and ts', u', goal_and_ok_iff.mpr ⟨ts', hts', rfl⟩, .and halikes, hu⟩
    | or es =>
      rw [Expr.termNames_or] at he
      obtain ⟨ts, hts, rfl⟩ := goal_or_ok_iff.mp h
      obtain ⟨ts', u', hts', halikes, hu⟩ :=
        transfer_goals (hgoals (fun e he => List.mem_cons_of_mem _ he) he) hd hu hts
      rw [Expr.substGoal_or]
      exact ⟨.or ts', u', goal_or_ok_iff.mpr ⟨ts', hts', rfl⟩, .or halikes, hu⟩
    | application hname args =>
      rw [Expr.termNames_application hname] at he
      rw [goal_application hname] at h
      rw [Expr.substGoal_application hname, goal_application hname]
      exact happly _ args he hd hu h

end Goals

/-! ## Rule applications -/

/-- What a name is looked up as depends on what the names stand for, place by place. -/
theorem lookup_zip_rel {α β : Type} {R : α → β → Prop} {as : List α} {bs : List β}
    (h : List.Forall₂ R as bs) (params : List String) (x : String) :
    Option.Rel R ((params.zip as).lookup x) ((params.zip bs).lookup x) := by
  induction h generalizing params with
  | nil =>
    rw [List.zip_nil_right, List.zip_nil_right]
    exact .none
  | cons hab _ ih =>
    cases params with
    | nil => exact .none
    | cons param params =>
      rw [List.zip_cons_cons, List.zip_cons_cons, NameTable.lookup_entry, NameTable.lookup_entry]
      by_cases hx : x = param
      · rw [if_pos hx, if_pos hx]
        exact .some hab
      · rw [if_neg hx, if_neg hx]
        exact ih params

/-- Parameters that all stand for something are the parameters of the frame. -/
theorem map_fst_zip {params : List String} {ts : List Token} (hlen : ts.length = params.length) :
    (params.zip ts).map Prod.fst = params :=
  List.map_fst_zip hlen.ge

/-- Between frames of two applications of a rule every name is carried over. -/
theorem carries_atom {params : List String} {ts ts' : List Token} {n n' : Nat}
    (hlen : ts.length = params.length) (hts : List.Forall₂ Q ts ts')
    (hconstant : ∀ x, Q (.constant x) (.constant x)) (hframe : ∀ x, Q (.var n x) (.var n' x))
    (x : String) : Carries rules Q ⟨n, params.zip ts⟩ ⟨n', params.zip ts'⟩ .atom x := by
  refine ⟨x, rfl, ?_, ?_⟩
  · unfold Permits
    rw [map_fst_zip hlen, map_fst_zip (hts.length_eq ▸ hlen)]
    exact id
  · unfold Frame.token
    cases isVariableName x with
    | false => exact hconstant x
    | true =>
      have hrel := lookup_zip_rel hts params x
      simp only [if_true]
      generalize (params.zip ts).lookup x = t, (params.zip ts').lookup x = t' at hrel ⊢
      cases hrel with
      | none => exact hframe x
      | some hQ => exact hQ

namespace Abreast

theorem openFrame (h : Abreast rules f f' lo lo' d d') :
    Abreast rules f f' lo lo' { d with frames := d.frames + 1 }
      { d' with frames := d'.frames + 1 } where
  params := h.params
  tidy := h.tidy
  tidy' := h.tidy'
  le_frames := Nat.le_succ_of_le h.le_frames
  frames_eq := by
    have hframes := h.frames_eq
    dsimp only
    omega

/-- The frames of an application know the parameters of the rule. -/
theorem enter (h : Abreast rules f f' lo lo' d d') {params : List String} {ts ts' : List Token}
    (hlen : ts.length = params.length) (hlen' : ts'.length = params.length) (n n' : Nat) :
    Abreast rules ⟨n, params.zip ts⟩ ⟨n', params.zip ts'⟩ lo lo' { d with known := params }
      { d' with known := params } where
  params := by
    intro x _
    rw [map_fst_zip hlen, map_fst_zip hlen']
    exact id
  tidy := by
    intro x _
    rw [map_fst_zip hlen]
  tidy' := by
    intro x _
    rw [map_fst_zip hlen']
  le_frames := h.le_frames
  frames_eq := h.frames_eq

/-- After an application, the frames that applied the rule are at work again. -/
theorem leave {g g' : Frame} {v v' : Draft} (h : Abreast rules f f' lo lo' d d')
    (hbody : Abreast rules g g' lo lo' v v') :
    Abreast rules f f' lo lo' { v with known := d.known } { v' with known := d'.known } where
  params := h.params
  tidy := h.tidy
  tidy' := h.tidy'
  le_frames := hbody.le_frames
  frames_eq := hbody.frames_eq

end Abreast

theorem transfer_applyRule (hconstant : ∀ x, Q (.constant x) (.constant x))
    (hshifts : Shifts Q lo lo' hi) {limit left left' : Nat} (hle : left ≤ left') (name : String)
    (args : List Expr) (hargs : ∀ x ∈ args.filterMap Expr.atomText?, Carries rules Q f f' σ x) :
    Transfers rules Q f f' lo lo' hi (applyRule rules limit left name args f)
      (applyRule rules limit left' name (args.map (Expr.substTerm σ)) f') := by
  induction left generalizing f f' σ left' name args with
  | zero =>
    intro d d' u T hd hu h
    obtain ⟨n, _, _, _, _, _, hn, -⟩ := applyRule_ok_iff.mp h
    cases hn
  | succ left ih =>
    intro d d' u T hd hu h
    have hopened := frames_lt_of_applyRule h
    obtain ⟨_, r, ts, v, w, _, hn, hr, hts, hbody, rfl⟩ := applyRule_ok_iff.mp h
    cases hn
    have hbound : w.frames ≤ hi := hu
    obtain ⟨hname, hrule, hcount, rfl⟩ := (rule_ok_iff hd.tidy).mp hr
    obtain ⟨left', rfl⟩ : ∃ n, left' = n + 1 := ⟨left' - 1, by omega⟩
    have hr' : rule rules name (args.map (Expr.substTerm σ)).length d' = .ok (r, d') := by
      refine (rule_ok_iff hd.tidy').mpr ⟨?_, hrule, ?_, rfl⟩
      · exact fun hname' => hname (hd.params name (by simp [hrule]) hname')
      · rw [List.length_map, hcount]
    obtain ⟨ts', v', hts', hQs, hv⟩ := transfer_terms hd.openFrame hargs hts
    have hlen : ts.length = r.params.length := 
      (terms_ok hd.openFrame.tidy hts).1.length_eq.symm.trans hcount
    have hlen' : ts'.length = r.params.length := hQs.length_eq.symm.trans hlen
    -- The body stays as it is, in frames whose parameters stand for corresponding tokens.
    have hframe : ∀ x, Q (.var _ x) (.var d'.frames x) := fun x =>
      hshifts x hd.le_frames (Nat.lt_of_lt_of_le hopened hbound) hd.frames_eq
    obtain ⟨T', w', hbody', halike, hw⟩ :=
      transfer_goal_of (fun name args hargs => ih (Nat.le_of_succ_le_succ hle) name args hargs)
        (fun x _ => carries_atom hlen hQs hconstant hframe x) (hv.enter hlen hlen' _ _) hbound hbody
    rw [Expr.substGoal_atom] at hbody'
    exact ⟨T', _, applyRule_ok_iff.mpr ⟨left', r, ts', v', w', d', rfl, hr', hts', hbody', rfl⟩,
      halike, hv.leave hw⟩

/-- **A goal can be carried over from one frame to another.** -/
theorem transfer_goal (hconstant : ∀ x, Q (.constant x) (.constant x))
    (hshifts : Shifts Q lo lo' hi) {limit left left' : Nat} (hle : left ≤ left') {e : Expr}
    (he : ∀ x ∈ e.termNames, Carries rules Q f f' σ x) :
    Transfers rules Q f f' lo lo' hi (goal rules (applyRule rules limit left) f e)
      (goal rules (applyRule rules limit left') f' (e.substGoal σ)) :=
  transfer_goal_of (fun name args => transfer_applyRule hconstant hshifts hle name args) he

end Sketch

end GoalSearch
