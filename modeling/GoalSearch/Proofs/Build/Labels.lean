import GoalSearch.Proofs.Build.Growth
import GoalSearch.Proofs.Build.Outline
import GoalSearch.Proofs.Build.Proper

/-!
# Labelled workspaces

Which token each cell stands for that a build has created. A build starts in a workspace `base` that may
hold cells and scopes of earlier builds. What it adds to the store is told by the list of the tokens of
its cells, oldest first:

    w.store.slots = base.store.slots ++ (labels.map Token.slot).toArray

A variable has one cell, a constant one for each place where it is written. Every frame has the scope
that was opened as it was (`frameScope`), and that scope says of each name what the frame does, as far as
it knows the name (`Drawn`).
-/

namespace GoalSearch

def Token.slot : Token → Slot
  | .constant name => ⟨none, .bound ⟨name⟩⟩
  | .var _ name => ⟨some name, .unbound⟩

/-! ## Labels -/

/-- A cell behind the first ones of a store was created for a token. -/
def Stands (base : Store) (labels : List Token) (c : Cell) (t : Token) : Prop :=
  ∃ k, c = ⟨base.size + k⟩ ∧ labels[k]? = some t

section Labels

variable {base : Store} {labels labels' : List Token} {c : Cell} {t t' : Token}

theorem Stands.mono (h : Stands base labels c t) (hle : labels <+: labels') :
    Stands base labels' c t := by
  obtain ⟨k, hc, hk⟩ := h
  obtain ⟨later, rfl⟩ := hle
  obtain ⟨hlt, -⟩ := List.getElem?_eq_some_iff.mp hk
  exact ⟨k, hc, by rw [List.getElem?_append_left hlt, hk]⟩

theorem Stands.mem (h : Stands base labels c t) : t ∈ labels := by
  obtain ⟨k, -, hk⟩ := h
  exact List.mem_of_getElem? hk

/-- A cell was created for one token. -/
theorem Stands.unique (h : Stands base labels c t) (h' : Stands base labels c t') : t = t' := by
  obtain ⟨k, rfl, hk⟩ := h
  obtain ⟨j, hc, hj⟩ := h'
  have hkj : k = j := Nat.add_left_cancel (Cell.mk.inj hc)
  rw [← hkj, hk] at hj
  exact Option.some.inj hj

theorem stands_last (base : Store) (labels : List Token) (t : Token) :
    Stands base (labels ++ [t]) ⟨base.size + labels.length⟩ t :=
  ⟨labels.length, rfl, by simp⟩

theorem Stands.cases_last (h : Stands base (labels ++ [t']) c t) :
    Stands base labels c t ∨ c = ⟨base.size + labels.length⟩ ∧ t = t' := by
  obtain ⟨k, hc, hk⟩ := h
  rcases Nat.lt_trichotomy k labels.length with hlt | rfl | hgt
  · rw [List.getElem?_append_left hlt] at hk
    exact .inl ⟨k, hc, hk⟩
  · rw [List.getElem?_concat_length, Option.some.injEq] at hk
    exact .inr ⟨hc, hk.symm⟩
  · rw [List.getElem?_eq_none (by simp; omega)] at hk
    cases hk

end Labels

/-! ## Workspaces -/

/-- The scope of a frame, if the first scope of the build is to come next. -/
def frameScope (base : Workspace) (n : Nat) : ScopeId := ⟨base.scopes.scopes.size + n⟩

/-- A workspace in which a build has created cells for tokens and opened frames. -/
structure Labelled (root : ScopeId) (rules : NameTable Rule) (base : Workspace)
    (labels : List Token) (frames : Nat) (w : Workspace) : Prop where
  rooted : w.Rooted root rules
  /-- The root is older than the build. -/
  has_root : base.scopes.Has root
  slots_eq : w.store.slots = base.store.slots ++ (labels.map Token.slot).toArray
  scopes_eq : w.scopes.scopes.size = base.scopes.scopes.size + frames
  /-- A variable is known where it is new. -/
  registered : ∀ {n x}, .var n x ∈ labels →
    ∃ m, (w.scopes.names (frameScope base n)).find? x = some m
  unique : ∀ {c d n x}, Stands base.store labels c (.var n x) →
    Stands base.store labels d (.var n x) → c = d

/-- A frame in such a workspace. Its scope gives cells to the names that the frame knows, and each of them
was created for what the name stands for. -/
structure Drawn (root : ScopeId) (rules : NameTable Rule) (base : Workspace) (f : Frame)
    (labels : List Token) (d : Draft) (w : Workspace) : Prop
    extends Labelled root rules base labels d.frames w where
  lt_frames : f.number < d.frames
  known_iff : ∀ {x}, x ∈ d.known ↔
    ∃ m, (w.scopes.names (frameScope base f.number)).find? x = some m
  stands : ∀ {x c}, (w.scopes.names (frameScope base f.number)).find? x = some (.cell c) →
    Stands base.store labels c (f.token x)
  /-- A name that is new is no parameter. -/
  token_eq : ∀ {x}, isVariableName x = true → x ∉ d.known → f.token x = .var f.number x

section Workspaces

variable {root : ScopeId} {rules : NameTable Rule} {base w : Workspace} {f : Frame}
  {labels : List Token} {d : Draft} {frames : Nat} {x : String} {t : Token}

theorem frameScope_injective {n k : Nat} (h : frameScope base n = frameScope base k) : n = k :=
  Nat.add_left_cancel (ScopeId.mk.inj h)

theorem Labelled.frameScope_ne (h : Labelled root rules base labels frames w) (n : Nat) :
    frameScope base n ≠ root := by
  rintro rfl
  exact absurd h.has_root (Nat.not_lt.mpr (Nat.le_add_right _ n))

theorem Labelled.has_frameScope_iff (h : Labelled root rules base labels frames w) {n : Nat} :
    w.scopes.Has (frameScope base n) ↔ n < frames := by
  show base.scopes.scopes.size + n < w.scopes.scopes.size ↔ n < frames
  rw [h.scopes_eq]
  omega

/-- A frame that is not open yet has no names. -/
theorem Labelled.find?_eq_none (h : Labelled root rules base labels frames w) {n : Nat}
    (hn : frames ≤ n) (x : String) : (w.scopes.names (frameScope base n)).find? x = none := by
  cases hm : (w.scopes.names (frameScope base n)).find? x with
  | none => rfl
  | some m => exact absurd (h.has_frameScope_iff.mp (Scopes.has_of_find? hm)) (Nat.not_lt.mpr hn)

theorem Labelled.size_eq (h : Labelled root rules base labels frames w) :
    w.store.size = base.store.size + labels.length := by
  simp [Store.size, h.slots_eq]

theorem Labelled.has_of_stands (h : Labelled root rules base labels frames w) {c : Cell}
    (hc : Stands base.store labels c t) : w.store.Has c := by
  obtain ⟨k, rfl, hk⟩ := hc
  obtain ⟨hlt, -⟩ := List.getElem?_eq_some_iff.mp hk
  show base.store.size + k < w.store.size
  rw [h.size_eq]
  omega

theorem Labelled.openChild (h : Labelled root rules base labels frames w) :
    (w.scopes.openChild root).1 = frameScope base frames ∧
      Labelled root rules base labels (frames + 1)
        { w with scopes := (w.scopes.openChild root).2 } := by
  refine ⟨congrArg ScopeId.mk h.scopes_eq, ?_⟩
  refine ⟨h.rooted.openChild, h.has_root, h.slots_eq, ?_, ?_, h.unique⟩
  · simp [Scopes.openChild, h.scopes_eq, Nat.add_assoc]
  · intro n x hx
    rw [Scopes.names_openChild]
    exact h.registered hx

theorem Labelled.bind (h : Labelled root rules base labels frames w) {n : Nat} (hn : n < frames)
    (hvar : isVariableName x = true) {c : Cell} (hc : w.store.Has c) :
    Labelled root rules base labels frames
      { w with scopes := w.scopes.bind (frameScope base n) x (.cell c) } := by
  refine ⟨h.rooted.bind (h.frameScope_ne n) hvar hc, h.has_root, h.slots_eq, ?_, ?_, h.unique⟩
  · simpa [Scopes.bind] using h.scopes_eq
  · intro k y hy
    rw [Scopes.find?_bind (h.has_frameScope_iff.mpr hn)]
    split
    · exact ⟨_, rfl⟩
    · exact h.registered hy

/-- A new cell for a constant. -/
theorem Labelled.createBound (h : Labelled root rules base labels frames w) (name : String) :
    Labelled root rules base (labels ++ [.constant name]) frames
      { w with store := (w.store.createBound ⟨name⟩).2 } := by
  refine ⟨h.rooted.create none (.bound ⟨name⟩), h.has_root, ?_, h.scopes_eq, ?_, ?_⟩
  · simp [Store.createBound, Store.create, h.slots_eq, Token.slot]
  · intro n x hx
    exact h.registered (by simpa using hx)
  · intro c d n x hc hd
    obtain hc | ⟨-, hc⟩ := hc.cases_last
    · obtain hd | ⟨-, hd⟩ := hd.cases_last
      · exact h.unique hc hd
      · cases hd
    · cases hc

/-- A new cell for a variable that its frame does not know yet. -/
theorem Labelled.createNamed (h : Labelled root rules base labels frames w) {n : Nat}
    (hn : n < frames) (hvar : isVariableName x = true)
    (hx : (w.scopes.names (frameScope base n)).find? x = none) :
    Labelled root rules base (labels ++ [.var n x]) frames
      ⟨(w.store.createNamed x).2,
        w.scopes.bind (frameScope base n) x (.cell (w.store.createNamed x).1)⟩ := by
  have hnew : .var n x ∉ labels := by
    intro hmem
    obtain ⟨m, hm⟩ := h.registered hmem
    rw [hx] at hm
    cases hm
  have hcreate := h.rooted.create (some x) .unbound
  refine ⟨hcreate.bind (h.frameScope_ne n) hvar (Store.has_create w.store (some x) .unbound),
    h.has_root, ?_, ?_, ?_, ?_⟩
  · simp [Store.createNamed, Store.create, h.slots_eq, Token.slot]
  · simpa [Scopes.bind] using h.scopes_eq
  · intro k y hy
    rw [Scopes.find?_bind (h.has_frameScope_iff.mpr hn)]
    split
    · exact ⟨_, rfl⟩
    · next hne =>
      refine h.registered ((List.mem_append.mp hy).resolve_right fun hlast => hne ?_)
      obtain ⟨rfl, rfl⟩ := Token.var.inj (List.mem_singleton.mp hlast)
      exact ⟨rfl, rfl⟩
  · intro c d k y hc hd
    obtain hc | ⟨rfl, hlast⟩ := hc.cases_last
    · obtain hd | ⟨-, hlast⟩ := hd.cases_last
      · exact h.unique hc hd
      · exact absurd (hlast ▸ hc.mem) hnew
    · obtain hd | ⟨rfl, -⟩ := hd.cases_last
      · exact absurd (hlast ▸ hd.mem) hnew
      · rfl

/-! ## Terms -/

variable (h : Drawn root rules base f labels d w)

include h

theorem Drawn.lookup_eq (x : String) :
    w.scopes.lookup (frameScope base f.number) x =
      ((w.scopes.names (frameScope base f.number)).find? x).or ((rules.find? x).map .rule) :=
  h.rooted.lookup_eq (h.has_frameScope_iff.mpr h.lt_frames) (h.frameScope_ne f.number) x

theorem Drawn.find?_eq_none (hx : x ∉ d.known) :
    (w.scopes.names (frameScope base f.number)).find? x = none := by
  cases hm : (w.scopes.names (frameScope base f.number)).find? x with
  | none => rfl
  | some m => exact absurd (h.known_iff.mpr ⟨m, hm⟩) hx

/-- A name that is known stands for a cell. -/
theorem Drawn.exists_stands (hx : x ∈ d.known) :
    ∃ c, w.scopes.lookup (frameScope base f.number) x = some (.cell c) ∧
      Stands base.store labels c (f.token x) := by
  obtain ⟨m, hm⟩ := h.known_iff.mp hx
  obtain ⟨-, c, rfl, -⟩ := h.rooted.named (h.frameScope_ne f.number) hm
  exact ⟨c, (h.rooted.lookup_cell_iff (h.frameScope_ne f.number)).mpr hm, h.stands hm⟩

theorem Drawn.lookup_of_not_known (hx : x ∉ d.known) :
    w.scopes.lookup (frameScope base f.number) x = (rules.find? x).map .rule := by
  rw [h.lookup_eq, h.find?_eq_none hx, Option.none_or]

theorem Drawn.createBound (name : String) :
    Drawn root rules base f (labels ++ [.constant name]) d
      { w with store := (w.store.createBound ⟨name⟩).2 } :=
  ⟨h.toLabelled.createBound name, h.lt_frames, h.known_iff,
    fun hc => (h.stands hc).mono (List.prefix_append _ _), h.token_eq⟩

theorem Drawn.createNamed (hvar : isVariableName x = true) (hx : x ∉ d.known) :
    Drawn root rules base f (labels ++ [.var f.number x]) { d with known := x :: d.known }
      ⟨(w.store.createNamed x).2,
        w.scopes.bind (frameScope base f.number) x (.cell (w.store.createNamed x).1)⟩ where
  toLabelled := h.toLabelled.createNamed h.lt_frames hvar (h.find?_eq_none hx)
  lt_frames := h.lt_frames
  known_iff := by
    intro y
    rw [Scopes.find?_bind (h.has_frameScope_iff.mpr h.lt_frames), List.mem_cons, h.known_iff]
    by_cases hy : y = x
    · simp [hy]
    · simp [hy]
  stands := by
    intro y c hc
    rw [Scopes.find?_bind (h.has_frameScope_iff.mpr h.lt_frames)] at hc
    by_cases hy : y = x
    · rw [if_pos ⟨rfl, hy⟩, Option.some.injEq, Meaning.cell.injEq] at hc
      rw [← hc, hy, h.token_eq hvar hx]
      show Stands base.store _ ⟨w.store.size⟩ _
      rw [h.size_eq]
      exact stands_last base.store labels (.var f.number x)
    · rw [if_neg fun hand => hy hand.2] at hc
      exact (h.stands hc).mono (List.prefix_append _ _)
  token_eq := by
    intro y hy hnot
    exact h.token_eq hy fun hmem => hnot (List.mem_cons_of_mem x hmem)

/-! ## Frames -/

theorem Drawn.openChild :
    Drawn root rules base f labels { d with frames := d.frames + 1 }
      { w with scopes := (w.scopes.openChild root).2 } where
  toLabelled := h.toLabelled.openChild.2
  lt_frames := Nat.lt_succ_of_lt h.lt_frames
  known_iff := by
    intro x
    rw [Scopes.names_openChild]
    exact h.known_iff
  stands := by
    intro x c hc
    rw [Scopes.names_openChild] at hc
    exact h.stands hc
  token_eq := h.token_eq

/-- A frame after a name has got a cell in another one. -/
theorem Drawn.bind_ne {n : Nat} (hn : n < d.frames) (hne : n ≠ f.number)
    (hvar : isVariableName x = true) {c : Cell} (hc : w.store.Has c) :
    Drawn root rules base f labels d
      { w with scopes := w.scopes.bind (frameScope base n) x (.cell c) } := by
  have hnames := Scopes.names_bind_ne w.scopes x (.cell c)
    (fun e => hne (frameScope_injective e).symm :
      frameScope base f.number ≠ frameScope base n)
  refine ⟨h.toLabelled.bind hn hvar hc, h.lt_frames, ?_, ?_, h.token_eq⟩
  · rw [hnames]
    exact h.known_iff
  · rw [hnames]
    exact h.stands

/-- A frame that is at work again after another one. -/
theorem Drawn.resume {g : Frame} {labels' : List Token} {u : Draft} {w' : Workspace}
    (hg : Drawn root rules base g labels' u w') (hne : f.number ≠ g.number)
    (hle : labels <+: labels') (hgrows : w.Grows (frameScope base g.number) w') :
    Drawn root rules base f labels' { u with known := d.known } w' := by
  have hnames := hgrows.names_eq (h.has_frameScope_iff.mpr h.lt_frames)
    fun e => hne (frameScope_injective e)
  refine ⟨hg.toLabelled, ?_, ?_, ?_, h.token_eq⟩
  · exact hg.has_frameScope_iff.mp (hgrows.has_scope (h.has_frameScope_iff.mpr h.lt_frames))
  · rw [hnames]
    exact h.known_iff
  · intro x c hc
    rw [hnames] at hc
    exact (h.stands hc).mono hle

end Workspaces

end GoalSearch
