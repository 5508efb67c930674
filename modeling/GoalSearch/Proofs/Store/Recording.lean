import GoalSearch.Proofs.Search.Undo
import GoalSearch.Proofs.Store.Session

/-!
# Trails take equations back

Equations are solved one after the other, some of them in vain, and the bindings that they report are put
on a trail, one by one or several at once. Undoing the trail gives back the store that there was before
the first equation:

    r.trail.undo r.store = (.empty, s)                                          (undo_restores)

Reverting the bindings in any other order gives it back as well, also if some are reverted again. The
stores on the way depend on the order, since an equation often makes an alias of the very cell that an
earlier alias leads to. But a cell that has become an alias is no longer unbound, so no later equation
writes to it (`Accounts.link`), and its binding makes it unbound whatever the other cells hold
(`state_foldl_revert`).
-/

namespace GoalSearch

/-- The binding that reports a link. -/
def Link.binding (l : Link) : Binding := ⟨l.cell, .unbound⟩

namespace Store

variable {s t : Store}

/-! ## Stores cell by cell -/

def names (s : Store) : Array (Option String) := s.slots.map Slot.name

theorem names_setState (s : Store) (c : Cell) (state : CellState) :
    (s.setState c state).names = s.names := by
  apply Array.ext_getElem?
  intro i
  by_cases h : c.id = i
  · subst h
    cases hslot : s.slots[c.id]? <;> simp [names, setState, Array.getElem?_modify, hslot]
  · simp [names, setState, Array.getElem?_modify, h]

/-- A store is what its cells are called and what they hold. -/
theorem eq_of_names_of_state (hnames : s.names = t.names) (hstate : ∀ c, s.state c = t.state c) :
    s = t := by
  obtain ⟨slots⟩ := s
  obtain ⟨slots'⟩ := t
  have hsize : slots.size = slots'.size := by
    simpa [names] using congrArg Array.size hnames
  rw [Store.mk.injEq]
  refine Array.ext hsize fun i hi hi' => ?_
  have hname : slots[i].name = slots'[i].name := by
    have hget := congrArg (fun names => names[i]?) hnames
    simpa [names, hi, hi'] using hget
  have hholds : slots[i].state = slots'[i].state := by
    simpa [Store.state, hi, hi'] using hstate ⟨i⟩
  generalize slots[i] = slot at hname hholds
  generalize slots'[i] = slot' at hname hholds
  obtain ⟨name, state⟩ := slot
  obtain rfl : name = slot'.name := hname
  obtain rfl : state = slot'.state := hholds
  rfl

/-! ## Reverting in any order -/

theorem names_foldl_revert (order : List Binding) (s : Store) :
    (order.foldl revert s).names = s.names := by
  induction order generalizing s with
  | nil => rfl
  | cons b later ih => rw [List.foldl_cons, ih, revert, names_setState]

/-- **Reverting in any order** makes the cells of the bindings unbound and leaves the others alone. -/
theorem state_foldl_revert {order : List Binding} (horder : ∀ b ∈ order, b.previous = .unbound)
    (s : Store) (c : Cell) :
    (order.foldl revert s).state c =
      if c ∈ order.map Binding.cell then .unbound else s.state c := by
  induction order generalizing s with
  | nil => rfl
  | cons b later ih =>
    obtain ⟨hb, hlater⟩ := List.forall_mem_cons.mp horder
    rw [List.foldl_cons, ih hlater, revert, hb, List.map_cons]
    by_cases hc : c = b.cell
    · subst hc
      rw [state_setState_unbound, ite_self, if_pos List.mem_cons_self]
    · rw [state_setState_ne s _ hc]
      simp only [List.mem_cons, hc, false_or]

end Store

open Store

/-! ## Equations and a trail -/

/-- What there is while equations are solved and their bindings are put on a trail. -/
structure Recording where
  store : Store
  /-- The bindings that have been reported, latest first. -/
  reported : List Binding
  trail : Trail

namespace Recording

def start (s : Store) : Recording := ⟨s, [], .empty⟩

inductive Call where
  | unify (a b : Cell)
  | record (b : Binding)
  | extend (bs : List Binding)
deriving DecidableEq, Repr

/-- The sides of the equation, if it is one. -/
def Call.cells : Call → List Cell
  | .unify a b => [a, b]
  | .record _ | .extend _ => []

/-- The bindings that are put on the trail, in order. -/
def Call.recorded : Call → List Binding
  | .unify _ _ => []
  | .record b => [b]
  | .extend bs => bs

def call (r : Recording) : Call → Recording
  | .unify a b =>
    { r with
      store := (r.store.unify a b).2
      reported := (r.store.unify a b).1.binding?.toList ++ r.reported }
  | .record b => { r with trail := r.trail.record b }
  | .extend bs => { r with trail := r.trail.extend bs }

def run (r : Recording) (calls : List Call) : Recording := calls.foldl call r

variable {s : Store} {r : Recording} {c : Cell} {calls : List Call}

/-! ### What is on the trail -/

theorem bindings_call (r : Recording) (next : Call) :
    (r.call next).trail.bindings = next.recorded.reverse ++ r.trail.bindings := by
  cases next with
  | unify a b => rfl
  | record b => rfl
  | extend bs => exact Session.bindings_extend r.trail bs

/-- The trail holds what was put on it, latest first. -/
theorem bindings_run (r : Recording) (calls : List Call) :
    (r.run calls).trail.bindings = (calls.flatMap Call.recorded).reverse ++ r.trail.bindings := by
  induction calls generalizing r with
  | nil => rfl
  | cons next later ih =>
    rw [run, List.foldl_cons, ← run, ih, bindings_call, List.flatMap_cons, List.reverse_append,
      List.append_assoc]

/-! ### What has been reported -/

/-- The reported bindings account for all that tells the store from an earlier one: each of them reports
a link that is open. -/
structure Accounts (s : Store) (r : Recording) : Prop where
  acyclic : r.store.Acyclic
  names_eq : r.store.names = s.names
  links : ∃ opened, Moment.Since s ⟨r.store, opened⟩ ∧ r.reported = opened.map Link.binding

theorem accounts_start (hs : s.Acyclic) : Accounts s (start s) :=
  ⟨hs, rfl, [], Moment.since_start s, rfl⟩

/-- A link of an unbound cell is none of those that are open, and its binding reports it. -/
theorem Accounts.link (h : Accounts s r) {cell target : Cell} (hhas : r.store.Has cell)
    (hunbound : r.store.state cell = .unbound) :
    ∃ opened, Moment.Since s ⟨(r.store.link cell target).2, opened⟩ ∧
      (r.store.link cell target).1.binding?.toList ++ r.reported = opened.map Link.binding := by
  obtain ⟨opened, hsince, hreported⟩ := h.links
  refine ⟨⟨cell, target⟩ :: opened, hsince.aliased hhas hunbound, ?_⟩
  rw [hreported, List.map_cons, Store.link, hunbound]
  rfl

theorem Accounts.unify (h : Accounts s r) {a b : Cell} (ha : s.Has a) (hb : s.Has b) :
    Accounts s (r.call (.unify a b)) := by
  obtain ⟨_, hsince, -⟩ := h.links
  have hleft : r.store.Has a := (has_congr hsince.size_eq).mpr ha
  have hright : r.store.Has b := (has_congr hsince.size_eq).mpr hb
  have hnames := apply_unify_eq names_setState r.store a b
  refine ⟨h.acyclic.unify hleft hright, hnames.trans h.names_eq, ?_⟩
  have hcase := r.store.unify_case a b
  rw [Recording.call]
  generalize r.store.unify a b = result at hcase
  -- without a link nothing is written and nothing reported, also if the equation fails
  cases hcase with
  | same _ => exact h.links
  | linkLeft _ hl => exact h.link (h.acyclic.has_deref hleft) hl
  | linkRight _ _ hr => exact h.link (h.acyclic.has_deref hright) hr
  | equal _ _ => exact h.links
  | clash _ _ _ => exact h.links

/-- **One call** keeps the account, whether an equation is solved or not. -/
theorem Accounts.call (h : Accounts s r) {next : Call} (hcells : ∀ c ∈ next.cells, s.Has c) :
    Accounts s (r.call next) := by
  cases next with
  | unify a b => exact h.unify (hcells a (by simp [Call.cells])) (hcells b (by simp [Call.cells]))
  | record b => exact ⟨h.acyclic, h.names_eq, h.links⟩
  | extend bs => exact ⟨h.acyclic, h.names_eq, h.links⟩

theorem Accounts.run (h : Accounts s r) (hcells : ∀ next ∈ calls, ∀ c ∈ next.cells, s.Has c) :
    Accounts s (r.run calls) := by
  induction calls generalizing r with
  | nil => exact h
  | cons next later ih =>
    obtain ⟨hnext, hlater⟩ := List.forall_mem_cons.mp hcells
    exact ih (h.call hnext) hlater

/-! ### What the bindings say -/

theorem Accounts.previous (h : Accounts s r) : ∀ b ∈ r.reported, b.previous = .unbound := by
  obtain ⟨opened, -, hreported⟩ := h.links
  rw [hreported]
  intro b hb
  obtain ⟨l, -, rfl⟩ := List.mem_map.mp hb
  rfl

/-- The cells of the bindings are those of the open links. -/
theorem Accounts.exists_map_cell_eq (h : Accounts s r) : ∃ opened,
    Moment.Since s ⟨r.store, opened⟩ ∧ r.reported.map Binding.cell = opened.map Link.cell := by
  obtain ⟨opened, hsince, hreported⟩ := h.links
  refine ⟨opened, hsince, ?_⟩
  rw [hreported, List.map_map]
  rfl

theorem Accounts.nodup (h : Accounts s r) : (r.reported.map Binding.cell).Nodup := by
  obtain ⟨opened, hsince, hcells⟩ := h.exists_map_cell_eq
  rw [hcells]
  exact hsince.nodup

/-- The cells of the bindings are those that have changed. -/
theorem Accounts.changed_iff (h : Accounts s r) :
    r.store.state c ≠ s.state c ↔ c ∈ r.reported.map Binding.cell := by
  obtain ⟨opened, hsince, hcells⟩ := h.exists_map_cell_eq
  rw [hcells, List.mem_map]
  exact hsince.changed_iff

theorem Accounts.unbound (h : Accounts s r) (hc : c ∈ r.reported.map Binding.cell) :
    s.state c = .unbound := by
  obtain ⟨opened, hsince, hcells⟩ := h.exists_map_cell_eq
  rw [hcells] at hc
  obtain ⟨l, hl, rfl⟩ := List.mem_map.mp hc
  exact hsince.unbound l hl

/-- Reverting all that has been reported gives the earlier store back, in any order. -/
theorem Accounts.foldl_revert_eq (h : Accounts s r) {order : List Binding}
    (horder : ∀ b, b ∈ order ↔ b ∈ r.reported) : order.foldl revert r.store = s := by
  have hprevious : ∀ b ∈ order, b.previous = .unbound :=
    fun b hb => h.previous b ((horder b).mp hb)
  have hcells : ∀ c, c ∈ order.map Binding.cell ↔ c ∈ r.reported.map Binding.cell := by
    intro c
    simp only [List.mem_map, horder]
  have hnames := (names_foldl_revert order r.store).trans h.names_eq
  refine eq_of_names_of_state hnames fun c => ?_
  rw [state_foldl_revert hprevious]
  by_cases hc : c ∈ order.map Binding.cell
  · rw [if_pos hc]
    exact (h.unbound ((hcells c).mp hc)).symm
  · rw [if_neg hc]
    by_contra hchanged
    exact hc ((hcells c).mpr (h.changed_iff.mp hchanged))

/-- **Trails take equations back.** Equations are solved from a store without cycles, some of them in
vain, and what they report is put on a trail, which is empty at first. Undoing the trail leaves it empty
and gives the store back. The bindings are of different cells, just those that have changed, and reverting
them in any other order, each at least once, gives the store back too. -/
theorem undo_restores (hs : s.Acyclic) (hcells : ∀ next ∈ calls, ∀ c ∈ next.cells, s.Has c)
    (hrecorded : (calls.flatMap Call.recorded).Perm ((start s).run calls).reported) :
    let r := (start s).run calls
    let recorded := calls.flatMap Call.recorded
    r.trail.undo r.store = (.empty, s) ∧
      (recorded.map Binding.cell).Nodup ∧
      (∀ c, r.store.state c ≠ s.state c ↔ c ∈ recorded.map Binding.cell) ∧
      ∀ order : List Binding, (∀ b, b ∈ order ↔ b ∈ recorded) → order.foldl revert r.store = s := by
  intro r recorded
  have h : Accounts s r := (accounts_start hs).run hcells
  have hcellsPerm : (recorded.map Binding.cell).Perm (r.reported.map Binding.cell) :=
    hrecorded.map Binding.cell
  have horders : ∀ order : List Binding, (∀ b, b ∈ order ↔ b ∈ recorded) →
      order.foldl revert r.store = s :=
    fun order horder => h.foldl_revert_eq fun b => (horder b).trans hrecorded.mem_iff
  have hbindings : r.trail.bindings = recorded.reverse :=
    (bindings_run (start s) calls).trans (List.append_nil _)
  refine ⟨?_, hcellsPerm.nodup_iff.mpr h.nodup, fun c => ?_, horders⟩
  · -- undoing reverts the bindings in one order among others
    rw [Trail.undo, horders]
    intro b
    rw [hbindings, List.mem_reverse]
  · rw [h.changed_iff, hcellsPerm.mem_iff]

/-- `X` is linked to `Y`, `Y` to `Z` through `W`, which is an alias of `X`, and `Z` to a constant. Then `X`
cannot be `b`, `Y` and `Z` stand for the same, and `V` is linked to the constant. Reverting begins in the
middle of the chain. -/
theorem undo_restores_redirected :
    let s : Store := ⟨#[⟨some "X", .unbound⟩, ⟨some "Y", .unbound⟩, ⟨some "Z", .unbound⟩,
      ⟨some "W", .aliasOf ⟨0⟩⟩, ⟨none, .bound ⟨"a"⟩⟩, ⟨none, .bound ⟨"b"⟩⟩, ⟨some "V", .unbound⟩]⟩
    let made (id : Nat) : Binding := ⟨⟨id⟩, .unbound⟩
    let calls : List Call := [.unify ⟨0⟩ ⟨1⟩, .record (made 0), .unify ⟨3⟩ ⟨2⟩, .unify ⟨4⟩ ⟨3⟩,
      .unify ⟨0⟩ ⟨5⟩, .extend [made 2, made 1], .unify ⟨1⟩ ⟨2⟩, .unify ⟨6⟩ ⟨3⟩, .record (made 6)]
    let r := (start s).run calls
    let order := [made 1, made 6, made 1, made 0, made 2, made 6]
    r.reported = [made 6, made 2, made 1, made 0] ∧
      r.store.value ⟨6⟩ = some ⟨"a"⟩ ∧ (r.store.unify ⟨0⟩ ⟨5⟩).1 = .failed ∧
      r.trail.undo r.store = (.empty, s) ∧ order.foldl revert r.store = s := by
  intro s made calls r order
  have hreported : r.reported = [made 6, made 2, made 1, made 0] := by decide
  have hrecorded : (calls.flatMap Call.recorded).Perm r.reported := by
    rw [hreported]
    decide
  have horder : ∀ b ∈ order, b ∈ calls.flatMap Call.recorded := by decide
  have hcovered : ∀ b ∈ calls.flatMap Call.recorded, b ∈ order := by decide
  have hacyclic : s.Acyclic := by decide
  obtain ⟨hundo, -, -, horders⟩ := undo_restores hacyclic (by decide) hrecorded
  exact ⟨hreported, by decide, by decide, hundo, horders order fun b => ⟨horder b, hcovered b⟩⟩

end Recording

end GoalSearch
