import GoalSearch.Proofs.Reader.Parts

/-!
# Written forms

An expression is readable if its atoms are not empty and hold only characters of atoms. The written
forms of readable expressions, with gaps between them, are read back as these expressions
(`readAll_spaced`), and whatever is read is readable (`readable_of_readAll`). A gap is made of blanks
and comments, and may be empty before the first expression and behind the last.

The scan is `Settled` at an expression's end: the expression counts as read, though more letters of an
atom could still come. A gap that is not empty makes sure of the end.
-/

namespace GoalSearch

namespace Expr

/-- An expression that can be read from its written form. -/
inductive Readable : Expr → Prop where
  | atom {text : String} (hne : text ≠ "") (hletters : ∀ c ∈ text.toList, isAtomChar c = true) :
      Readable (.atom text)
  | list {items : List Expr} (h : ∀ e ∈ items, Readable e) : Readable (.list items)

/-- Blanks, and comments with the line feeds that end them. -/
inductive Gap : List Char → Prop where
  | nil : Gap []
  | blank {c : Char} {rest : List Char} (hc : isBlank c = true) (h : Gap rest) : Gap (c :: rest)
  | comment {body rest : List Char} (hbody : '\n' ∉ body) (h : Gap rest) :
      Gap (';' :: (body ++ '\n' :: rest))

/-- A gap begins with no letter. -/
theorem Gap.isAtomChar_head {c : Char} {rest : List Char} (h : Gap (c :: rest)) :
    isAtomChar c = false := by
  cases h with
  | blank hc _ => exact Scan.isAtomChar_of_isBlank hc
  | comment _ _ => rfl

/-- The written forms of expressions, each behind characters of its own. -/
def spaced (entries : List (List Char × Expr)) : List Char :=
  entries.flatMap fun entry => entry.1 ++ entry.2.chars

/-- The items of a list with the spaces before them. -/
def itemEntries : List Expr → List (List Char × Expr)
  | [] => []
  | item :: later => ([], item) :: later.map fun e => ([' '], e)

theorem spaced_cons (gap : List Char) (e : Expr) (later : List (List Char × Expr)) :
    spaced ((gap, e) :: later) = gap ++ (e.chars ++ spaced later) := by
  rw [spaced, List.flatMap_cons, List.append_assoc]
  rfl

theorem laterItemChars_eq_spaced (items : List Expr) :
    laterItemChars items = spaced (items.map fun e => ([' '], e)) := by
  induction items with
  | nil => rw [laterItemChars]; rfl
  | cons item later ih =>
    rw [laterItemChars, ih, List.map_cons, spaced_cons]
    rfl

theorem itemChars_eq_spaced (items : List Expr) : itemChars items = spaced (itemEntries items) := by
  cases items with
  | nil => rw [itemChars]; rfl
  | cons item later =>
    rw [itemChars, laterItemChars_eq_spaced, itemEntries, spaced_cons]
    rfl

theorem map_snd_itemEntries (items : List Expr) : (itemEntries items).map Prod.snd = items := by
  cases items with
  | nil => rfl
  | cons item later => simp [itemEntries, Function.comp_def]

end Expr

namespace Scan

open GoalSearch.Expr

variable {s t u : Scan} {c : Char} {cs letters gap : List Char} {p : Nat} {opened : List OpenList}
  {items : List Expr} {e : Expr}

/-! ## Reading what is written -/

/-- The state behind an expression, in which the items so far are all in place but for an atom that
may go on. -/
structure Settled (s : Scan) (opened : List OpenList) (items : List Expr) : Prop where
  outside : s.mode ≠ .comment
  opened_eq : s.opened = opened
  items_eq : s.endAtom.items = items

theorem settled_between (p : Nat) (opened : List OpenList) (items : List Expr) :
    Settled ⟨p, .between, opened, items⟩ opened items :=
  ⟨nofun, rfl, rfl⟩

/-- A character that is no letter finds all items in place. -/
theorem Settled.reach_cons (h : Settled s opened items) (hc : isAtomChar c = false) :
    s.reach (c :: cs) = reach ⟨s.offset, .between, opened, items⟩ (c :: cs) := by
  have hstep : s.step c = step ⟨s.offset, .between, opened, items⟩ c := by
    obtain ⟨p, mode, _, before⟩ := s
    obtain ⟨houtside, rfl, rfl⟩ := h
    cases mode with
    | between => rfl
    | comment => exact absurd rfl houtside
    | atom letters => simp only [step, hc, endAtom]
  rw [reach, reach, List.foldlM_cons, List.foldlM_cons, hstep]

theorem Settled.finish (h : Settled s [] items) : s.finish = .ok items.reverse := by
  rw [Scan.finish, h.opened_eq, h.items_eq]

theorem exists_reach_letters (p : Nat) (opened : List OpenList) (items : List Expr)
    (hletters : ∀ c ∈ cs, isAtomChar c = true) (before : List Char) :
    ∃ q, reach ⟨p, .atom before, opened, items⟩ cs =
      .ok ⟨q, .atom (cs.reverse ++ before), opened, items⟩ := by
  induction cs generalizing p before with
  | nil => exact ⟨p, rfl⟩
  | cons c rest ih =>
    obtain ⟨hc, hrest⟩ := List.forall_mem_cons.mp hletters
    have hstep : step ⟨p, .atom before, opened, items⟩ c =
        .ok ⟨p + c.utf8Size, .atom (c :: before), opened, items⟩ := by
      simp only [step, hc]
    obtain ⟨q, hq⟩ := ih (p + c.utf8Size) hrest (c :: before)
    refine ⟨q, ?_⟩
    rw [reach_cons_of_ok hstep, hq, List.reverse_cons, List.append_assoc, List.singleton_append]

theorem exists_reach_comment (p : Nat) (opened : List OpenList) (items : List Expr)
    (hbody : '\n' ∉ cs) :
    ∃ q, reach ⟨p, .comment, opened, items⟩ cs = .ok ⟨q, .comment, opened, items⟩ := by
  induction cs generalizing p with
  | nil => exact ⟨p, rfl⟩
  | cons c rest ih =>
    obtain ⟨hc, hrest⟩ := List.ne_and_not_mem_of_not_mem_cons hbody
    have hstep : step ⟨p, .comment, opened, items⟩ c =
        .ok ⟨p + c.utf8Size, .comment, opened, items⟩ := by
      simp only [step, if_neg hc.symm]
    rw [reach_cons_of_ok hstep]
    exact ih (p + c.utf8Size) hrest

theorem exists_reach_gap (p : Nat) (opened : List OpenList) (items : List Expr) (hgap : Gap gap) :
    ∃ q, reach ⟨p, .between, opened, items⟩ gap = .ok ⟨q, .between, opened, items⟩ := by
  induction hgap generalizing p with
  | nil => exact ⟨p, rfl⟩
  | @blank c rest hc _ ih =>
    have hstep : step ⟨p, .between, opened, items⟩ c =
        .ok ⟨p + c.utf8Size, .between, opened, items⟩ := by
      rw [step_between (isAtomChar_of_isBlank hc), delimiter, if_pos hc]
    rw [reach_cons_of_ok hstep]
    exact ih (p + c.utf8Size)
  | @comment body rest hbody _ ih =>
    obtain ⟨q, hq⟩ := exists_reach_comment (p + ';'.utf8Size) opened items hbody
    have hopens : step ⟨p, .between, opened, items⟩ ';' =
        .ok ⟨p + ';'.utf8Size, .comment, opened, items⟩ := rfl
    rw [reach_cons_of_ok hopens, reach_append_of_ok hq, reach_cons_of_ok (step_lineFeed _)]
    exact ih _

/-- A gap that is not empty finds all items in place. -/
theorem Settled.reach_append (h : Settled s opened items) (hgap : Gap gap) (hne : gap ≠ []) :
    s.reach (gap ++ cs) = reach ⟨s.offset, .between, opened, items⟩ (gap ++ cs) := by
  cases gap with
  | nil => exact absurd rfl hne
  | cons c rest => exact h.reach_cons hgap.isAtomChar_head

theorem Settled.exists_reach_gap (h : Settled s opened items) (hgap : Gap gap) :
    ∃ t, s.reach gap = .ok t ∧ Settled t opened items := by
  by_cases hne : gap = []
  · rw [hne]
    exact ⟨s, rfl, h⟩
  · have heq : s.reach (gap ++ []) = reach ⟨s.offset, .between, opened, items⟩ (gap ++ []) :=
      h.reach_append hgap hne
    rw [List.append_nil] at heq
    obtain ⟨q, hq⟩ := Scan.exists_reach_gap s.offset opened items hgap
    exact ⟨_, heq.trans hq, settled_between q opened items⟩

/-- Between expressions, the scan reads the written form of an expression as the expression. -/
def ReadsBack (e : Expr) : Prop :=
  ∀ p opened items, ∃ t, reach ⟨p, .between, opened, items⟩ e.chars = .ok t ∧
    Settled t opened (e :: items)

/-- Expressions with gaps between them are read one after the other. -/
theorem exists_reach_spaced (p : Nat) (opened : List OpenList) (items : List Expr)
    {entries : List (List Char × Expr)}
    (hentries : ∀ entry ∈ entries, Gap entry.1 ∧ ReadsBack entry.2)
    (hne : ∀ entry ∈ entries.tail, entry.1 ≠ []) :
    ∃ t, reach ⟨p, .between, opened, items⟩ (spaced entries) = .ok t ∧
      Settled t opened ((entries.map Prod.snd).reverse ++ items) := by
  induction entries generalizing p items with
  | nil => exact ⟨_, rfl, settled_between p opened items⟩
  | cons entry later ih =>
    obtain ⟨gap, e⟩ := entry
    obtain ⟨⟨hgap, hreads⟩, hlater⟩ := List.forall_mem_cons.mp hentries
    obtain ⟨q, hq⟩ := exists_reach_gap p opened items hgap
    obtain ⟨t, ht, hsettled⟩ := hreads q opened items
    rw [spaced_cons, reach_append_of_ok hq, reach_append_of_ok ht, List.map_cons, List.reverse_cons,
      List.append_assoc, List.singleton_append]
    -- an atom may end at the text's end, and else the next gap, which is not empty, ends it
    cases later with
    | nil => exact ⟨t, rfl, hsettled⟩
    | cons next rest =>
      obtain ⟨hnext, hrest⟩ := List.forall_mem_cons.mp hne
      obtain ⟨u, hu, hu'⟩ := ih t.offset (e :: items) hlater hrest
      refine ⟨u, ?_, hu'⟩
      rw [spaced_cons] at hu ⊢
      rw [hsettled.reach_append (hlater next List.mem_cons_self).1 hnext, hu]

theorem readsBack_atom {text : String} (hne : text ≠ "")
    (hletters : ∀ c ∈ text.toList, isAtomChar c = true) : ReadsBack (.atom text) := by
  intro p opened items
  rw [chars_atom]
  cases hcs : text.toList with
  | nil => exact absurd (String.toList_eq_nil_iff.mp hcs) hne
  | cons c rest =>
    rw [hcs] at hletters
    obtain ⟨hc, hrest⟩ := List.forall_mem_cons.mp hletters
    have hstep : step ⟨p, .between, opened, items⟩ c =
        .ok ⟨p + c.utf8Size, .atom [c], opened, items⟩ := by
      simp only [step, hc]
    obtain ⟨q, hq⟩ := exists_reach_letters (p + c.utf8Size) opened items hrest [c]
    refine ⟨_, (reach_cons_of_ok hstep).trans hq, by simp, rfl, ?_⟩
    simp [endAtom, ← hcs]

theorem gap_of_mem_itemEntries {entry : List Char × Expr} (h : entry ∈ itemEntries items) :
    Gap entry.1 ∧ entry.2 ∈ items := by
  cases items with
  | nil => cases h
  | cons item later =>
    rcases List.mem_cons.mp h with rfl | h
    · exact ⟨.nil, List.mem_cons_self⟩
    · obtain ⟨e, he, rfl⟩ := List.mem_map.mp h
      exact ⟨.blank rfl .nil, List.mem_cons_of_mem item he⟩

theorem ne_nil_of_mem_tail_itemEntries {entry : List Char × Expr}
    (h : entry ∈ (itemEntries items).tail) : entry.1 ≠ [] := by
  cases items with
  | nil => cases h
  | cons item later =>
    obtain ⟨e, -, rfl⟩ := List.mem_map.mp h
    exact List.cons_ne_nil ' ' []

theorem readsBack_list (h : ∀ e ∈ items, ReadsBack e) : ReadsBack (.list items) := by
  intro p opened before
  have hopens : step ⟨p, .between, opened, before⟩ '(' =
      .ok ⟨p + '('.utf8Size, .between, ⟨p, before⟩ :: opened, []⟩ := rfl
  obtain ⟨t, ht, hsettled⟩ := exists_reach_spaced (p + '('.utf8Size) (⟨p, before⟩ :: opened) []
    (fun entry hentry => ⟨(gap_of_mem_itemEntries hentry).1, h _ (gap_of_mem_itemEntries hentry).2⟩)
    (fun entry => ne_nil_of_mem_tail_itemEntries)
  rw [map_snd_itemEntries, List.append_nil] at hsettled
  have hcloses : step ⟨t.offset, .between, ⟨p, before⟩ :: opened, items.reverse⟩ ')' =
      .ok ⟨t.offset + ')'.utf8Size, .between, opened, .list items.reverse.reverse :: before⟩ := rfl
  rw [List.reverse_reverse] at hcloses
  rw [chars_list, itemChars_eq_spaced, reach_cons_of_ok hopens, reach_append_of_ok ht,
    hsettled.reach_cons rfl, reach_cons_of_ok hcloses]
  exact ⟨_, rfl, settled_between _ opened (.list items :: before)⟩

theorem readsBack_of_readable (h : Readable e) : ReadsBack e := by
  induction h with
  | atom hne hletters => exact readsBack_atom hne hletters
  | list _ ih => exact readsBack_list ih

/-! ## What is read is readable -/

/-- A state with readable items, and with letters of an atom if it stands in one. -/
structure Tidy (s : Scan) : Prop where
  items : ∀ e ∈ s.items, Readable e
  before : ∀ l ∈ s.opened, ∀ e ∈ l.before, Readable e
  letters : ∀ letters, s.mode = .atom letters →
    letters ≠ [] ∧ ∀ c ∈ letters, isAtomChar c = true

theorem tidy_start : Tidy start where
  items := nofun
  before := nofun
  letters := nofun

/-- The items are readable when an atom ends, too. -/
theorem Tidy.endAtom (h : Tidy s) : ∀ e ∈ s.endAtom.items, Readable e := by
  obtain ⟨p, mode, opened, items⟩ := s
  cases mode with
  | between => exact h.items
  | comment => exact h.items
  | atom letters =>
    obtain ⟨hne, hletters⟩ := h.letters letters rfl
    refine List.forall_mem_cons.mpr ⟨.atom ?_ ?_, h.items⟩
    · simpa using hne
    · simpa using hletters

theorem Tidy.step (h : Tidy s) (hstep : s.step c = .ok t) : Tidy t := by
  have hcase := s.step_case c
  rw [hstep] at hcase
  cases hcase with
  | inComment hmode =>
    refine ⟨h.items, h.before, fun letters hletters => ?_⟩
    split at hletters <;> cases hletters
  | firstLetter _ hc =>
    refine ⟨h.items, h.before, fun letters hletters => ?_⟩
    obtain rfl := ScanMode.atom.inj hletters
    exact ⟨List.cons_ne_nil c [], by simpa using hc⟩
  | @laterLetter earlier hmode hc =>
    refine ⟨h.items, h.before, fun letters hletters => ?_⟩
    obtain rfl := ScanMode.atom.inj hletters
    exact ⟨List.cons_ne_nil c earlier, List.forall_mem_cons.mpr ⟨hc, (h.letters earlier hmode).2⟩⟩
  | blank _ _ => exact ⟨h.endAtom, h.before, nofun⟩
  | semicolon _ _ => exact ⟨h.endAtom, h.before, nofun⟩
  | opens _ _ => exact ⟨nofun, List.forall_mem_cons.mpr ⟨h.endAtom, h.before⟩, nofun⟩
  | closes _ _ hopened =>
    have hbefore := h.before
    rw [hopened] at hbefore
    obtain ⟨hl, henclosing⟩ := List.forall_mem_cons.mp hbefore
    refine ⟨List.forall_mem_cons.mpr ⟨.list ?_, hl⟩, henclosing, nofun⟩
    simpa using h.endAtom

end Scan

namespace Expr

/-! ## Texts -/

/-- The written form of readable expressions is read as these expressions. -/
theorem readAll_spaced {entries : List (List Char × Expr)} {after : List Char}
    (hentries : ∀ entry ∈ entries, Gap entry.1 ∧ Readable entry.2)
    (hne : ∀ entry ∈ entries.tail, entry.1 ≠ []) (hafter : Gap after) :
    readAll (String.ofList (spaced entries ++ after)) = .ok (entries.map Prod.snd) := by
  obtain ⟨t, ht, hsettled⟩ := Scan.exists_reach_spaced 0 [] []
    (fun entry hentry => ⟨(hentries entry hentry).1,
      Scan.readsBack_of_readable (hentries entry hentry).2⟩) hne
  obtain ⟨u, hu, hsettled'⟩ := hsettled.exists_reach_gap hafter
  rw [readAll, String.toList_ofList, ← Scan.run_start, Scan.start, Scan.run_append_of_ok ht,
    Scan.run_of_reach_ok hu, hsettled'.finish, List.append_nil, List.reverse_reverse]

/-- Whatever is read is readable. -/
theorem readable_of_readAll {text : String} {es : List Expr} (h : readAll text = .ok es) :
    ∀ e ∈ es, Readable e := by
  obtain ⟨t, ht, -, rfl⟩ := Scan.exists_reach_of_readChars h
  have htidy := Scan.reach_invariant (motive := fun _ t => Scan.Tidy t) Scan.tidy_start
    (fun _ => Scan.Tidy.step) ht
  simpa using htidy.endAtom

/-- **Writing and reading undo each other.** The written forms of readable expressions, with gaps between
them, are read as these expressions; and whatever is read is readable, and is read again from its
written form. -/
theorem read_written :
    (∀ (entries : List (List Char × Expr)) (after : List Char),
      (∀ entry ∈ entries, Gap entry.1 ∧ Readable entry.2) →
      (∀ entry ∈ entries.tail, entry.1 ≠ []) → Gap after →
      readAll (String.ofList (spaced entries ++ after)) = .ok (entries.map Prod.snd)) ∧
    ∀ (text : String) (es : List Expr), readAll text = .ok es →
      ∀ e ∈ es, Readable e ∧ readAll e.text = .ok [e] := by
  refine ⟨fun entries after hentries hne hafter => readAll_spaced hentries hne hafter, ?_⟩
  intro text es h e he
  have hreadable := readable_of_readAll h e he
  have hback : readAll (String.ofList (spaced [([], e)] ++ [])) = .ok [e] :=
    readAll_spaced (fun entry hentry => by
      rw [List.mem_singleton.mp hentry]
      exact ⟨.nil, hreadable⟩) nofun .nil
  refine ⟨hreadable, ?_⟩
  simpa [spaced, Expr.text] using hback

/-- Gaps of blanks and comments stand before, between and behind a list with lists in it and an atom. -/
theorem read_written_nested :
    let e : Expr := .list [.atom "a", .list [.atom "b"], .list []]
    readAll "; two\n(a (b) ())\t;c\nx\n" = .ok [e, .atom "x"] ∧
      Readable e ∧ readAll e.text = .ok [e] := by
  intro e
  have hatom : ∀ text : String, text ≠ "" → text.toList.all isAtomChar = true →
      Readable (.atom text) := fun _ hne hletters => .atom hne (List.all_eq_true.mp hletters)
  have ha : Readable (.atom "a") := hatom "a" (by decide) (by decide)
  have hb : Readable (.atom "b") := hatom "b" (by decide) (by decide)
  have hx : Readable (.atom "x") := hatom "x" (by decide) (by decide)
  have he : Readable e := .list (by simpa using ⟨ha, .list (by simpa using hb), .list nofun⟩)
  have hcomment : ∀ body : String, '\n' ∉ body.toList → Gap (';' :: body.toList ++ ['\n']) :=
    fun body hbody => .comment hbody .nil
  have hfront : Gap "; two\n".toList := hcomment " two" (by decide)
  have hbetween : Gap "\t;c\n".toList := .blank (c := '\t') rfl (hcomment "c" (by decide))
  have hread := read_written.1 [("; two\n".toList, e), ("\t;c\n".toList, .atom "x")] "\n".toList
    (by simpa using ⟨⟨hfront, he⟩, hbetween, hx⟩) (by decide) (.blank (c := '\n') rfl .nil)
  have htext : String.ofList (spaced [("; two\n".toList, e), ("\t;c\n".toList, .atom "x")] ++
      "\n".toList) = "; two\n(a (b) ())\t;c\nx\n" := by
    simp [spaced, e, itemChars, laterItemChars]
  rw [htext] at hread
  exact ⟨hread, read_written.2 _ _ hread e List.mem_cons_self⟩

end Expr

end GoalSearch
