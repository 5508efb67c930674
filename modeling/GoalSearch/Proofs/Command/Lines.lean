import GoalSearch.Proofs.Command.Evaluation
import GoalSearch.Proofs.Reader.Parts
import GoalSearch.Proofs.Text.Encoding

/-!
# A program that is typed in

The console finds the lines of its input, drops the ends of these lines, and reads what it has so far
again with every line. A text that is readable as a whole is read in the same way line by line: the
console evaluates its forms in order, each of them once, and no list stays open at the end
(`feedAll_of_readAll`). How the lines end makes no difference to that (`run_source`).
-/

namespace GoalSearch.Command.Console

open GoalSearch.Expr

/-! ## Lines of a text -/

/-- The lines in which characters are typed, without the ends of these lines. -/
inductive Typed : List Char → List String → Prop where
  | nil : Typed [] []
  /-- The last line may have no line feed. -/
  | last {body : List Char} (hbody : body ≠ []) (hfeed : '\n' ∉ body) :
      Typed body [String.ofList body]
  | line {body rest : List Char} {typed : List String} (hfeed : '\n' ∉ body) (h : Typed rest typed) :
      Typed (body ++ '\n' :: rest) (String.ofList (dropLineEnd (body ++ ['\n'])) :: typed)

/-- Characters can be typed in lines. -/
theorem exists_typed (cs : List Char) : ∃ typed, Typed cs typed := by
  induction cs with
  | nil => exact ⟨_, .nil⟩
  | cons c rest ih =>
    obtain ⟨typed, htyped⟩ := ih
    by_cases hc : c = '\n'
    · rw [hc]
      exact ⟨_, .line List.not_mem_nil htyped⟩
    · have hcons : ∀ {body : List Char}, '\n' ∉ body → '\n' ∉ c :: body := fun hbody hmem =>
        (List.mem_cons.mp hmem).elim (fun h => hc h.symm) hbody
      cases htyped with
      | nil => exact ⟨_, .last (List.cons_ne_nil c []) (hcons List.not_mem_nil)⟩
      | last _ hfeed => exact ⟨_, .last (List.cons_ne_nil c _) (hcons hfeed)⟩
      | @line body rest typed hfeed h => exact ⟨_, .line (hcons hfeed) h⟩

/-- The text of lines, each with a line feed. -/
def source (typed : List String) : String := String.join (typed.map (· ++ "\n"))

theorem toList_source_cons (line : String) (typed : List String) :
    (source (line :: typed)).toList = line.toList ++ '\n' :: (source typed).toList := by
  simp [source]

/-! ## How lines end -/

/-- The end of a line is a line feed, with or without a carriage return. -/
theorem dropLineEnd_cases (body : List Char) :
    dropLineEnd (body ++ ['\n']) = body ∨
      ∃ front, body = front ++ ['\r'] ∧ dropLineEnd (body ++ ['\n']) = front := by
  rw [dropLineEnd, List.reverse_append, List.reverse_singleton, List.singleton_append]
  split
  · next rest h =>
    have hbody : body = rest.reverse ++ ['\r'] := by
      rw [← List.reverse_reverse body, (List.cons.inj h).2, List.reverse_cons]
    exact .inr ⟨rest.reverse, hbody, rfl⟩
  · next rest _ h =>
    rw [← (List.cons.inj h).2, List.reverse_reverse]
    exact .inl rfl
  · next h => exact absurd rfl (h body.reverse)

theorem dropLineEnd_of_not_mem {cs : List Char} (h : '\n' ∉ cs) : dropLineEnd cs = cs := by
  rw [← List.mem_reverse] at h
  rw [dropLineEnd]
  split
  · next hcs => simp [hcs] at h
  · next hcs => simp [hcs] at h
  · rfl

theorem mem_of_mem_dropLineEnd {cs : List Char} {c : Char} (h : c ∈ dropLineEnd cs) : c ∈ cs := by
  rw [dropLineEnd] at h
  rw [← List.mem_reverse]
  split at h
  · next rest hcs =>
    rw [hcs]
    exact List.mem_cons_of_mem _ (List.mem_cons_of_mem _ (List.mem_reverse.mp h))
  · next rest _ hcs =>
    rw [hcs]
    exact List.mem_cons_of_mem _ (List.mem_reverse.mp h)
  · exact List.mem_reverse.mpr h

theorem run_append_congr {s : Scan} {front back back' : List Char}
    (h : ∀ t, s.reach front = .ok t → (t.run back).toOption = (t.run back').toOption) :
    (s.run (front ++ back)).toOption = (s.run (front ++ back')).toOption := by
  cases hreach : s.reach front with
  | error e => rw [Scan.run_append_of_error hreach, Scan.run_append_of_error hreach]
  | ok t => rw [Scan.run_append_of_ok hreach, Scan.run_append_of_ok hreach, h t hreach]

/-- **What is read does not depend on how the lines end.** -/
theorem run_source {cs : List Char} {typed : List String} (h : Typed cs typed) (s : Scan) :
    (s.run (source typed).toList).toOption = (s.run cs).toOption := by
  induction h generalizing s with
  | nil => rfl
  | @last body _ _ =>
    have hsource : (source [String.ofList body]).toList = body ++ ['\n'] := by
      rw [toList_source_cons, String.toList_ofList]
      rfl
    rw [hsource, Scan.run_append_lineFeed]
  | @line body rest typed _ _ ih =>
    rw [toList_source_cons, String.toList_ofList]
    rcases dropLineEnd_cases body with hline | ⟨front, hbody, hline⟩ <;> rw [hline]
    · refine run_append_congr fun t _ => ?_
      rw [Scan.run_of_step_ok t.step_lineFeed, Scan.run_of_step_ok t.step_lineFeed, ih]
    · rw [hbody, List.append_assoc]
      refine run_append_congr fun t _ => ?_
      obtain ⟨t', hreach, herase⟩ := t.exists_reach_lineEnd
      have hend : t.run (['\r'] ++ '\n' :: rest) = t'.run rest :=
        Scan.run_append_of_ok hreach
      rw [hend, Scan.run_of_step_ok t.step_lineFeed, ih, Scan.run_congr herase]

/-! ## Taking in lines -/

def feedAll (c : Console) : List String → Transcript × Console
  | [] => ([], c)
  | line :: later =>
    ((c.feed line).1 ++ (feedAll (c.feed line).2 later).1, (feedAll (c.feed line).2 later).2)

/-- A console that is between two forms, or in a list that is still open. -/
def Waiting (c : Console) : Prop :=
  c.pending = "" ∨ ∃ offset, readAll c.pending = .error (.unclosed offset)

variable {c : Console} {typed : List String} {forms : List Expr}

/-- A text is read, or its errors are those of a parenthesis that is not matched. -/
theorem readAll_cases (text : String) :
    (∃ es, readAll text = .ok es) ∨ (∃ offset, readAll text = .error (.unclosed offset)) ∨
      ∃ offset, readAll text = .error (.unexpectedClose offset) := by
  rw [readAll, readChars]
  split
  · exact .inl ⟨_, rfl⟩
  · split
    · exact .inr (.inr ⟨_, rfl⟩)
    · exact .inr (.inl ⟨_, rfl⟩)

/-- What is typed behind forms that were read. -/
theorem exists_readAll_later {front later : String} {es forms : List Expr}
    (hfront : readAll (front ++ "\n") = .ok es)
    (h : readAll (front ++ "\n" ++ later) = .ok forms) :
    ∃ forms', readAll later = .ok forms' ∧ forms = es ++ forms' := by
  have hfront' : readChars front.toList = .ok es := by
    rw [readAll, String.toList_append] at hfront
    rw [← Scan.readChars_append_lineFeed]
    exact hfront
  have htoList : (front ++ "\n" ++ later).toList = front.toList ++ '\n' :: later.toList := by simp
  rw [readAll, htoList, Scan.readChars_append_of_ok hfront'] at h
  rw [readAll]
  cases hlater : readChars later.toList with
  | error e =>
    rw [hlater] at h
    cases h
  | ok forms' =>
    rw [hlater] at h
    exact ⟨forms', rfl, (Except.ok.inj h).symm⟩

theorem feed_of_unclosed {line : String} {offset : Nat}
    (h : readAll (c.pending ++ line ++ "\n") = .error (.unclosed offset)) :
    c.feed line = ([], { c with pending := c.pending ++ line ++ "\n" }) := by
  rw [feed]
  simp only [h]

theorem feed_of_ok {line : String} (h : readAll (c.pending ++ line ++ "\n") = .ok forms) :
    c.feed line = ((c.worker.evalEach forms).1, ⟨(c.worker.evalEach forms).2, ""⟩) := by
  rw [feed]
  simp only [h]

theorem append_source_cons (pending line : String) (later : List String) :
    pending ++ source (line :: later) = pending ++ line ++ "\n" ++ source later := by
  simp [source, String.append_assoc]

/-- **A text that is readable is evaluated line by line.** -/
theorem feedAll_of_readAll (hwaiting : c.Waiting)
    (h : readAll (c.pending ++ source typed) = .ok forms) :
    c.feedAll typed =
      ((c.worker.evalEach forms).1, ⟨(c.worker.evalEach forms).2, ""⟩) := by
  induction typed generalizing c forms with
  | nil =>
    have hpending : readAll c.pending = .ok forms := by
      rw [← h]
      simp [source]
    rcases hwaiting with hempty | ⟨offset, hunclosed⟩
    · obtain ⟨worker, pending⟩ := c
      obtain rfl : pending = "" := hempty
      have hnil : readAll "" = .ok [] := by
        rw [readAll, ← Scan.run_start]
        rfl
      rw [← Except.ok.inj (hnil.symm.trans hpending)]
      rfl
    · rw [hunclosed] at hpending
      cases hpending
  | cons line later ih =>
    rw [append_source_cons] at h
    rw [feedAll]
    rcases readAll_cases (c.pending ++ line ++ "\n") with ⟨es, hes⟩ | ⟨p, hp⟩ | ⟨p, hp⟩
    · -- the forms so far are evaluated, and the rest is read on its own
      obtain ⟨forms', hforms', rfl⟩ := exists_readAll_later hes h
      have hlater := ih (c := ⟨(c.worker.evalEach es).2, ""⟩) (.inl rfl) (by simpa using hforms')
      rw [feed_of_ok hes, hlater, Worker.evalEach_append]
    · -- the line only makes the pending text longer
      have hlater := ih (c := { c with pending := c.pending ++ line ++ "\n" }) (.inr ⟨p, hp⟩) h
      rw [feed_of_unclosed hp, hlater, List.nil_append]
    · rw [readAll] at hp
      rw [readAll, String.toList_append, Scan.readChars_append_of_unexpectedClose hp] at h
      cases h

/-! ## Lines as bytes -/

theorem exists_foldlM_add {clusters : List (List Char)}
    (h : ∀ cluster ∈ clusters, cluster ≠ [Text.rubout]) (t : Text.Typing) :
    ∃ sizes, clusters.foldlM Text.Typing.add t =
      some ⟨clusters.flatten.reverse ++ t.characters, sizes⟩ := by
  induction clusters generalizing t with
  | nil => exact ⟨t.sizes, rfl⟩
  | cons cluster later ih =>
    obtain ⟨hcluster, hlater⟩ := List.forall_mem_cons.mp h
    obtain ⟨sizes, hsizes⟩ := ih hlater
      ⟨cluster.reverse ++ t.characters, Text.byteLength cluster % 256 :: t.sizes⟩
    refine ⟨sizes, ?_⟩
    rw [List.foldlM_cons, Text.Typing.add, if_neg hcluster, List.flatten_cons, List.reverse_append,
      List.append_assoc]
    exact hsizes

/-- A text without rubouts stays as it is. -/
theorem applyRubouts_of_not_mem {text : String} (h : Text.rubout ∉ text.toList) :
    Text.applyRubouts text = some text := by
  have hclusters : ∀ cluster ∈ Text.clusters text.toList, cluster ≠ [Text.rubout] := by
    rintro _ hmem rfl
    refine h ?_
    rw [← Text.flatten_clusters text.toList]
    exact List.mem_flatten_of_mem hmem List.mem_cons_self
  obtain ⟨sizes, hsizes⟩ := exists_foldlM_add hclusters .start
  rw [Text.applyRubouts, hsizes]
  show some (String.ofList (_ ++ []).reverse) = some text
  rw [List.append_nil, List.reverse_reverse, Text.flatten_clusters, String.ofList_toList]

theorem lines_of_not_mem {bytes : List UInt8} (hne : bytes ≠ []) (h : 10 ∉ bytes) :
    lines bytes = [bytes] := by
  induction bytes with
  | nil => exact absurd rfl hne
  | cons b rest ih =>
    have hb : b ≠ 10 := fun heq => h (heq ▸ List.mem_cons_self)
    rw [lines, if_neg hb]
    cases rest with
    | nil => rfl
    | cons b' rest' =>
      rw [ih (List.cons_ne_nil b' rest') fun hmem => h (List.mem_cons_of_mem b hmem)]

theorem lines_append {bytes later : List UInt8} (h : 10 ∉ bytes) :
    lines (bytes ++ 10 :: later) = (bytes ++ [10]) :: lines later := by
  induction bytes with
  | nil => rw [List.nil_append, lines, if_pos rfl, List.nil_append]
  | cons b rest ih =>
    have hb : b ≠ 10 := fun heq => h (heq ▸ List.mem_cons_self)
    rw [List.cons_append, lines, if_neg hb, ih fun hmem => h (List.mem_cons_of_mem b hmem)]
    rfl

theorem lineOfBytes_encode {cs : List Char} (h : Text.rubout ∉ cs) :
    lineOfBytes (Text.encode cs) = .ok (String.ofList (dropLineEnd cs)) := by
  have hline : Text.rubout ∉ (String.ofList (dropLineEnd cs)).toList := by
    rw [String.toList_ofList]
    exact fun hmem => h (mem_of_mem_dropLineEnd hmem)
  rw [lineOfBytes, Text.textOfBytes_encode]
  simp only [String.toList_ofList, applyRubouts_of_not_mem hline]

theorem textOn_await (c : Console) : c.await.textOn .output = "" :=
  Worker.textOn_logLines c.worker.filter _

theorem run_encode_cons {cs : List Char} (h : Text.rubout ∉ cs) (c : Console)
    (later : List (List UInt8)) :
    let fed := c.feed (String.ofList (dropLineEnd cs))
    c.run (Text.encode cs :: later) =
      (fed.1 ++ fed.2.await ++ (fed.2.run later).1, (fed.2.run later).2) := by
  intro fed
  have hfeed : c.feedBytes (Text.encode cs) = .ok (fed.1 ++ fed.2.await, fed.2) := by
    rw [feedBytes, lineOfBytes_encode h]
    rfl
  rw [run, hfeed]

/-- **A console takes in the lines in which its input is typed.** -/
theorem run_lines_encode {cs : List Char} (h : Typed cs typed) (hrubout : Text.rubout ∉ cs)
    (c : Console) :
    (c.run (lines (Text.encode cs))).1.textOn .output = (c.feedAll typed).1.textOn .output ∧
      (c.run (lines (Text.encode cs))).2 = .ok (c.feedAll typed).2 := by
  induction h generalizing c with
  | nil => exact ⟨rfl, rfl⟩
  | @last body hbody hfeed =>
    have hlines : lines (Text.encode body) = [Text.encode body] :=
      lines_of_not_mem (Text.encode_ne_nil hbody) (Text.lineFeed_not_mem_encode hfeed)
    rw [hlines, run_encode_cons hrubout, dropLineEnd_of_not_mem hfeed]
    refine ⟨?_, rfl⟩
    simp [run, feedAll, textOn_await]
  | @line body rest typed hfeed _ ih =>
    have hlines : lines (Text.encode (body ++ '\n' :: rest)) =
        Text.encode (body ++ ['\n']) :: lines (Text.encode rest) := by
      rw [Text.encode_append, Text.encode_cons, Text.encode_lineFeed, List.singleton_append,
        lines_append (Text.lineFeed_not_mem_encode hfeed), Text.encode_append, Text.encode_cons,
        Text.encode_lineFeed]
      rfl
    obtain ⟨hbody, hlater⟩ := not_or.mp (mt List.mem_append.mpr hrubout)
    have hline : Text.rubout ∉ body ++ ['\n'] := fun hmem =>
      (List.mem_append.mp hmem).elim hbody (by decide)
    obtain ⟨houtput, hending⟩ := ih (fun hmem => hlater (List.mem_cons_of_mem _ hmem))
      (c.feed (String.ofList (dropLineEnd (body ++ ['\n'])))).2
    rw [hlines, run_encode_cons hline, feedAll]
    refine ⟨?_, hending⟩
    rw [Transcript.textOn_append, Transcript.textOn_append, Transcript.textOn_append, textOn_await,
      String.append_empty, houtput]

/-- **The console evaluates the forms of its input.** It writes the output of all evaluations, and
nothing is left open at the end. -/
theorem run_of_readAll (w : Worker) {text : String} (h : readAll text = .ok forms)
    (hrubout : Text.rubout ∉ text.toList) :
    ((start w).run (lines (Text.encode text.toList))).1.textOn .output =
        output (w.evaluations forms) ∧
      ((start w).run (lines (Text.encode text.toList))).2 = .ok ⟨w.after forms, ""⟩ := by
  obtain ⟨typed, htyped⟩ := exists_typed text.toList
  have hsource : readAll (source typed) = .ok forms := by
    have hrun := run_source htyped Scan.start
    rw [readAll] at h ⊢
    rw [Scan.run_start, Scan.run_start, h] at hrun
    cases hread : readChars (source typed).toList with
    | error e =>
      rw [hread] at hrun
      cases hrun
    | ok es =>
      rw [hread] at hrun
      rw [Option.some.inj hrun]
  have hfeed := feedAll_of_readAll (c := start w) (.inl rfl) (by simpa [start] using hsource)
  obtain ⟨houtput, hending⟩ := run_lines_encode htyped hrubout (start w)
  rw [hfeed] at houtput hending
  rw [← Worker.worker_evalEach]
  exact ⟨houtput.trans (Worker.output_evalEach w forms), hending⟩

end GoalSearch.Command.Console
