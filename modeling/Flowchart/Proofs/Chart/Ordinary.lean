import Flowchart.Proofs.Chart.Contents
import Flowchart.Proofs.Chart.Sheets
import Flowchart.Proofs.Chart.Remainder

/-!
# Statements that are heard

Which statements are passed over shows in the ids that they begin with.  A word that has no say is
looked for up to the end of the word, so an id that goes on with a dash behind it is passed over as
well, while the word `end` has to be the whole id.
-/

namespace Flowchart.Chart

def firstWord (id : Text) : Text := (Text.split '-' id).headD []

theorem firstWord_cons {c : Char} (h : c ≠ '-') (id : Text) :
    firstWord (c :: id) = c :: firstWord id := by
  have hdash : (c == '-') = false := beq_eq_false_iff_ne.2 h
  rw [firstWord, firstWord, Text.split, Text.splitWhere_cons_of_not (p := (· == '-')) hdash,
    Text.split]
  cases Text.splitWhere (· == '-') id <;> rfl

theorem firstWord_nodeId (s : Text) : firstWord (nodeId s).1 = s.takeWhile Text.isWord := by
  fun_induction nodeId s with
  | case1 => rfl
  | case2 d s hd r ih => rfl
  | case3 d s hd => rfl
  | case4 c s hdash hc r ih =>
      rw [firstWord_cons (Text.ne_of_class hc (by decide)), ih, List.takeWhile_cons_of_pos hc]
  | case5 c s hdash hc => rw [List.takeWhile_cons_of_neg hc]; rfl

theorem nodeId_append_rest (s : Text) : (nodeId s).1 ++ (nodeId s).2 = s := by
  fun_induction nodeId s with
  | case1 => rfl
  | case2 d s hd r ih => exact congrArg ('-' :: ·) ih
  | case3 d s hd => rfl
  | case4 c s hdash hc r ih => exact congrArg (c :: ·) ih
  | case5 c s hdash hc => rfl

theorem endsWord_nodeId (s : Text) : endsWord (nodeId s).2 = true := by
  fun_induction nodeId s with
  | case1 => rfl
  | case2 d s hd r ih => exact ih
  | case3 d s hd => rfl
  | case4 c s hdash hc r ih => exact ih
  | case5 c s hdash hc => simpa [endsWord] using hc

theorem endsWord_dropWhile (s : Text) : endsWord (s.dropWhile Text.isWord) = true := by
  have hhead := List.head?_dropWhile_not Text.isWord s
  rw [endsWord]
  cases h : (s.dropWhile Text.isWord).head? with
  | none => rfl
  | some c => simp_all

theorem any_endsWord_iff {word s : Text} (hword : ∀ c ∈ word, Text.isWord c = true) :
    (Text.after? word s).any endsWord = true ↔ s.takeWhile Text.isWord = word := by
  constructor
  · intro h
    obtain ⟨rest, hrest, hends⟩ := (Option.any_eq_true _ _).1 h
    obtain rfl := Text.eq_append_of_after? hrest
    refine (Text.run_append hword ?_).1
    intro c hc
    simpa [endsWord, hc] using hends
  · intro h
    -- The word is all that goes on, so what follows it ends it.
    have hs := List.takeWhile_append_dropWhile (p := Text.isWord) (l := s)
    rw [h] at hs
    rw [← hs, Text.after?_append, Option.any_some, endsWord_dropWhile]

theorem isSkipped_iff {s : Text} : isSkipped s = true ↔ firstWord (nodeId s).1 ∈ skippedWords := by
  have hwords : ∀ word ∈ skippedWords, ∀ c ∈ word, Text.isWord c = true := by decide
  rw [firstWord_nodeId, isSkipped, List.any_eq_true]
  constructor
  · rintro ⟨word, hword, h⟩
    rwa [(any_endsWord_iff (hwords word hword)).1 h]
  · intro h
    exact ⟨_, h, (any_endsWord_iff (hwords _ h)).2 rfl⟩

theorem isSome_afterEnd?_iff {s : Text} :
    (afterEnd? s).isSome ↔ (nodeId s).1 = "end".toList ∧ (nodeId s).2.head? ≠ some '-' := by
  have hdashed : IsDashed "end".toList := by decide
  constructor
  · intro h
    obtain ⟨rest, hrest⟩ := Option.isSome_iff_exists.1 h
    obtain ⟨hafter, hends⟩ := Option.filter_eq_some_iff.1 hrest
    obtain rfl := Text.eq_append_of_after? hafter
    have hstops : Stops rest := by
      intro c hc
      simpa [endsWord, hc] using hends
    rw [hdashed.nodeId_append hstops]
    exact ⟨rfl, fun hdash => (hstops _ hdash).2 rfl⟩
  · rintro ⟨hid, hdash⟩
    have hs := nodeId_append_rest s
    have hends := endsWord_nodeId s
    rw [← hs, hid, afterEnd?, Text.after?_append, Option.filter_some, hends]
    simp [hdash]

theorem first_of_mention? {s rest : Text} {mention : Mention}
    (h : mention? s = .ok (some (mention, rest))) :
    mention.id = (nodeId (skipBlanks s)).1 := by
  unfold mention? at h
  split at h
  · cases h
  · rename_i c tail hblanks
    split at h
    · split at h
      · cases h
      · rename_i shapedMention behind hshaped
        obtain ⟨rfl, -⟩ := Prod.mk.inj (Option.some.inj (Except.ok.inj h))
        rw [hblanks, id_of_shaped hshaped]
    · cases h

theorem mention?_ne_none {s rest : Text} {c : Char} (hblanks : skipBlanks s = c :: rest)
    (hc : Text.isWord c = true) : mention? s ≠ .ok none := by
  unfold mention?
  rw [hblanks]
  simp only [if_pos hc]
  split <;> simp

theorem first_of_group? {s rest : Text} {mentions : List Mention}
    (h : group? s = .ok (some (mentions, rest))) :
    mentions.head?.map Mention.id = some (nodeId (skipBlanks s)).1 := by
  unfold group? at h
  split at h
  · cases h
  · cases h
  · rename_i mention after hmention
    split at h
    · cases h
    · obtain ⟨rfl, -⟩ := Prod.mk.inj (Option.some.inj (Except.ok.inj h))
      rw [List.head?_cons, Option.map_some, first_of_mention? hmention]

theorem group?_ne_none {s rest : Text} {c : Char} (hblanks : skipBlanks s = c :: rest)
    (hc : Text.isWord c = true) : group? s ≠ .ok none := by
  have hmention := mention?_ne_none hblanks hc
  unfold group?
  split
  · simp
  · contradiction
  · split <;> simp

namespace Statement

theorem first_of_read? {s after : Text} {statement : Statement}
    (h : read? s = .ok (some (statement, after))) :
    statement.sources.head?.map Mention.id = some (nodeId (skipBlanks s)).1 := by
  unfold read? at h
  split at h
  · cases h
  · cases h
  · rename_i sources rest hgroup
    split at h
    · cases h
    · split at h
      · cases h
      · obtain ⟨rfl, -⟩ := Prod.mk.inj (Option.some.inj (Except.ok.inj h))
        exact first_of_group? hgroup

theorem read?_ne_none {s rest : Text} {c : Char} (hblanks : skipBlanks s = c :: rest)
    (hc : Text.isWord c = true) : read? s ≠ .ok none := by
  have hgroup := group?_ne_none hblanks hc
  unfold read?
  split
  · simp
  · contradiction
  · split
    · simp
    · split <;> simp

end Statement

/-- A line that begins with a word says nothing if it is passed over, and else is broken or begins
with a statement about the id that stands there. -/
theorem Line.read_word {line rest : Text} {c : Char} (hblanks : skipBlanks line = c :: rest)
    (hc : Text.isWord c = true) :
    (isSkipped (c :: rest) = true → Line.read line = {}) ∧
    (isSkipped (c :: rest) = false → afterEnd? (c :: rest) = none →
      (∃ fault, (Line.read line).ending = .broken fault) ∨
      ∃ statement after, Statement.read? (c :: rest) = .ok (some (statement, after)) ∧
        statement ∈ (Line.read line).statements) := by
  have hseparator : isSeparator c = false :=
    not_separator (Text.ne_of_class hc (by decide)) (Text.ne_of_class hc (by decide))
  have hword : skipBlanks (c :: rest) = c :: rest :=
    skipBlanks_cons (not_gap_of_isWord hc) (Text.ne_of_class hc (by decide)) _
  unfold Line.read
  refine ⟨Line.readFrom_of_skipped hblanks hseparator, fun hskipped hend => ?_⟩
  rw [Line.readFrom_of_begun hblanks hseparator hskipped hend]
  cases hread : Statement.read? (c :: rest) with
  | error fault => exact .inl ⟨fault, rfl⟩
  | ok found =>
      cases found with
      | none => exact absurd hread (Statement.read?_ne_none hword hc)
      | some found => exact .inr ⟨found.1, found.2, rfl, List.mem_cons_self⟩

theorem Sheet.exists_of_read {body : Text} {sheet : Sheet} (h : read body = .ok sheet) :
    ∃ statements, statementsOf (layout body).2.1 (layout body).2.2 = .ok statements ∧
      sheet = ofStatements (layout body).1 statements := by
  rw [read] at h
  cases hstatements : statementsOf (layout body).2.1 (layout body).2.2 with
  | error broken =>
      simp only [hstatements] at h
      cases h
  | ok statements =>
      simp only [hstatements] at h
      exact ⟨statements, rfl, (Except.ok.inj h).symm⟩

theorem links_of_mem {statements : List Statement} {statement : Statement}
    (h : statement ∈ statements) : statement.links <:+: statements.flatMap Statement.links := by
  obtain ⟨before, after, rfl⟩ := List.append_of_mem h
  exact ⟨before.flatMap Statement.links, after.flatMap Statement.links, by simp⟩

/-- A line that begins with an id is passed over exactly if the first word of the id has no say, and
ends a subgraph exactly if the id is `end` and no dash follows.  Otherwise its nodes and links are
on the sheet. -/
theorem heard_unless_passed_over {body line rest : Text} {sheet : Sheet} {c : Char}
    (hsheet : Sheet.read body = .ok sheet) (hline : line ∈ (layout body).2.2)
    (hblanks : skipBlanks line = c :: rest) (hc : Text.isWord c = true) :
    (isSkipped (c :: rest) = true ↔ firstWord (nodeId (c :: rest)).1 ∈ skippedWords) ∧
    ((afterEnd? (c :: rest)).isSome ↔
      (nodeId (c :: rest)).1 = "end".toList ∧ (nodeId (c :: rest)).2.head? ≠ some '-') ∧
    (isSkipped (c :: rest) = true → Line.read line = {}) ∧
    (isSkipped (c :: rest) = false → afterEnd? (c :: rest) = none →
      ∃ statement after, Statement.read? (c :: rest) = .ok (some (statement, after)) ∧
        statement.sources.head?.map Mention.id = some (nodeId (c :: rest)).1 ∧
        (∀ mention ∈ statement.mentions, mention.id ∈ sheet.mentions.map Mention.id) ∧
        statement.links <:+: sheet.links) := by
  obtain ⟨statements, hstatements, rfl⟩ := Sheet.exists_of_read hsheet
  obtain ⟨hunbroken, hmem⟩ := mem_statementsOf hstatements
  obtain ⟨hpassed, hheard⟩ := Line.read_word hblanks hc
  refine ⟨isSkipped_iff, isSome_afterEnd?_iff, hpassed, fun hskipped hend => ?_⟩
  rcases hheard hskipped hend with ⟨fault, hfault⟩ | ⟨statement, after, hread, hstatement⟩
  · exact absurd hfault (hunbroken line hline fault)
  · have hsaid := (hmem statement).2 ⟨line, hline, hstatement⟩
    have hword : skipBlanks (c :: rest) = c :: rest :=
      skipBlanks_cons (not_gap_of_isWord hc) (Text.ne_of_class hc (by decide)) _
    refine ⟨statement, after, hread, ?_, fun mention hmention => ?_, links_of_mem hsaid⟩
    · rw [Statement.first_of_read? hread, hword]
    · exact Sheet.mem_ids_ofStatements.2 ⟨statement, hsaid, List.mem_map_of_mem hmention⟩

/-- An arrow between ids that go on behind a word of the notation, the first without a dash. -/
def classyChart : Document where
  heading := { keyword := "flowchart".toList, way := "TD".toList }
  rows := [{ chain := arrowChain "classy".toList "class-b".toList }]

theorem regular_classyChart : classyChart.Regular where
  headed := by decide
  rows := List.forall_mem_singleton.2
    (regular_arrowChain (by decide) (by decide) (by decide))

theorem heard_classy :
    Sheet.read classyChart.text = .ok classyChart.sheet ∧
    "    classy --> class-b".toList ∈ (layout classyChart.text).2.2 ∧
    ∃ statement after,
      Statement.read? "classy --> class-b".toList = .ok (some (statement, after)) ∧
      statement.sources.head?.map Mention.id = some "classy".toList ∧
      (∀ mention ∈ statement.mentions, mention.id ∈ classyChart.sheet.mentions.map Mention.id) ∧
      statement.links <:+: classyChart.sheet.links := by
  have hread := classyChart.read_text regular_classyChart
  have hline : "    classy --> class-b".toList ∈ (layout classyChart.text).2.2 := by decide
  refine ⟨hread, hline, ?_⟩
  have hblanks : skipBlanks "    classy --> class-b".toList =
      'c' :: "lassy --> class-b".toList := by decide
  exact (heard_unless_passed_over hread hline hblanks (by decide)).2.2.2 (by decide) (by decide)

/-- The same arrow the other way round is passed over. -/
example : isSkipped "class-b --> classy".toList = true := by decide

end Flowchart.Chart
