import Flowchart.Proofs.Chart.FrontMatter
import Flowchart.Proofs.Chart.Literal

/-!
# Contents that come back

What is read from a chart is what its rows say, whatever stands above and below them.  So a text
that holds nothing like an escape is the content of its node again.
-/

namespace Flowchart.Chart

theorem read_skipped (word rest : Text) (hword : word ∈ skippedWords) (hrest : Stops rest) :
    Line.read (indented (word ++ rest)) = {} := by
  obtain ⟨hdashed, hne⟩ :=
    (by decide : ∀ word ∈ skippedWords, IsDashed word ∧ word ≠ "end".toList) word hword
  rw [indented, hdashed.read_eq hne hrest, if_pos (isSkipped_append hword hrest)]

theorem stops_blank (rest : Text) : Stops (' ' :: rest) := stops_cons (by decide) (by decide) rest

theorem quiet_classLines {name look : Text} {ids : List Text} (hname : '\n' ∉ name)
    (hlook : '\n' ∉ look) (hids : ∀ id ∈ ids, '\n' ∉ id) :
    ∀ line ∈ classLines name look ids, '\n' ∉ line ∧ Line.read line = {} := by
  intro line hline
  have hjoin : '\n' ∉ Text.join [','] ids := by
    intro hmem
    rcases Text.mem_join hmem with h | ⟨id, hid, h⟩
    · exact absurd h (by decide)
    · exact hids id hid h
  simp only [classLines, List.mem_cons, List.not_mem_nil, or_false] at hline
  rcases hline with rfl | rfl
  · refine ⟨feed_not_mem_indented (by simp [hname, hlook]), ?_⟩
    exact read_skipped "classDef".toList _ (by decide) (stops_blank _)
  · refine ⟨feed_not_mem_indented (by simp [hname, hjoin]), ?_⟩
    exact read_skipped "class".toList _ (by decide) (stops_blank _)

theorem quiet_highlightLines (flow : Flow) (highlight : Highlight) :
    ∀ line ∈ highlightLines flow (chartIds flow) highlight,
      '\n' ∉ line ∧ Line.read line = {} := by
  have hid : ∀ id, flow.nodeIds.contains id = true → '\n' ∉ (chartIds flow).idOf id := by
    intro id hid
    exact feed_not_mem_idOf (nodeIds_subset flow (List.contains_iff_mem.1 hid))
  intro line hline
  unfold highlightLines at hline
  rcases List.mem_cons.1 (List.mem_ite_nil_left.1 hline).2 with rfl | hline
  · exact ⟨List.not_mem_nil, Line.readFrom_nil true⟩
  · rcases List.mem_append.1 hline with hline | hline
    · refine quiet_classLines (by decide) (by decide) ?_ line (List.mem_ite_nil_left.1 hline).2
      intro id hmem
      obtain ⟨name, hname, rfl⟩ := List.mem_map.1 hmem
      exact hid name (Bool.and_eq_true_iff.1 (List.mem_filter.1 hname).2).1
    · split at hline
      · cases hline
      · rename_i name hcurrent
        refine quiet_classLines (by decide) (by decide) ?_ line hline
        have hkept := Option.filter_eq_some_iff.1 (Option.filter_eq_some_iff.1 hcurrent).1
        exact List.forall_mem_singleton.2 (hid name hkept.2)

theorem mem_statementsOf {number : Nat} {lines : List Text} {statements : List Statement}
    (h : statementsOf number lines = .ok statements) :
    (∀ line ∈ lines, ∀ fault, (Line.read line).ending ≠ .broken fault) ∧
      ∀ statement, statement ∈ statements ↔
        ∃ line ∈ lines, statement ∈ (Line.read line).statements := by
  induction lines generalizing number statements with
  | nil =>
      obtain rfl : [] = statements := Except.ok.inj h
      simp
  | cons line lines ih =>
      unfold statementsOf at h
      split at h
      · cases h
      · rename_i hunbroken
        split at h
        · cases h
        · rename_i more hmore
          obtain ⟨hwhole, hmem⟩ := ih hmore
          rw [← Except.ok.inj h]
          refine ⟨List.forall_mem_cons.2 ⟨fun fault => hunbroken fault, hwhole⟩, ?_⟩
          intro statement
          simp only [List.mem_append, hmem, List.exists_mem_cons_iff]

/-- What is read from a chart: a statement for each row, unless the row is passed over. -/
theorem exists_statements {style : Style} {flow again : Flow} {text : Text}
    (hwrite : write style flow = .ok text) (hread : read text = .ok again) :
    ∃ direction statements title description,
      again = (Sheet.ofStatements direction statements).toFlow title description ∧
      (∀ statement ∈ statements, ∃ row ∈ rows flow,
        row.Says (Graph.ofFlow flow) (chartIds flow) style.limit statement) ∧
      ∀ row ∈ rows flow, row.subject ∉ skippedWords → ∃ statement ∈ statements,
        row.Says (Graph.ofFlow flow) (chartIds flow) style.limit statement := by
  obtain ⟨direction, lines, -, hlines, rfl⟩ := exists_lines_of_write hwrite
  -- Each line tells its own row, and the lines of a highlight tell nothing.
  have htold : ∀ row ∈ rows flow, ∀ line, rowLine (Graph.ofFlow flow) style.taken (chartIds flow)
      style.limit row = .ok line → '\n' ∉ line ∧
        Told (Graph.ofFlow flow) (chartIds flow) style.limit row (Line.read line) :=
    fun row hrow line hline => told_rowLine ((arranged_rows flow).ends_subset row hrow) hline
  have hbelow : ∀ line ∈ (style.highlight.map (highlightLines flow (chartIds flow))).getD [],
      '\n' ∉ line ∧ Line.read line = {} := by
    cases style.highlight with
    | none => exact List.forall_mem_nil _
    | some highlight => exact quiet_highlightLines flow highlight
  have hfeeds : ∀ line ∈ lines ++
      (style.highlight.map (highlightLines flow (chartIds flow))).getD [], '\n' ∉ line := by
    refine List.forall_mem_append.2 ⟨fun line hline => ?_, fun line hline => (hbelow line hline).1⟩
    obtain ⟨row, hrow, hwritten⟩ := exists_of_forall₂ hlines.flip hline
    exact (htold row hrow line hwritten).1
  obtain ⟨number, statements, title, description, hstatements, hagain⟩ :=
    exists_statements_of_read hfeeds hread
  obtain ⟨hunbroken, hmem⟩ := mem_statementsOf hstatements
  refine ⟨direction, statements, title, description, hagain, fun statement hstatement => ?_,
    fun row hrow hordinary => ?_⟩
  · obtain ⟨line, hline, hmeans⟩ := (hmem statement).1 hstatement
    rcases List.mem_append.1 hline with hline | hline
    · obtain ⟨row, hrow, hwritten⟩ := exists_of_forall₂ hlines.flip hline
      exact ⟨row, hrow, (htold row hrow line hwritten).2.means hmeans⟩
    · rw [(hbelow line hline).2] at hmeans
      cases hmeans
  · obtain ⟨line, hline, hwritten⟩ := exists_of_forall₂ hlines hrow
    have hline := List.mem_append_left
      ((style.highlight.map (highlightLines flow (chartIds flow))).getD []) hline
    obtain ⟨statement, hstatement, hmeans⟩ :=
      (htold row hrow line hwritten).2.exists_statement hordinary (hunbroken line hline)
    exact ⟨statement, (hmem statement).2 ⟨line, hline, hstatement⟩, hmeans⟩

/-- A trimmed text of one line that stands in a chart uncut. -/
structure Whole (limit : Int) (s : Text) : Prop where
  nonempty : s ≠ []
  trimmed : Text.trim s = s
  single : '\n' ∉ s
  fits : Fits limit (oneLine s)

section Whole

variable {limit : Int} {s : Text} (h : Whole limit s)

include h

theorem Whole.shownText_eq : shownText limit s = oneLine s := by
  rw [Chart.shownText_eq h.trimmed h.nonempty, truncate_of_fits h.fits]

theorem Whole.eq_of_decoded {text : Text} (hliteral : Literal s) (hdecoded : Decoded limit s text) :
    text = s := by
  obtain ⟨raw, hheld, hdecode⟩ := hdecoded
  have hraw : raw = oneLine s := by
    rw [← h.shownText_eq]
    refine hheld.resolve_right fun hquoted => hliteral.unwrapped (isWrapped_of_oneLine ?_)
    rw [← h.shownText_eq, hquoted.2]
    exact isWrapped_append raw
  rw [hraw, hliteral.decode_oneLine h.trimmed h.single] at hdecode
  exact (Except.ok.inj hdecode).symm

theorem Whole.caption_eq (hliteral : Literal s) : Caption.ofText s = ⟨s, s⟩ := by
  have hsplit : Text.split '\n' s = [s] := Text.splitWhere_of_none fun c hc => by
    rw [beq_eq_false_iff_ne]
    rintro rfl
    exact h.single hc
  have hlined : s.Lined := by
    rw [Text.Lined, hsplit]
    exact List.forall_mem_singleton.2 ⟨h.nonempty, h.trimmed⟩
  rw [Caption.ofText_of_replaced hliteral.tagless hlined, hsplit]
  rfl

end Whole

section Nodes

variable {style : Style} {flow : Flow} {node : Node} {s : Text}

theorem text_of_row (hnode : .node node ∈ rows flow)
    (hunique : ∀ other ∈ flow.nodes, other.id = node.id → other = node)
    (hcaption : node.caption = .str s) (hwhole : Whole style.limit s) (hliteral : Literal s)
    {row : Row} (hrow : row ∈ rows flow) {statement : Statement}
    (hmeans : row.Says (Graph.ofFlow flow) (chartIds flow) style.limit statement)
    {mention : Mention} (hmention : mention ∈ statement.mentions) (htext : mention.text.isSome)
    (hid : mention.id = (chartIds flow).idOf node.id) : mention.text = some s := by
  cases row with
  | edge source outlet label =>
      obtain ⟨edgeStyle, label, rfl⟩ := hmeans
      have hbare : mention.text = none := by
        simp only [Statement.mentions, List.flatMap_cons, List.flatMap_nil, List.append_nil,
          List.mem_append, List.mem_singleton] at hmention
        rcases hmention with rfl | rfl <;> rfl
      rw [hbare] at htext
      cases htext
  | node other =>
      obtain ⟨written, text, hother, hdecoded, rfl⟩ := hmeans
      obtain rfl : mention = _ := List.mem_singleton.1 hmention
      have hmem := (arranged_rows flow).ends_subset
      have hsame := UniqueIds.idOf_addAll_injective (hmem _ hrow List.mem_cons_self)
        (hmem _ hnode List.mem_cons_self) hid
      have hknown := (arranged_rows flow).mem_nodes other (mem_definedNodes hrow)
      obtain rfl := hunique other hknown hsame
      rw [hcaption] at hother
      obtain rfl := Json.str.inj hother
      rw [hwhole.eq_of_decoded hliteral hdecoded]
      simp [hwhole.nonempty]

theorem Sheet.node_eq (sheet : Sheet) (mention : Mention) :
    (sheet.node mention).id = mention.id ∧
      (sheet.node mention).title = .str (Sheet.caption mention).title ∧
      (sheet.node mention).content = .str (Sheet.caption mention).content := by
  rw [Sheet.node, foldl_addLink]
  exact ⟨rfl, rfl, rfl⟩

/-- A literal text comes back as title and content of its node, whatever the rest of the flow is
like, if its chart is read at all. -/
theorem literal_read_back {again : Flow} {text : Text} (hwrite : write style flow = .ok text)
    (hread : read text = .ok again) (hnode : node ∈ flow.nodes)
    (hunique : ∀ other ∈ flow.nodes, other.id = node.id → other = node)
    (hordinary : node.id ∉ skippedWords) (hcaption : node.caption = .str s)
    (hwhole : Whole style.limit s) (hliteral : Literal s) :
    (∃ other ∈ again.nodes, other.id = (chartIds flow).idOf node.id) ∧
      ∀ other ∈ again.nodes, other.id = (chartIds flow).idOf node.id →
        other.title = .str s ∧ other.content = .str s := by
  obtain ⟨direction, statements, title, description, rfl, hrows, hstatements⟩ :=
    exists_statements hwrite hread
  have hrow := row_of_unique hnode hunique
  -- The row of the node gives its id the text.
  obtain ⟨statement, hstatement, hmeans⟩ := hstatements _ hrow hordinary
  obtain ⟨written, shown, hwritten, hdecoded, rfl⟩ := hmeans
  rw [hcaption] at hwritten
  obtain rfl := Json.str.inj hwritten
  rw [hwhole.eq_of_decoded hliteral hdecoded] at hstatement
  have hmine : (⟨(chartIds flow).idOf node.id, some s, shapeOf ((Graph.ofFlow flow).kind node.id)
      node⟩ : Mention) ∈ statements.flatMap Statement.mentions := by
    refine List.mem_flatMap.2 ⟨_, hstatement, ?_⟩
    simp [Statement.mentions, hwhole.nonempty]
  have hnone : (([] : List Mention).map Mention.id).Nodup := List.nodup_nil
  obtain ⟨hids, htexts⟩ := texted_addMentions hnone hmine rfl
  constructor
  · obtain ⟨mention, hmention, hid⟩ := List.mem_map.1 hids
    exact ⟨_, List.mem_map_of_mem hmention, (Sheet.node_eq _ mention).1.trans hid⟩
  · intro other hother hid
    obtain ⟨mention, hmention, rfl⟩ := List.mem_map.1 hother
    obtain ⟨hsame, htitle, hcontent⟩ :=
      Sheet.node_eq (Sheet.ofStatements direction statements) mention
    rw [hsame] at hid
    have hgiven := (mem_addMentions hmention).resolve_left List.not_mem_nil
    obtain ⟨source, hsource, hgiven⟩ := List.mem_flatMap.1 hgiven
    obtain ⟨row, hrow', hmeans⟩ := hrows source hsource
    have htext := text_of_row hrow hunique hcaption hwhole hliteral hrow' hmeans hgiven
      (htexts mention hmention hid) hid
    have hcaption' : Sheet.caption mention = ⟨s, s⟩ := by
      rw [Sheet.caption, htext]
      exact hwhole.caption_eq hliteral
    rw [htitle, hcontent, hcaption']
    exact ⟨rfl, rfl⟩

end Nodes

/-- Marks that begin no reference, and quotation marks, which are written as one. -/
def noteTitle : Text := "R & D: \"plan\" #1".toList

def noteFlow : Flow where
  id := "note".toList
  title := .null
  start := "a".toList
  nodes := [{ id := "a".toList, title := .str noteTitle }]

def noteText : Text := "flowchart TD\n    a[R & D: &quot;plan&quot; #1]".toList

theorem whole_note : Whole 50 noteTitle where
  nonempty := by decide
  trimmed := by decide
  single := by decide
  fits := by decide

theorem literal_note : Literal noteTitle where
  barless := by decide
  unwrapped := by decide
  tagless := by decide
  unhashed := unhashed_of_none (by decide)
  silent := by
    have hquiet := Reference.quiet_cons (by decide) (Reference.foreign_of_blank (c := ' ') rfl)
      "D: \"plan\" #1".toList
    unfold noteTitle
    simpa [Silent] using hquiet

theorem exists_read_note : ∃ again, read noteText = .ok again := by
  have hraw : shapeText "a".toList Shape.rectangle.closer
      (nodeText 50 noteTitle ++ Shape.rectangle.closer) = .ok (oneLine noteTitle, []) := by decide
  have hshaped := shaped_of_decode (by decide) "a".toList hraw
    (literal_note.decode_oneLine whole_note.trimmed whole_note.single)
  have hdashed : IsDashed "a".toList := by decide
  have hline : Line.read "    a[R & D: &quot;plan&quot; #1]".toList =
      { statements := [{ sources := [⟨"a".toList, some noteTitle, .rectangle⟩] }] } :=
    hdashed.read_line (by decide) (stops_opener (by decide) _)
      (Statement.read?_shaped (by decide) hdashed hshaped) 4
  have hstatements : ∀ number, statementsOf number ["    a[R & D: &quot;plan&quot; #1]".toList] =
      .ok [{ sources := [⟨"a".toList, some noteTitle, .rectangle⟩] }] := by
    intro number
    rw [statementsOf, hline]
    rfl
  exact ⟨_, read_framed .td (by decide) hstatements⟩

theorem literal_read_back_note : ∃ again node,
    (write {} noteFlow = .ok noteText ∧ read noteText = .ok again ∧ node ∈ noteFlow.nodes ∧
      (∀ other ∈ noteFlow.nodes, other.id = node.id → other = node) ∧
      node.id ∉ skippedWords ∧ node.caption = .str noteTitle ∧
      Whole ({} : Style).limit noteTitle ∧ Literal noteTitle) ∧
    (∃ other ∈ again.nodes, other.id = (chartIds noteFlow).idOf node.id) ∧
      ∀ other ∈ again.nodes, other.id = (chartIds noteFlow).idOf node.id →
        other.title = .str noteTitle ∧ other.content = .str noteTitle := by
  obtain ⟨again, hread⟩ := exists_read_note
  have hwrite : write {} noteFlow = .ok noteText := by decide
  have hunique : ∀ other ∈ noteFlow.nodes, other.id = "a".toList →
      other = { id := "a".toList, title := .str noteTitle } :=
    fun other hother _ => List.mem_singleton.1 hother
  exact ⟨again, _, ⟨hwrite, hread, List.mem_cons_self, hunique, by decide, rfl, whole_note,
    literal_note⟩, literal_read_back hwrite hread List.mem_cons_self hunique (by decide) rfl
      whole_note literal_note⟩

end Flowchart.Chart
