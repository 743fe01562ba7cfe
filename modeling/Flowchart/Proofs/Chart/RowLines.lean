import Flowchart.Proofs.Chart.RoundTrip
import Flowchart.Proofs.Chart.Shown
import Flowchart.Proofs.Outcome

/-!
# Lines of rows

Whatever the texts of a row hold, its line says what the row says, or is broken.  Only the line of a
row whose node is named by a word that begins a skipped statement says nothing: of the words that
mean something at the beginning of a line, `end` alone is kept from being an id.
-/

namespace Flowchart.Chart

theorem not_mem_labelChar {c d : Char} (h : d ∈ labelChar c) : d ≠ '|' ∧ d ≠ '\n' := by
  unfold labelChar at h
  split at h
  · cases h
  · rename_i hkept
    split at h
    · rw [List.mem_singleton.1 h]
      decide
    · rename_i hfeed
      split at h
      · have hall : ∀ d ∈ "&quot;".toList, d ≠ '|' ∧ d ≠ '\n' := by decide
        exact hall d h
      · rw [List.mem_singleton.1 h]
        refine ⟨?_, hfeed⟩
        rintro rfl
        exact hkept rfl

theorem mem_collapse {s : Text} {c : Char} (h : c ∈ collapse s) : c ∈ s ∨ c = ' ' := by
  induction s with
  | nil => cases h
  | cons d s ih =>
      unfold collapse at h
      split at h
      · split at h
        · rename_i rest hrest
          rcases List.mem_cons.1 h with rfl | h
          · exact .inr rfl
          · exact (ih (hrest ▸ List.mem_cons_of_mem _ h)).imp_left (List.mem_cons_of_mem _)
        · rcases List.mem_cons.1 h with rfl | h
          · exact .inr rfl
          · exact (ih h).imp_left (List.mem_cons_of_mem _)
      · rcases List.mem_cons.1 h with rfl | h
        · exact .inl List.mem_cons_self
        · exact (ih h).imp_left (List.mem_cons_of_mem _)

theorem not_mem_edgeLabel {limit : Int} {s : Text} {c : Char} (hc : c ∈ ['|', '\n']) :
    c ∉ edgeLabel limit s := by
  have hplain : c ≠ '.' ∧ c ≠ ' ' := (by decide : ∀ c ∈ ['|', '\n'], c ≠ '.' ∧ c ≠ ' ') c hc
  intro h
  rcases mem_truncate h with h | h
  · rcases mem_collapse (mem_trim h) with h | h
    · obtain ⟨d, -, hd⟩ := List.mem_flatMap.1 h
      obtain ⟨hbar, hfeed⟩ := not_mem_labelChar hd
      simp only [List.mem_cons, List.not_mem_nil, or_false] at hc
      exact hc.elim hbar hfeed
    · exact hplain.2 h
  · exact hplain.1 h

theorem not_mem_label {limit : Int} {label : Json} {text : Text}
    (h : labelOf limit label = .ok text) {c : Char} (hc : c ∈ ['|', '\n']) : c ∉ text := by
  unfold labelOf at h
  split at h
  · rw [← Except.ok.inj h]
    exact List.not_mem_nil
  · split at h
    · rw [← Except.ok.inj h]
      exact not_mem_edgeLabel hc
    · cases h

theorem nodeText_head (limit : Int) (s : Text) :
    ∃ c rest, nodeText limit s = c :: rest ∧ c ∉ openingMarks := by
  rw [nodeText_eq]
  split
  · exact ⟨'"', _, rfl, by decide⟩
  · rename_i hbare
    obtain ⟨c, rest, hhead, -⟩ := shownText_head limit s
    have hmarks : ∀ c ∈ openingMarks, c ∈ "[]()\x7b\x7d".toList := by decide
    refine ⟨c, rest, hhead, fun hc => ?_⟩
    exact bracket_not_mem_shownText limit (by simpa using hbare) (hmarks c hc)
      (hhead ▸ List.mem_cons_self)

def Decoded (limit : Int) (s text : Text) : Prop :=
  ∃ raw, Held limit s raw ∧ decode raw = .ok text

section Statements

variable {limit : Int} {s : Text} {shape : Shape} (hshape : shape ∈ writtenShapes)

include hshape

theorem shaped_of_decode {raw text : Text} (id : Text)
    (hraw : shapeText id shape.closer (nodeText limit s ++ shape.closer) = .ok (raw, []))
    (hdecode : decode raw = .ok text) :
    shaped id (shape.opener ++ (nodeText limit s ++ shape.closer)) =
      .ok (⟨id, if text.isEmpty then none else some text, shape⟩, []) := by
  obtain ⟨c, rest, htext, hc⟩ := nodeText_head limit s
  have hfind := findShape_append hshape hc (rest ++ shape.closer)
  rw [← List.cons_append, ← htext] at hfind
  simp only [shaped, hfind, hraw, hdecode]

theorem shaped_nodeText (limit : Int) (s id : Text) :
    (∃ fault, shaped id (shape.opener ++ (nodeText limit s ++ shape.closer)) = .error fault) ∨
      ∃ text, Decoded limit s text ∧
        shaped id (shape.opener ++ (nodeText limit s ++ shape.closer)) =
          .ok (⟨id, if text.isEmpty then none else some text, shape⟩, []) := by
  obtain ⟨c, rest, htext, hc⟩ := nodeText_head limit s
  have hfind := findShape_append hshape hc (rest ++ shape.closer)
  rw [← List.cons_append, ← htext] at hfind
  rcases shapeText_nodeText hshape limit s id with ⟨fault, hfault⟩ |
    ⟨raw, hraw, hheld⟩
  · exact .inl ⟨fault, by simp only [shaped, hfind, hfault]⟩
  · cases hdecoded : decode raw with
    | error code => exact .inl ⟨.badCode code, by simp only [shaped, hfind, hraw, hdecoded]⟩
    | ok text => exact .inr ⟨text, ⟨raw, hheld, hdecoded⟩, shaped_of_decode hshape id hraw hdecoded⟩

theorem Statement.read?_shaped {id : Text} (hid : IsDashed id) {mention : Mention}
    (hshaped : shaped id (shape.opener ++ (nodeText limit s ++ shape.closer)) =
      .ok (mention, [])) :
    read? (id ++ (shape.opener ++ (nodeText limit s ++ shape.closer))) =
      .ok (some ({ sources := [mention] }, [])) := by
  have hstops := stops_opener hshape (nodeText limit s ++ shape.closer)
  have hgroup := hid.group?_eq hstops hshaped rfl
  have hskip : skipClass [] = [] := rfl
  rw [hskip] at hgroup
  simp only [read?, hgroup, connections_nil]
  rfl

theorem Statement.read?_nodeText (limit : Int) (s : Text) {id : Text} (hid : IsDashed id) :
    (∃ fault, read? (id ++ (shape.opener ++ (nodeText limit s ++ shape.closer))) =
        .error fault) ∨
      ∃ text, Decoded limit s text ∧
        read? (id ++ (shape.opener ++ (nodeText limit s ++ shape.closer))) =
          .ok (some ({ sources := [⟨id, if text.isEmpty then none else some text, shape⟩] },
            [])) := by
  have hstops := stops_opener hshape (nodeText limit s ++ shape.closer)
  rcases shaped_nodeText hshape limit s id with ⟨fault, hfault⟩ |
    ⟨text, hdecoded, hshaped⟩
  · refine .inl ⟨fault, ?_⟩
    have hblanks := hid.skipBlanks_append (shape.opener ++ (nodeText limit s ++ shape.closer))
    have hnode := hid.nodeId_append hstops
    obtain ⟨c, tail, rfl, hc⟩ := hid.head
    rw [List.cons_append] at hblanks hnode ⊢
    rw [read?, group?, mention?, hblanks]
    simp only [hc, ↓reduceIte, hnode, hfault]
  · exact .inr ⟨text, hdecoded, read?_shaped hshape hid hshaped⟩

end Statements

namespace Row

def subject : Row → Text
  | node named => named.id
  | edge source _ _ => source

def ends : Row → List Text
  | node named => [named.id]
  | edge source outlet _ => [source, outlet.target]

/-- Whether a statement says what a row says. -/
def Says (graph : Graph) (ids : UniqueIds) (limit : Int) : Row → Statement → Prop
  | node named, statement => ∃ s text, named.caption = .str s ∧ Decoded limit s text ∧
      statement = { sources := [⟨ids.idOf named.id, if text.isEmpty then none else some text,
        shapeOf (graph.kind named.id) named⟩] }
  | edge source outlet _, statement => ∃ style label,
      statement = ⟨[{ id := ids.idOf source }],
        [⟨style, label, [{ id := ids.idOf outlet.target }]⟩]⟩

end Row

/-- What the line of a row is read as. -/
inductive Told (graph : Graph) (ids : UniqueIds) (limit : Int) (row : Row) : Line → Prop where
  | nothing (hword : row.subject ∈ skippedWords) : Told graph ids limit row {}
  | fault (hordinary : row.subject ∉ skippedWords) (fault : Fault) :
      Told graph ids limit row { ending := .broken fault }
  | statement (hordinary : row.subject ∉ skippedWords) {statement : Statement}
      (hmeans : row.Says graph ids limit statement) :
      Told graph ids limit row { statements := [statement] }

section Told

variable {graph : Graph} {ids : UniqueIds} {limit : Int} {row : Row} {line : Line}

theorem Told.means (h : Told graph ids limit row line) {statement : Statement}
    (hmem : statement ∈ line.statements) : row.Says graph ids limit statement := by
  cases h with
  | nothing _ => cases hmem
  | fault _ _ => cases hmem
  | statement _ hmeans => exact List.mem_singleton.1 hmem ▸ hmeans

theorem Told.exists_statement (h : Told graph ids limit row line)
    (hordinary : row.subject ∉ skippedWords) (hwhole : ∀ fault, line.ending ≠ .broken fault) :
    ∃ statement ∈ line.statements, row.Says graph ids limit statement := by
  cases h with
  | nothing hword => exact absurd hword hordinary
  | fault _ fault => exact absurd rfl (hwhole fault)
  | statement _ hmeans => exact ⟨_, List.mem_cons_self, hmeans⟩

end Told

section Lines

variable {names : List Text} {limit : Int} {graph : Graph}

theorem read_idOf {name rest : Text} (h : name ∈ names) (hrest : Stops rest) :
    Line.read (indented ((UniqueIds.addAll safeId names).idOf name ++ rest)) =
      if name ∈ skippedWords then {}
      else Line.begun (Statement.read? ((UniqueIds.addAll safeId names).idOf name ++ rest)) := by
  have hdashed := dashed_idOf h
  rw [indented, hdashed.read_eq (idOf_ne_end h) hrest]
  by_cases hword : name ∈ skippedWords
  · rw [if_pos hword, if_pos]
    exact isSkipped_append ((idOf_mem_skippedWords_iff h).2 hword) hrest
  · have hident := ident_idOf h (mt safeId_mem_skippedWords_iff.1 hword)
    rw [if_neg hword, hident.dashed.not_skipped hrest hident.not_reserved]
    rfl

theorem feed_not_mem_idOf {name : Text} (h : name ∈ names) :
    '\n' ∉ (UniqueIds.addAll safeId names).idOf name :=
  fun hmem => absurd (safe_idOf h _ hmem) (by decide)

theorem told_nodeLine {node : Node} {line : Text} (h : node.id ∈ names)
    (hline : nodeLine graph (UniqueIds.addAll safeId names) limit node = .ok line) :
    '\n' ∉ line ∧ Told graph (UniqueIds.addAll safeId names) limit (.node node)
      (Line.read (indented line)) := by
  unfold nodeLine at hline
  split at hline
  · rename_i s hcaption
    have hshape := shapeOf_mem (graph.kind node.id) node
    obtain ⟨hopener, hcloser⟩ :=
      (by intro shape; cases shape <;> decide : ∀ shape : Shape,
        '\n' ∉ shape.opener ∧ '\n' ∉ shape.closer) (shapeOf (graph.kind node.id) node)
    have hstops := stops_opener hshape
      (nodeText limit s ++ (shapeOf (graph.kind node.id) node).closer)
    have hread := Statement.read?_nodeText hshape limit s (dashed_idOf h)
    have hlines := read_idOf h hstops
    have hfeed := feed_not_mem_idOf h
    rw [← Except.ok.inj hline]
    simp only [List.append_assoc]
    refine ⟨by simp [hfeed, hopener, hcloser, feed_not_mem_nodeText], ?_⟩
    rw [hlines]
    split
    · exact .nothing ‹_›
    · rcases hread with ⟨fault, hfault⟩ | ⟨text, hdecoded, hstatement⟩
      · rw [hfault]
        exact .fault ‹_› fault
      · rw [hstatement, Line.begun, Line.readFrom_nil]
        exact .statement ‹_› ⟨s, text, hcaption, hdecoded, rfl⟩
  · cases hline

def linkLine (ids : UniqueIds) (source : Text) (style : EdgeStyle) (label target : Text) : Text :=
  ids.idOf source ++ (' ' :: arrowOf style ++ (bars label ++ ' ' :: ids.idOf target))

theorem edgeLine_eq (taken : List (Text × Text)) (ids : UniqueIds) (limit : Int) (source : Text)
    (outlet : Outlet) (label : Json) :
    edgeLine taken ids limit source outlet label =
      (if taken.contains (source, outlet.target) then .ok .thick else styleOf outlet) >>=
        fun style => (labelOf limit label).map fun text =>
          linkLine ids source style text outlet.target := by
  have hline : ∀ style, (do
      let text ← labelOf limit label
      let bars := if text.isEmpty then [] else '|' :: text ++ ['|']
      return ids.idOf source ++ ' ' :: arrowOf style ++ bars ++ ' ' :: ids.idOf outlet.target) =
        (labelOf limit label).map fun text => linkLine ids source style text outlet.target := by
    intro style
    cases labelOf limit label with
    | error fault => rfl
    | ok text => simp [linkLine, bars, bind, Except.bind, pure, Except.pure, Except.map]
  rw [← funext hline]
  unfold edgeLine
  split <;> rfl

theorem read_linkLine {source target text : Text} (hsource : source ∈ names)
    (htarget : target ∈ names) (htext : '|' ∉ text) (style : EdgeStyle) :
    Line.read (indented (linkLine (UniqueIds.addAll safeId names) source style text target)) =
      if source ∈ skippedWords then {}
      else
        match decodeLabel text with
        | .error fault => { ending := .broken fault }
        | .ok label =>
          { statements := [⟨[{ id := (UniqueIds.addAll safeId names).idOf source }],
              [⟨style, label, [{ id := (UniqueIds.addAll safeId names).idOf target }]⟩]⟩] } := by
  have hstops : Stops (' ' :: arrowOf style ++
      (bars text ++ ' ' :: (UniqueIds.addAll safeId names).idOf target)) :=
    stops_cons (by decide) (by decide) _
  rw [linkLine, read_idOf hsource hstops,
    Statement.read?_link (dashed_idOf hsource) (dashed_idOf htarget) htext]
  congr 1
  cases decodeLabel text with
  | error fault => rfl
  | ok label => rw [Except.map, Line.begun, Line.readFrom_nil]; rfl

theorem feed_not_mem_linkLine {source target text : Text} (hsource : source ∈ names)
    (htarget : target ∈ names) (htext : '\n' ∉ text) (style : EdgeStyle) :
    '\n' ∉ linkLine (UniqueIds.addAll safeId names) source style text target := by
  simp [linkLine, feed_not_mem_idOf hsource, feed_not_mem_idOf htarget, feed_not_mem_bars htext,
    feed_not_mem_arrowOf]

theorem told_edgeLine (graph : Graph) {taken : List (Text × Text)} {source : Text}
    {outlet : Outlet} {label : Json} {line : Text} (hsource : source ∈ names)
    (htarget : outlet.target ∈ names)
    (hline : edgeLine taken (UniqueIds.addAll safeId names) limit source outlet label = .ok line) :
    '\n' ∉ line ∧ Told graph (UniqueIds.addAll safeId names) limit (.edge source outlet label)
      (Line.read (indented line)) := by
  rw [edgeLine_eq] at hline
  obtain ⟨style, -, hline⟩ := Except.exists_of_bind_eq_ok hline
  obtain ⟨text, htext, rfl⟩ := Except.exists_of_map_eq_ok hline
  rw [read_linkLine hsource htarget (not_mem_label htext (by decide))]
  refine ⟨feed_not_mem_linkLine hsource htarget (not_mem_label htext (by decide)) style, ?_⟩
  split
  · exact .nothing ‹_›
  · cases decodeLabel text with
    | error fault => exact .fault ‹_› fault
    | ok label => exact .statement ‹_› ⟨style, label, rfl⟩

/-- The line of a row is one line, and is read as the row says. -/
theorem told_rowLine {taken : List (Text × Text)} {row : Row} {line : Text}
    (hnames : row.ends ⊆ names)
    (hline : rowLine graph taken (UniqueIds.addAll safeId names) limit row = .ok line) :
    '\n' ∉ line ∧ Told graph (UniqueIds.addAll safeId names) limit row (Line.read line) := by
  cases row with
  | node node =>
      obtain ⟨written, hwritten, rfl⟩ := Except.exists_of_map_eq_ok hline
      have htold := told_nodeLine (hnames List.mem_cons_self) hwritten
      exact ⟨feed_not_mem_indented htold.1, htold.2⟩
  | edge source outlet label =>
      obtain ⟨written, hwritten, rfl⟩ := Except.exists_of_map_eq_ok hline
      have htold := told_edgeLine graph (hnames List.mem_cons_self)
        (hnames (List.mem_cons_of_mem _ List.mem_cons_self)) hwritten
      exact ⟨feed_not_mem_indented htold.1, htold.2⟩

end Lines

theorem Arranged.ends_subset {flow : Flow} {rows : List Row} (h : Arranged flow rows) :
    ∀ row ∈ rows, row.ends ⊆ definedIds rows := by
  induction h with
  | nil => exact fun _ hrow => absurd hrow List.not_mem_nil
  | node _ _ _ ih =>
      rw [definedIds_append_node]
      refine List.forall_mem_append.2 ⟨fun row hrow name hname => ?_, ?_⟩
      · exact List.mem_append_left _ (ih row hrow hname)
      · simp [Row.ends]
  | edge _ _ _ hsource htarget ih =>
      rw [definedIds_append_edge]
      refine List.forall_mem_append.2 ⟨ih, ?_⟩
      simp [Row.ends, hsource, htarget]

def Style.taken (style : Style) : List (Text × Text) :=
  (style.highlight.map Highlight.takenEdges).getD []

def rowLines (style : Style) (flow : Flow) : Except WriteFault (List Text) :=
  (rows flow).mapM (rowLine (Graph.ofFlow flow) style.taken (chartIds flow) style.limit)

/-- A chart is refused whatever is highlighted, or else fails only where a row does. -/
theorem write_cases (style : Style) (flow : Flow) :
    (∃ fault, ∀ highlight, write { style with highlight } flow = .error fault) ∨
      ∃ direction, Direction.read style.direction = .ok direction ∧ ∀ highlight,
        write { style with highlight } flow =
          (rowLines { style with highlight } flow).map fun lines =>
            Text.join ['\n'] (frontLines flow ++ framed direction
              (lines ++ (highlight.map (highlightLines flow (chartIds flow))).getD [])) := by
  cases hdirection : Direction.read style.direction with
  | error fault => exact .inl ⟨_, fun highlight => by rw [write, hdirection]; rfl⟩
  | ok direction =>
      cases hgraph : flow.graph with
      | error misfit => exact .inl ⟨_, fun highlight => by rw [write, hdirection, hgraph]; rfl⟩
      | ok graph =>
          obtain rfl := Flow.eq_ofFlow_of_graph hgraph
          refine .inr ⟨direction, rfl, fun highlight => ?_⟩
          have hwrite : write { style with highlight } flow =
              (rowLines { style with highlight } flow) >>= fun lines =>
                .ok (Text.join ['\n'] (frontLines flow ++
                  ["flowchart ".toList ++ direction.name] ++ lines ++
                  (highlight.map (highlightLines flow (chartIds flow))).getD [])) := by
            rw [write, hdirection, hgraph]
            rfl
          rw [hwrite]
          cases rowLines { style with highlight } flow with
          | error fault => rfl
          | ok lines => simp [framed, bind, Except.bind, Except.map]

theorem exists_lines_of_write {style : Style} {flow : Flow} {text : Text}
    (h : write style flow = .ok text) :
    ∃ direction lines, Direction.read style.direction = .ok direction ∧
      List.Forall₂ (fun row line => rowLine (Graph.ofFlow flow) style.taken (chartIds flow)
        style.limit row = .ok line) (rows flow) lines ∧
      text = Text.join ['\n'] (frontLines flow ++ framed direction
        (lines ++ (style.highlight.map (highlightLines flow (chartIds flow))).getD [])) := by
  rcases write_cases style flow with ⟨fault, hfault⟩ | ⟨direction, hdirection, hwrite⟩
  · cases (hfault style.highlight).symm.trans h
  · obtain ⟨lines, hlines, htext⟩ :=
      Except.exists_of_map_eq_ok ((hwrite style.highlight).symm.trans h)
    exact ⟨direction, lines, hdirection, forall₂_of_mapM hlines, htext.symm⟩

def Opening (rest : Text) : Prop :=
  rest.head? = some ' ' ∨ ∃ shape : Shape, shape.opener <+: rest

theorem Opening.stops {rest : Text} (h : Opening rest) : Stops rest := by
  rcases h with h | ⟨shape, more, rfl⟩
  · obtain ⟨more, rfl⟩ := List.head?_eq_some_iff.1 h
    exact stops_cons (by decide) (by decide) more
  · cases shape <;> exact stops_cons (by decide) (by decide) _

/-- A line that begins with an id is passed over exactly if the id was given to a word of the
notation, and is never taken for the end of a subgraph.  So each row of a flow has its line in the
chart, which says what the row says, is broken, or is passed over for such a name. -/
theorem passed_over_iff_word {style : Style} {flow : Flow} {text : Text}
    (hwrite : write style flow = .ok text) :
    (∀ names name, name ∈ names → ∀ rest, Opening rest →
      (isSkipped ((UniqueIds.addAll safeId names).idOf name ++ rest) = true ↔
        name ∈ skippedWords) ∧
      afterEnd? ((UniqueIds.addAll safeId names).idOf name ++ rest) = none) ∧
    ∀ row ∈ rows flow, ∃ line ∈ Text.split '\n' text,
      rowLine (Graph.ofFlow flow) style.taken (chartIds flow) style.limit row = .ok line ∧
      Told (Graph.ofFlow flow) (chartIds flow) style.limit row (Line.read line) := by
  constructor
  · intro names name h rest hrest
    have hdashed := dashed_idOf h
    refine ⟨⟨fun hskipped => ?_, fun hword => ?_⟩, hdashed.not_end hrest.stops (idOf_ne_end h)⟩
    · by_contra hordinary
      have hident := ident_idOf h (mt safeId_mem_skippedWords_iff.1 hordinary)
      rw [hdashed.not_skipped hrest.stops hident.not_reserved] at hskipped
      cases hskipped
    · exact isSkipped_append ((idOf_mem_skippedWords_iff h).2 hword) hrest.stops
  · intro row hrow
    obtain ⟨direction, lines, -, hlines, rfl⟩ := exists_lines_of_write hwrite
    obtain ⟨line, hmem, hline⟩ := exists_of_forall₂ hlines hrow
    have htold := told_rowLine
      ((arranged_rows flow).ends_subset row hrow) hline
    refine ⟨line, Text.mem_split_join ?_ htold.1, hline, htold.2⟩
    simp [framed, hmem]

/-- Two ids that are words of the notation.  Only `end` is written as another id. -/
def wordFlow : Flow where
  id := "words".toList
  title := .null
  start := "style".toList
  nodes :=
    [{ id := "style".toList, title := .str "Paint".toList
       outlets := [{ id := .str "o".toList, target := "end".toList }] },
      { id := "end".toList, title := .str "Done".toList }]

def wordText : Text :=
  "flowchart TD\n    style([Paint])\n    end_([Done])\n    style --> end_".toList

theorem passed_over_style :
    write {} wordFlow = .ok wordText ∧
    (∀ names name, name ∈ names → ∀ rest, Opening rest →
      (isSkipped ((UniqueIds.addAll safeId names).idOf name ++ rest) = true ↔
        name ∈ skippedWords) ∧
      afterEnd? ((UniqueIds.addAll safeId names).idOf name ++ rest) = none) ∧
    ∀ row ∈ rows wordFlow, ∃ line ∈ Text.split '\n' wordText,
      rowLine (Graph.ofFlow wordFlow) ({} : Style).taken (chartIds wordFlow) 50 row = .ok line ∧
      Told (Graph.ofFlow wordFlow) (chartIds wordFlow) 50 row (Line.read line) :=
  have hwrite : write {} wordFlow = .ok wordText := by decide
  ⟨hwrite, passed_over_iff_word hwrite⟩

end Flowchart.Chart
