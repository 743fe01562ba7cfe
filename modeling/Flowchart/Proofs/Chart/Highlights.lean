import Flowchart.Proofs.Chart.Emphasis

/-!
# Highlights

What has been executed is highlighted by the style of edges and by classes of nodes.  The styles are
all that is read back of it: a chart with a highlight is refused like the one without, or read as
the same flow with thick outlets where an edge was taken.  No node is given two classes.
-/

namespace Flowchart.Chart

def takenImages (flow : Flow) (highlight : Highlight) : List (Text × Text) :=
  (highlight.takenEdges.filter fun pair =>
    flow.nodeIds.contains pair.1 && flow.nodeIds.contains pair.2).map fun pair =>
      ((chartIds flow).idOf pair.1, (chartIds flow).idOf pair.2)

theorem definedIds_subset (flow : Flow) : definedIds (rows flow) ⊆ flow.nodeIds := by
  rw [← map_id_definedNodes]
  exact List.map_subset Node.id fun node hnode => (arranged_rows flow).mem_nodes node hnode

theorem idOf_chartIds_injective {flow : Flow} {id other : Text} (hid : id ∈ flow.nodeIds)
    (hother : other ∈ flow.nodeIds) (h : (chartIds flow).idOf id = (chartIds flow).idOf other) :
    id = other :=
  UniqueIds.idOf_addAll_injective (nodeIds_subset flow hid) (nodeIds_subset flow hother) h

theorem mem_takenImages {flow : Flow} {highlight : Highlight} {source target : Text}
    (hsource : source ∈ flow.nodeIds) (htarget : target ∈ flow.nodeIds) :
    ((chartIds flow).idOf source, (chartIds flow).idOf target) ∈ takenImages flow highlight ↔
      (source, target) ∈ highlight.takenEdges := by
  simp only [takenImages, List.mem_map, List.mem_filter, Bool.and_eq_true, List.contains_iff_mem]
  constructor
  · rintro ⟨⟨source', target'⟩, ⟨htaken, hsource', htarget'⟩, heq⟩
    obtain ⟨heq, heq'⟩ := Prod.mk.inj heq
    rwa [← idOf_chartIds_injective hsource' hsource heq,
      ← idOf_chartIds_injective htarget' htarget heq']
  · exact fun htaken => ⟨(source, target), ⟨htaken, hsource, htarget⟩, rfl⟩

def IsRecord (value : Json) : Prop := value.isVoid = true ∨ ∃ fields, value = .obj fields

theorem exists_styleOf {outlet : Outlet} (h : IsRecord outlet.metadata) :
    ∃ style, styleOf outlet = .ok style := by
  unfold styleOf
  split
  · exact ⟨_, rfl⟩
  · rename_i hvoid
    obtain ⟨fields, hfields⟩ := h.resolve_left hvoid
    exact ⟨_, by rw [hfields]⟩

section Rows

variable {flow : Flow} {graph : Graph} {limit : Int} {row : Row}

theorem links_of_says {node : Node} {ids : UniqueIds} {statement : Statement}
    (h : (Row.node node).Says graph ids limit statement) : statement.links = [] := by
  obtain ⟨s, text, -, -, rfl⟩ := h
  rfl

theorem linkLine_emphasized (highlight : Highlight) {source target text : Text}
    (hsource : source ∈ definedIds (rows flow)) (htarget : target ∈ definedIds (rows flow))
    (htext : '|' ∉ text) (style : EdgeStyle) :
    Line.Emphasized (takenImages flow highlight)
      (Line.read (indented (linkLine (chartIds flow) source style text target)))
      (Line.read (indented (linkLine (chartIds flow) source
        (if (source, target) ∈ highlight.takenEdges then .thick else style) text target))) := by
  have htaken : ((chartIds flow).idOf source, (chartIds flow).idOf target) ∈
      takenImages flow highlight ↔ (source, target) ∈ highlight.takenEdges :=
    mem_takenImages (definedIds_subset flow hsource) (definedIds_subset flow htarget)
  rw [chartIds, read_linkLine hsource htarget htext, read_linkLine hsource htarget htext,
    ← chartIds]
  split
  · exact ⟨rfl, .nil⟩
  · cases decodeLabel text with
    | error fault => exact ⟨rfl, .nil⟩
    | ok label =>
        refine ⟨rfl, .cons ⟨rfl, ?_⟩ .nil⟩
        simp only [Statement.links, Statement.linksFrom, List.flatMap_cons, List.flatMap_nil,
          List.map_cons, List.map_nil, List.append_nil, emphasizeLink, htaken]
        split <;> rfl

theorem rowLine_emphasized (highlight : Highlight) (hrow : row ∈ rows flow) {line : Text}
    (hline : rowLine graph [] (chartIds flow) limit row = .ok line) :
    ∃ line', rowLine graph highlight.takenEdges (chartIds flow) limit row = .ok line' ∧
      '\n' ∉ line ∧ '\n' ∉ line' ∧
      Line.Emphasized (takenImages flow highlight) (Line.read line) (Line.read line') := by
  have hends := (arranged_rows flow).ends_subset row hrow
  obtain ⟨hfeed, htold⟩ := told_rowLine hends hline
  cases row with
  | node node =>
      refine ⟨line, hline, hfeed, hfeed, rfl, List.forall₂_same.2 fun statement hstatement => ?_⟩
      have hlinks := links_of_says (htold.means hstatement)
      exact ⟨rfl, by rw [hlinks]; rfl⟩
  | edge source outlet label =>
      have hsource : source ∈ definedIds (rows flow) := hends List.mem_cons_self
      have htarget : outlet.target ∈ definedIds (rows flow) :=
        hends (List.mem_cons_of_mem _ List.mem_cons_self)
      obtain ⟨written, hwritten, rfl⟩ := Except.exists_of_map_eq_ok hline
      rw [edgeLine_eq] at hwritten
      obtain ⟨style, hstyle, hwritten⟩ := Except.exists_of_bind_eq_ok hwritten
      obtain ⟨text, htext, rfl⟩ := Except.exists_of_map_eq_ok hwritten
      have hstyle : styleOf outlet = .ok style := hstyle
      have hlink := linkLine_emphasized highlight hsource htarget (not_mem_label htext (by decide))
        style
      refine ⟨indented (linkLine (chartIds flow) source
        (if (source, outlet.target) ∈ highlight.takenEdges then .thick else style) text
        outlet.target), ?_, hfeed, ?_, hlink⟩
      · rw [rowLine, edgeLine_eq, hstyle, htext]
        simp only [List.contains_iff_mem]
        split <;> rfl
      · exact feed_not_mem_indented (feed_not_mem_linkLine hsource htarget
          (not_mem_label htext (by decide)) _)

theorem rowLine_error_iff (highlight : Highlight)
    (hrecords : ∀ node ∈ flow.nodes, ∀ outlet ∈ node.outlets, IsRecord outlet.metadata)
    (hrow : row ∈ rows flow) (fault : WriteFault) :
    rowLine graph [] (chartIds flow) limit row = .error fault ↔
      rowLine graph highlight.takenEdges (chartIds flow) limit row = .error fault := by
  cases row with
  | node node => exact Iff.rfl
  | edge source outlet label =>
      obtain ⟨node, hnode, -, hbranch⟩ := (arranged_rows flow).exists_branch hrow
      obtain ⟨style, hstyle⟩ :=
        exists_styleOf (hrecords node hnode outlet (Node.mem_outlets_of_mem_branches hbranch))
      rw [rowLine, rowLine, edgeLine_eq, edgeLine_eq, hstyle]
      cases labelOf limit label <;> cases highlight.takenEdges.contains (source, outlet.target) <;>
        simp [bind, Except.bind, Except.map]

end Rows

section Charts

variable {style : Style} {flow : Flow} (highlight : Highlight)

theorem rowLines_highlighted {lines : List Text}
    (h : rowLines { style with highlight := none } flow = .ok lines) :
    ∃ lines', rowLines { style with highlight := some highlight } flow = .ok lines' ∧
      List.Forall₂ (fun line line' => '\n' ∉ line ∧ '\n' ∉ line' ∧
        Line.Emphasized (takenImages flow highlight) (Line.read line) (Line.read line'))
        lines lines' :=
  exists_mapM_eq_ok (fun _ hrow _ hline => rowLine_emphasized highlight hrow hline) h

/-- With a highlight, a chart has the lines of its classes below rows that are read the same. -/
theorem write_highlighted {text : Text}
    (h : write { style with highlight := none } flow = .ok text) :
    ∃ lines shown, write { style with highlight := some highlight } flow = .ok shown ∧
      shown = Text.join ['\n'] (lines ++ highlightLines flow (chartIds flow) highlight) ∧
      read shown = (read text).map (emphasize (takenImages flow highlight)) := by
  rcases write_cases style flow with ⟨fault, hfault⟩ | ⟨direction, -, hwrite⟩
  · cases (hfault none).symm.trans h
  · obtain ⟨lines, hlines, rfl⟩ := Except.exists_of_map_eq_ok ((hwrite none).symm.trans h)
    obtain ⟨lines', hlines', hrel⟩ := rowLines_highlighted highlight hlines
    have hquiet := quiet_highlightLines flow highlight
    have hfeeds : ∀ line ∈ lines, '\n' ∉ line := fun line hline => by
      obtain ⟨line', -, hfeed, -⟩ := exists_of_forall₂ hrel hline
      exact hfeed
    have hfeeds' : ∀ line ∈ lines' ++ highlightLines flow (chartIds flow) highlight,
        '\n' ∉ line := by
      refine List.forall_mem_append.2 ⟨fun line hline => ?_, fun line hline => (hquiet line hline).1⟩
      obtain ⟨line', -, -, hfeed, -⟩ := exists_of_forall₂ hrel.flip hline
      exact hfeed
    refine ⟨frontLines flow ++ framed direction lines', _, by rw [hwrite, hlines']; rfl, ?_, ?_⟩
    · simp [framed]
    · have hread := read_emphasized flow direction hfeeds hfeeds'
        (hrel.imp fun _ _ h => h.2.2) fun line hline => (hquiet line hline).2
      simpa using hread

theorem write_error_iff
    (hrecords : ∀ node ∈ flow.nodes, ∀ outlet ∈ node.outlets, IsRecord outlet.metadata)
    (fault : WriteFault) :
    write { style with highlight := none } flow = .error fault ↔
      write { style with highlight := some highlight } flow = .error fault := by
  have hrows : rowLines { style with highlight := none } flow = .error fault ↔
      rowLines { style with highlight := some highlight } flow = .error fault :=
    mapM_eq_error_iff (fun _ hrow => rowLine_error_iff highlight hrecords hrow) fault
  rcases write_cases style flow with ⟨cause, hcause⟩ | ⟨direction, -, hwrite⟩
  · rw [hcause, hcause]
  · rw [hwrite, hwrite, Except.map_eq_error_iff, Except.map_eq_error_iff, hrows]

end Charts

def assigned (id line : Text) : List Text :=
  match Text.words line with
  | [word, ids, name] =>
    if word = "class".toList ∧ (Text.split ',' ids).contains id then [name] else []
  | _ => []

def classesOf (id : Text) (lines : List Text) : List Text := lines.flatMap (assigned id)

/-- The class that a highlight means a node to have. -/
def classOf (highlight : Highlight) (id : Text) : Option Text :=
  if highlight.current = some id then
    if id.isEmpty then none else some "current".toList
  else if highlight.path.contains id then some "executed".toList
  else none

theorem toList_classOf (highlight : Highlight) (id : Text) :
    (classOf highlight id).toList =
      (if id ∈ highlight.path ∧ highlight.current ≠ some id then ["executed".toList] else []) ++
        if highlight.current = some id ∧ id ≠ [] then ["current".toList] else [] := by
  unfold classOf
  by_cases hat : highlight.current = some id
  · have hpath : ¬(id ∈ highlight.path ∧ highlight.current ≠ some id) := fun h => h.2 hat
    rw [if_pos hat, if_neg hpath, if_congr (and_iff_right hat) rfl rfl]
    cases id <;> rfl
  · have hmarked : ¬(highlight.current = some id ∧ id ≠ []) := fun h => hat h.1
    have hpath : id ∈ highlight.path ∧ highlight.current ≠ some id ↔
        highlight.path.contains id = true := (and_iff_left hat).trans List.contains_iff_mem.symm
    rw [if_neg hat, if_neg hmarked, List.append_nil, if_congr hpath rfl rfl]
    split <;> rfl

theorem classOf_of_isEmpty {highlight : Highlight} (h : highlight.isEmpty = true) (id : Text) :
    classOf highlight id = none := by
  obtain ⟨hpath, hcurrent⟩ := Bool.and_eq_true_iff.1 h
  rw [classOf, List.isEmpty_iff.1 hpath]
  split
  · rename_i hat
    rw [hat] at hcurrent
    exact if_pos hcurrent
  · rfl

section Classes

variable {name id : Text} {ids : List Text}

theorem words_indented (s : Text) : Text.words (indented s) = Text.words s := by
  have hblank : Text.isBlank ' ' = true := rfl
  simp [indented, Text.spaces, Text.words_cons_blank hblank]

theorem assigned_classDef (id name look : Text) :
    assigned id (indented ("classDef ".toList ++ name ++ ' ' :: look)) = [] := by
  have hwords : Text.words (indented ("classDef ".toList ++ name ++ ' ' :: look)) =
      "classDef".toList :: Text.words (name ++ ' ' :: look) := by
    rw [words_indented]
    exact Text.words_append_blank rfl "classDef".toList (name ++ ' ' :: look)
  rw [assigned, hwords]
  split
  · rename_i heq
    rw [if_neg]
    rintro ⟨rfl, -⟩
    cases heq
  · rfl

theorem assigned_class (hne : ids ≠ []) (hids : ∀ id ∈ ids, id ≠ [] ∧ ∀ c ∈ id, isSafe c = true)
    (hname : name ≠ [] ∧ ∀ c ∈ name, Text.isBlank c = false) :
    assigned id (indented ("class ".toList ++ Text.join [','] ids ++ ' ' :: name)) =
      if id ∈ ids then [name] else [] := by
  have hsolid : ∀ c ∈ Text.join [','] ids, Text.isBlank c = false := by
    intro c hc
    rcases Text.mem_join hc with hc | ⟨id, hid, hc⟩
    · rw [List.mem_singleton.1 hc]
      rfl
    · exact UniqueIds.not_blank_of_isPlain (isPlain_of_isSafe ((hids id hid).2 c hc))
  have hsplit : Text.split ',' (Text.join [','] ids) = ids :=
    Text.split_join hne fun id hid hmem => absurd ((hids id hid).2 _ hmem) (by decide)
  have hjoin : Text.join [','] ids ≠ [] := by
    intro hempty
    rw [hempty] at hsplit
    exact (hids [] (hsplit ▸ List.mem_singleton_self [])).1 rfl
  have hwords : Text.words (indented ("class ".toList ++ Text.join [','] ids ++ ' ' :: name)) =
      ["class".toList, Text.join [','] ids, name] := by
    have hclass : Text.words ("class ".toList ++ Text.join [','] ids) =
        "class".toList :: Text.words (Text.join [','] ids) :=
      Text.words_append_blank rfl "class".toList _
    rw [words_indented, Text.words_append_blank rfl, hclass,
      Text.words_eq_singleton hname.1 hname.2, Text.words_eq_singleton hjoin hsolid]
    rfl
  rw [assigned, hwords]
  simp [hsplit]

theorem classesOf_append (id : Text) (lines lines' : List Text) :
    classesOf id (lines ++ lines') = classesOf id lines ++ classesOf id lines' :=
  List.flatMap_append

theorem classesOf_classLines (look : Text) (hne : ids ≠ [])
    (hids : ∀ id ∈ ids, id ≠ [] ∧ ∀ c ∈ id, isSafe c = true)
    (hname : name ≠ [] ∧ ∀ c ∈ name, Text.isBlank c = false) :
    classesOf id (classLines name look ids) = if id ∈ ids then [name] else [] := by
  rw [classesOf, classLines, List.flatMap_cons, List.flatMap_singleton, assigned_classDef,
    List.nil_append, assigned_class hne hids hname]

end Classes

def chosenLines (flow : Flow) (name look : Text) (chosen : List Text) : List Text :=
  if (chosen.map (chartIds flow).idOf).isEmpty then []
  else classLines name look (chosen.map (chartIds flow).idOf)

section Highlighted

variable {flow : Flow} {id : Text}

theorem classesOf_chosenLines {chosen : List Text} {name : Text} (look : Text)
    (hid : id ∈ flow.nodeIds) (hchosen : chosen ⊆ flow.nodeIds)
    (hname : name ≠ [] ∧ ∀ c ∈ name, Text.isBlank c = false) :
    classesOf ((chartIds flow).idOf id) (chosenLines flow name look chosen) =
      if id ∈ chosen then [name] else [] := by
  have hmem : (chartIds flow).idOf id ∈ chosen.map (chartIds flow).idOf ↔ id ∈ chosen := by
    refine ⟨fun h => ?_, List.mem_map_of_mem⟩
    obtain ⟨other, hother, heq⟩ := List.mem_map.1 h
    exact idOf_chartIds_injective (hchosen hother) hid heq ▸ hother
  rw [← if_congr hmem rfl rfl, chosenLines]
  split
  · rename_i hempty
    rw [List.isEmpty_iff.1 hempty]
    rfl
  · rename_i hne
    refine classesOf_classLines look (by simpa using hne) (List.forall_mem_map.2 ?_) hname
    intro other hother
    have hknown := nodeIds_subset flow (hchosen hother)
    exact ⟨idOf_ne_nil hknown, safe_idOf hknown⟩

theorem visited_subset (flow : Flow) (highlight : Highlight) (current : Option Text) :
    visited flow highlight current ⊆ flow.nodeIds := by
  intro other hother
  exact List.contains_iff_mem.1 (Bool.and_eq_true_iff.1 (List.mem_filter.1 hother).2).1

theorem known_current (flow : Flow) (highlight : Highlight) (other : Text) :
    highlight.current.filter flow.nodeIds.contains = some other ↔
      highlight.current = some other ∧ other ∈ flow.nodeIds := by
  rw [Option.filter_eq_some_iff, List.contains_iff_mem]

theorem highlightLines_eq (flow : Flow) (highlight : Highlight) {current : Option Text}
    (hcurrent : highlight.current.filter flow.nodeIds.contains = current) :
    ∃ look look' lines,
      lines = chosenLines flow "executed".toList look (visited flow highlight current) ++
        chosenLines flow "current".toList look' (current.filter (!·.isEmpty)).toList ∧
      highlightLines flow (chartIds flow) highlight =
        if highlight.isEmpty || lines.isEmpty then [] else [] :: lines := by
  refine ⟨"fill:#334155,stroke:#cbd5e1,stroke-width:2px,color:#cbd5e1".toList,
    "fill:#f59e0b,stroke:#451a03,stroke-width:3px,color:#451a03".toList, _, rfl, ?_⟩
  rw [highlightLines, hcurrent]
  cases current.filter (!·.isEmpty) <;> rfl

theorem classesOf_highlightLines (highlight : Highlight) (hid : id ∈ flow.nodeIds) :
    classesOf ((chartIds flow).idOf id) (highlightLines flow (chartIds flow) highlight) =
      (classOf highlight id).toList := by
  obtain ⟨current, hcurrent⟩ : ∃ current,
      highlight.current.filter flow.nodeIds.contains = current := ⟨_, rfl⟩
  have hknown := known_current flow highlight
  rw [hcurrent] at hknown
  have hstands : current = some id ↔ highlight.current = some id :=
    (hknown id).trans (and_iff_left hid)
  have hmarked : (current.filter (!·.isEmpty)).toList ⊆ flow.nodeIds := by
    intro other hother
    exact ((hknown other).1 (Option.filter_eq_some_iff.1 (Option.mem_toList.1 hother)).1).2
  obtain ⟨look, look', lines, hlines, heq⟩ := highlightLines_eq flow highlight hcurrent
  -- The path and the present node are marked one after the other, and never the same node.
  have hclasses : classesOf ((chartIds flow).idOf id) lines = (classOf highlight id).toList := by
    rw [hlines, classesOf_append, classesOf_chosenLines look hid (visited_subset ..) (by decide),
      classesOf_chosenLines look' hid hmarked (by decide)]
    have hpath : id ∈ visited flow highlight current ↔
        id ∈ highlight.path ∧ highlight.current ≠ some id := by
      simp [visited, hid, hstands]
    have hat : id ∈ (current.filter (!·.isEmpty)).toList ↔
        highlight.current = some id ∧ id ≠ [] := by
      simp [hstands]
    rw [if_congr hpath rfl rfl, if_congr hat rfl rfl, toList_classOf]
  rw [heq]
  by_cases hempty : highlight.isEmpty = true
  · rw [hempty, classOf_of_isEmpty hempty]
    rfl
  · cases lines with
    | nil => rw [← hclasses]; simp
    | cons line lines =>
        have hblank : assigned ((chartIds flow).idOf id) [] = [] := rfl
        rw [← hclasses]
        simp [hempty, classesOf, hblank]

end Highlighted

/-- A highlight is presentation only.  The chart with it is refused like the chart without, or read
as the same flow but for the outlets between nodes where an edge was taken, which are thick; and
each node has the one class that it is meant to have, or none. -/
theorem read_highlighted (style : Style) (highlight : Highlight) (flow : Flow) :
    (∀ text, write { style with highlight := none } flow = .ok text →
      ∃ lines shown, write { style with highlight := some highlight } flow = .ok shown ∧
        shown = Text.join ['\n'] (lines ++ highlightLines flow (chartIds flow) highlight) ∧
        read shown = (read text).map (emphasize (takenImages flow highlight))) ∧
    ((∀ node ∈ flow.nodes, ∀ outlet ∈ node.outlets, IsRecord outlet.metadata) →
      ∀ fault, write { style with highlight := none } flow = .error fault ↔
        write { style with highlight := some highlight } flow = .error fault) ∧
    (∀ source ∈ flow.nodeIds, ∀ target ∈ flow.nodeIds,
      (((chartIds flow).idOf source, (chartIds flow).idOf target) ∈ takenImages flow highlight ↔
        (source, target) ∈ highlight.takenEdges)) ∧
    ∀ id ∈ flow.nodeIds,
      classesOf ((chartIds flow).idOf id) (highlightLines flow (chartIds flow) highlight) =
        (classOf highlight id).toList :=
  ⟨fun _ => write_highlighted highlight, write_error_iff highlight,
    fun _ hsource _ htarget => mem_takenImages hsource htarget,
    fun _ hid => classesOf_highlightLines highlight hid⟩

def walkFlow : Flow where
  id := "walk".toList
  title := .null
  start := "a".toList
  nodes := [
    { id := "a".toList, title := .str "Open".toList, outlets := [
      { id := .str "a-b".toList, target := "b".toList, label := .str "go".toList },
      { id := .str "a-c".toList, target := "c".toList }] },
    { id := "b".toList, title := .str "Work".toList, outlets := [
      { id := .str "b-c".toList, target := "c".toList,
        metadata := .obj [("edgeStyle".toList, .str "dotted".toList)] }] },
    { id := "c".toList, title := .str "Close".toList }]

def walk : Highlight where
  current := some "b".toList
  path := ["a".toList, "b".toList, "nowhere".toList]

def walkText : Text :=
  "flowchart TD\n    a([Open])\n    b[Work]\n    a -->|go| b\n    c([Close])\n    a -->|no| c\n    b -.-> c".toList

theorem read_highlighted_walk :
    (write {} walkFlow = .ok walkText ∧
      ∃ lines shown again, write { highlight := some walk } walkFlow = .ok shown ∧
        shown = Text.join ['\n'] (lines ++ highlightLines walkFlow (chartIds walkFlow) walk) ∧
        read walkText = .ok again ∧
        read shown = .ok (emphasize (takenImages walkFlow walk) again)) ∧
    ((∀ node ∈ walkFlow.nodes, ∀ outlet ∈ node.outlets, IsRecord outlet.metadata) ∧
      ∀ fault, write {} walkFlow = .error fault ↔
        write { highlight := some walk } walkFlow = .error fault) ∧
    (((chartIds walkFlow).idOf "a".toList, (chartIds walkFlow).idOf "b".toList) ∈
        takenImages walkFlow walk ∧
      ((chartIds walkFlow).idOf "a".toList, (chartIds walkFlow).idOf "c".toList) ∉
        takenImages walkFlow walk) ∧
    classesOf ((chartIds walkFlow).idOf "b".toList)
      (highlightLines walkFlow (chartIds walkFlow) walk) = ["current".toList] := by
  obtain ⟨hread, herror, htaken, hclasses⟩ := read_highlighted {} walk walkFlow
  have htext : write {} walkFlow = .ok walkText := by decide +kernel
  have hreads : (read walkText).toBool = true := by decide +kernel
  have hrecords : ∀ node ∈ walkFlow.nodes, ∀ outlet ∈ node.outlets, IsRecord outlet.metadata := by
    simp [walkFlow, IsRecord, Json.isVoid]
  have ha : "a".toList ∈ walkFlow.nodeIds := by decide
  have hb : "b".toList ∈ walkFlow.nodeIds := by decide
  have hc : "c".toList ∈ walkFlow.nodeIds := by decide
  refine ⟨⟨htext, ?_⟩, ⟨hrecords, herror hrecords⟩, ⟨?_, ?_⟩, ?_⟩
  · obtain ⟨lines, shown, hshown, hlines, hagain⟩ := hread walkText htext
    cases hresult : read walkText with
    | error fault => rw [hresult] at hreads; cases hreads
    | ok again => exact ⟨lines, shown, again, hshown, hlines, rfl, by rw [hagain, hresult]; rfl⟩
  · exact (htaken _ ha _ hb).2 (by decide)
  · exact mt (htaken _ ha _ hc).1 (by decide)
  · rw [hclasses _ hb]
    rfl

end Flowchart.Chart
