import Flowchart.Chart.Reader
import Flowchart.Proofs.Flow.Sound
import Flowchart.Proofs.Roll

/-!
# Soundness of charts

Mentions are kept under their ids, which are not empty.  Both ends of a link are mentioned by the
statement that it comes from, so links connect mentioned nodes whatever the lines say.
-/

namespace Flowchart.Chart

theorem ids_addMention (mentions : List Mention) (mention : Mention) :
    (addMention mentions mention).map Mention.id =
      enroll (mentions.map Mention.id) mention.id := by
  induction mentions with
  | nil => rfl
  | cons known rest ih =>
      unfold addMention
      split
      · rename_i hid
        have hkept : (if known.text.isNone && mention.text.isSome then mention else known).id =
            mention.id := by
          split
          · rfl
          · exact hid
        rw [List.map_cons, List.map_cons, hkept, hid, enroll_cons_self]
      · rename_i hid
        rw [List.map_cons, List.map_cons, ih, enroll_cons_of_ne _ hid]

theorem ids_addMentions (mentions new : List Mention) :
    (addMentions mentions new).map Mention.id =
      (new.map Mention.id).foldl enroll (mentions.map Mention.id) :=
  foldl_enroll ids_addMention new mentions

theorem nodeId_ne_nil {c : Char} {s : Text} (h : Text.isWord c = true) : (nodeId (c :: s)).1 ≠ [] := by
  unfold nodeId
  split
  · simp_all
  · rename_i d rest heq
    obtain ⟨rfl, -⟩ := List.cons.inj heq
    exact absurd h (by decide)
  · rename_i d rest _ heq
    obtain ⟨rfl, rfl⟩ := List.cons.inj heq
    simp [h]

theorem id_of_shaped {id s rest : Text} {mention : Mention}
    (h : shaped id s = .ok (mention, rest)) : mention.id = id := by
  unfold shaped at h
  split at h
  · rw [← (Prod.mk.inj (Except.ok.inj h)).1]
  · split at h
    · cases h
    · split at h
      · cases h
      · rw [← (Prod.mk.inj (Except.ok.inj h)).1]

theorem id_of_mention? {s rest : Text} {mention : Mention}
    (h : mention? s = .ok (some (mention, rest))) : mention.id ≠ [] := by
  unfold mention? at h
  split at h
  · cases h
  · split at h
    · rename_i hword
      split at h
      · cases h
      · rename_i shapedMention behind hshaped
        obtain ⟨rfl, -⟩ := Prod.mk.inj (Option.some.inj (Except.ok.inj h))
        rw [id_of_shaped hshaped]
        exact nodeId_ne_nil hword
    · cases h

def Filled (mentions : List Mention) : Prop := ∀ mention ∈ mentions, mention.id ≠ []

theorem Filled.cons {mention : Mention} {mentions : List Mention} (hid : mention.id ≠ [])
    (h : Filled mentions) : Filled (mention :: mentions) :=
  List.forall_mem_cons.2 ⟨hid, h⟩

theorem Filled.append {mentions others : List Mention} (h : Filled mentions)
    (hothers : Filled others) : Filled (mentions ++ others) :=
  List.forall_mem_append.2 ⟨h, hothers⟩

theorem filled_nil : Filled [] := fun _ h => absurd h List.not_mem_nil

theorem filled_of_moreMentions {s rest : Text} {mentions : List Mention}
    (h : moreMentions s = .ok (mentions, rest)) : Filled mentions := by
  fun_induction moreMentions s generalizing mentions rest with
  | case1 =>
    rw [← (Prod.mk.inj (Except.ok.inj h)).1]
    exact filled_nil
  | case2 => cases h
  | case3 =>
    rw [← (Prod.mk.inj (Except.ok.inj h)).1]
    exact filled_nil
  | case4 => cases h
  | case5 s _ _ mention _ hm mentions' _ hmore ih =>
    rw [← (Prod.mk.inj (Except.ok.inj h)).1]
    exact (ih hmore).cons (id_of_mention? hm)

theorem filled_of_group? {s rest : Text} {mentions : List Mention}
    (h : group? s = .ok (some (mentions, rest))) : Filled mentions := by
  unfold group? at h
  split at h
  · cases h
  · cases h
  · rename_i mention after hm
    split at h
    · cases h
    · rename_i more last hmore
      obtain ⟨rfl, -⟩ := Prod.mk.inj (Option.some.inj (Except.ok.inj h))
      exact (filled_of_moreMentions hmore).cons (id_of_mention? hm)

theorem filled_of_connections {s rest : Text} {chain : List (Connector × List Mention)}
    (h : connections s = .ok (chain, rest)) : Filled (chain.flatMap Prod.snd) := by
  fun_induction connections s generalizing chain rest with
  | case1 => cases h
  | case2 =>
    rw [← (Prod.mk.inj (Except.ok.inj h)).1]
    exact filled_nil
  | case3 => cases h
  | case4 =>
    rw [← (Prod.mk.inj (Except.ok.inj h)).1]
    exact filled_nil
  | case5 => cases h
  | case6 s connector _ _ targets _ hg more _ hmore ih =>
    rw [← (Prod.mk.inj (Except.ok.inj h)).1]
    exact (filled_of_group? hg).append (ih hmore)

theorem targets_segmentsOf {chain : List (Connector × List Mention)} {segments : List Segment}
    (h : segmentsOf chain = .ok segments) :
    segments.flatMap Segment.targets = chain.flatMap Prod.snd := by
  induction chain generalizing segments with
  | nil =>
      rw [← Except.ok.inj h]
      rfl
  | cons link chain ih =>
      obtain ⟨connector, targets⟩ := link
      unfold segmentsOf at h
      split at h
      · cases h
      · split at h
        · cases h
        · rename_i segments' hrest
          rw [← Except.ok.inj h, List.flatMap_cons, List.flatMap_cons, ih hrest]

theorem Statement.filled_of_read? {s rest : Text} {statement : Statement}
    (h : read? s = .ok (some (statement, rest))) : Filled statement.mentions := by
  unfold read? at h
  split at h
  · cases h
  · cases h
  · rename_i sources after hg
    split at h
    · cases h
    · rename_i chain last hchain
      split at h
      · cases h
      · rename_i segments hsegments
        obtain ⟨rfl, -⟩ := Prod.mk.inj (Option.some.inj (Except.ok.inj h))
        rw [mentions, targets_segmentsOf hsegments]
        exact (filled_of_group? hg).append (filled_of_connections hchain)

theorem Statement.ends_of_linksFrom {sources : List Mention} {segments : List Segment} {link : Link}
    (h : link ∈ linksFrom sources segments) :
    (∃ mention ∈ sources ++ segments.flatMap Segment.targets, mention.id = link.source) ∧
      ∃ mention ∈ sources ++ segments.flatMap Segment.targets, mention.id = link.target := by
  -- Each group is linked to the one before it, so both ends of a link are mentioned.
  induction segments generalizing sources with
  | nil => simp [linksFrom] at h
  | cons segment rest ih =>
      unfold linksFrom at h
      rw [List.flatMap_cons]
      rcases List.mem_append.1 h with hhere | hlater
      · obtain ⟨source, hsource, hpair⟩ := List.mem_flatMap.1 hhere
        obtain ⟨target, htarget, rfl⟩ := List.mem_map.1 hpair
        refine ⟨⟨source, List.mem_append_left _ hsource, rfl⟩, target, ?_, rfl⟩
        exact List.mem_append_right _ (List.mem_append_left _ htarget)
      · obtain ⟨⟨source, hsource, hs⟩, target, htarget, ht⟩ := ih hlater
        exact ⟨⟨source, List.mem_append_right _ hsource, hs⟩, target,
          List.mem_append_right _ htarget, ht⟩

theorem Statement.ends_of_links {statement : Statement} {link : Link} (h : link ∈ statement.links) :
    link.source ∈ statement.mentions.map Mention.id ∧
      link.target ∈ statement.mentions.map Mention.id := by
  obtain ⟨⟨source, hsource, hs⟩, target, htarget, ht⟩ := ends_of_linksFrom h
  exact ⟨List.mem_map.2 ⟨source, hsource, hs⟩, List.mem_map.2 ⟨target, htarget, ht⟩⟩

theorem Line.filled_readFrom (free : Bool) (s : Text) :
    ∀ statement ∈ (readFrom free s).statements, Filled statement.mentions := by
  fun_induction readFrom free s with
  | case1 => simp
  | case2 _ _ _ _ _ _ ih => exact ih
  | case3 => simp
  | case4 => simp
  | case5 _ _ _ _ _ _ _ _ _ _ ih => exact ih
  | case6 => simp
  | case7 => simp
  | case8 _ _ _ _ _ _ _ _ _ statement _ hread ih =>
    intro other hother
    rcases List.mem_cons.1 hother with rfl | hother
    · exact Statement.filled_of_read? hread
    · exact ih other hother

theorem filled_of_statementsOf {number : Nat} {lines : List Text} {statements : List Statement}
    (h : statementsOf number lines = .ok statements) :
    ∀ statement ∈ statements, Filled statement.mentions := by
  induction lines generalizing number statements with
  | nil =>
      rw [← Except.ok.inj h]
      simp
  | cons line lines ih =>
      unfold statementsOf at h
      split at h
      · cases h
      · split at h
        · cases h
        · rename_i rest hrest
          rw [← Except.ok.inj h]
          intro statement hstatement
          rcases List.mem_append.1 hstatement with hhere | hlater
          · exact Line.filled_readFrom true line statement hhere
          · exact ih hrest statement hlater

/-- Mentions have distinct ids that are not empty, and links connect mentioned nodes. -/
structure Sheet.Resolved (sheet : Sheet) : Prop where
  distinct : (sheet.mentions.map Mention.id).Nodup
  filled : Filled sheet.mentions
  sources : ∀ link ∈ sheet.links, link.source ∈ sheet.mentions.map Mention.id
  targets : ∀ link ∈ sheet.links, link.target ∈ sheet.mentions.map Mention.id

namespace Sheet

theorem mem_ids_ofStatements {direction : Direction} {statements : List Statement} {id : Text} :
    id ∈ (ofStatements direction statements).mentions.map Mention.id ↔
      ∃ statement ∈ statements, id ∈ statement.mentions.map Mention.id := by
  simp only [ofStatements, ids_addMentions, mem_foldl_enroll, List.map_nil, List.not_mem_nil,
    false_or, List.map_flatMap, List.mem_flatMap]

theorem resolved_ofStatements {direction : Direction} {statements : List Statement}
    (h : ∀ statement ∈ statements, Filled statement.mentions) :
    (ofStatements direction statements).Resolved where
  distinct := by
    rw [ofStatements, ids_addMentions]
    exact nodup_foldl_enroll List.nodup_nil
  filled := by
    intro mention hmention
    obtain ⟨statement, hstatement, hid⟩ := mem_ids_ofStatements.1 (List.mem_map_of_mem hmention)
    obtain ⟨other, hother, hsame⟩ := List.mem_map.1 hid
    exact hsame ▸ h statement hstatement other hother
  sources := by
    intro link hlink
    obtain ⟨statement, hstatement, hlink⟩ := List.mem_flatMap.1 hlink
    exact mem_ids_ofStatements.2 ⟨statement, hstatement, (Statement.ends_of_links hlink).1⟩
  targets := by
    intro link hlink
    obtain ⟨statement, hstatement, hlink⟩ := List.mem_flatMap.1 hlink
    exact mem_ids_ofStatements.2 ⟨statement, hstatement, (Statement.ends_of_links hlink).2⟩

theorem resolved_of_read {body : Text} {sheet : Sheet} (h : read body = .ok sheet) :
    sheet.Resolved := by
  unfold read at h
  generalize layout body = split at h
  obtain ⟨direction, number, lines⟩ := split
  cases hstatements : statementsOf number lines with
  | error broken => simp [hstatements, Except.map] at h
  | ok statements =>
      have hsheet : ofStatements direction statements = sheet := by
        simpa [hstatements, Except.map] using h
      exact hsheet ▸ resolved_ofStatements (filled_of_statementsOf hstatements)

@[simp] theorem id_addLink (node : Node) (link : Link) : (addLink node link).id = node.id := rfl

@[simp] theorem targets_addLink (node : Node) (link : Link) :
    (addLink node link).outlets.map Outlet.target =
      node.outlets.map Outlet.target ++ [link.target] := by
  rw [addLink, List.map_append]
  rfl

@[simp] theorem id_node (sheet : Sheet) (mention : Mention) :
    (sheet.node mention).id = mention.id := by
  rw [node, Node.kept_foldl Node.id id_addLink]

theorem targets_node (sheet : Sheet) (mention : Mention) :
    (sheet.node mention).outlets.map Outlet.target =
      (sheet.links.filter (·.source = mention.id)).map Link.target := by
  rw [node, Node.map_outlets_foldl Outlet.target Link.target]
  · rfl
  · exact targets_addLink

theorem nodeIds_toFlow (sheet : Sheet) (title description : Option Text) :
    (sheet.toFlow title description).nodeIds = sheet.mentions.map Mention.id := by
  change (sheet.mentions.map sheet.node).map Node.id = _
  rw [List.map_map]
  exact List.map_congr_left fun mention _ => sheet.id_node mention

theorem start_toFlow (sheet : Sheet) (title description : Option Text) :
    (sheet.toFlow title description).start = (sheet.mentions.head?.map Mention.id).getD [] := rfl

theorem Resolved.sound_toFlow {sheet : Sheet} (h : sheet.Resolved)
    (title description : Option Text) : (sheet.toFlow title description).Sound := by
  have hids := nodeIds_toFlow sheet title description
  have hnodes : (sheet.toFlow title description).nodes = sheet.mentions.map sheet.node := rfl
  apply Flow.Sound.of_filled
  case distinct =>
    rw [hids]
    exact h.distinct
  case filled =>
    intro id hid
    rw [hids] at hid
    obtain ⟨mention, hmention, rfl⟩ := List.mem_map.1 hid
    exact h.filled mention hmention
  case startless =>
    intro hempty
    rw [hnodes, List.map_eq_nil_iff] at hempty
    rw [start_toFlow, hempty]
    rfl
  case started =>
    intro hsome
    rw [hnodes, ne_eq, List.map_eq_nil_iff] at hsome
    obtain ⟨mention, rest, hmentions⟩ := List.exists_cons_of_ne_nil hsome
    rw [hids, start_toFlow, hmentions]
    exact List.mem_cons_self
  case resolved =>
    intro node hnode target htarget
    obtain ⟨mention, -, rfl⟩ := List.mem_map.1 hnode
    rw [targets_node] at htarget
    obtain ⟨link, hlink, rfl⟩ := List.mem_map.1 htarget
    rw [hids]
    exact h.targets link (List.mem_filter.1 hlink).1

end Sheet

theorem FrontMatter.ne_nil_of_text? {front : FrontMatter} {key : Text} {text : Option Text}
    (h : front.text? key = .ok text) : text ≠ some [] := by
  unfold text? at h
  split at h
  · cases h
    simp
  · split at h
    · cases h
      simp
    · rename_i ref _ _
      cases hshown : front.document.display ref with
      | error fault =>
          rw [hshown] at h
          cases h
      | ok shown =>
          rw [hshown] at h
          rw [← Except.ok.inj h]
          simp [Option.filter_eq_some_iff]

theorem exists_sheet_of_read {s : Text} {flow : Flow} (h : read s = .ok flow) :
    ∃ body sheet title description, Sheet.read body = .ok sheet ∧ title ≠ some [] ∧
      description ≠ some [] ∧ flow = sheet.toFlow title description := by
  unfold read at h
  split at h
  · cases h
  · rename_i front _
    split at h
    · cases h
    · rename_i sheet hsheet
      cases htitle : front.text? "title".toList with
      | error fault =>
          rw [htitle] at h
          cases h
      | ok title =>
          cases hdescription : front.text? "description".toList with
          | error fault =>
              rw [htitle, hdescription] at h
              cases h
          | ok description =>
              rw [htitle, hdescription] at h
              exact ⟨front.body, sheet, title, description, hsheet, front.ne_nil_of_text? htitle,
                front.ne_nil_of_text? hdescription, (Except.ok.inj h).symm⟩

theorem sound_of_read {s : Text} {flow : Flow} (h : read s = .ok flow) : flow.Sound := by
  obtain ⟨body, sheet, title, description, hsheet, -, -, rfl⟩ := exists_sheet_of_read h
  exact (Sheet.resolved_of_read hsheet).sound_toFlow title description

end Flowchart.Chart
