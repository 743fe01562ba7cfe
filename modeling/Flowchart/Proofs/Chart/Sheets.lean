import Flowchart.Chart.Reader
import Flowchart.Proofs.Chart.Chains
import Flowchart.Proofs.Chart.Mentions
import Flowchart.Proofs.Roll

/-!
# Sheets of documents

Mentions add up to one entry for each id. Every document is read as the sheet that it says.
-/

namespace Flowchart.Chart

namespace Document

theorem id_entry (mentions : List Mention) (id : Text) : (entry mentions id).id = id := by
  rw [entry]
  cases hfind : mentions.find? fun mention => mention.id = id ∧ mention.text.isSome with
  | none => rfl
  | some mention =>
      have := List.find?_some hfind
      simp only [decide_eq_true_eq] at this
      exact this.1

theorem map_id_entries (mentions : List Mention) :
    (entries mentions).map Mention.id = (mentions.map Mention.id).eraseDups := by
  rw [entries, List.map_map]
  exact (List.map_congr_left fun id _ => id_entry mentions id).trans (List.map_id' _)

theorem entry_append (mentions : List Mention) (mention : Mention) (id : Text) :
    entry (mentions ++ [mention]) id = refreshed mention (entry mentions id) := by
  rw [entry, entry, List.find?_append]
  cases hfind : mentions.find? fun mention => mention.id = id ∧ mention.text.isSome with
  | some known =>
      have hknown := List.find?_some hfind
      simp only [decide_eq_true_eq] at hknown
      have hkept : refreshed mention known = known := if_neg fun h => by simp [h.2.1] at hknown
      rw [Option.some_or, Option.getD_some, hkept]
  | none =>
      rw [Option.none_or, Option.getD_none, refreshed, List.find?_singleton]
      by_cases hid : mention.id = id
      · by_cases htext : mention.text.isSome <;> simp [hid, htext]
      · simp [hid, Ne.symm hid]

theorem entry_of_not_mem {mentions : List Mention} {id : Text}
    (h : id ∉ mentions.map Mention.id) : entry mentions id = { id := id } := by
  rw [entry, List.find?_eq_none.2]
  · rfl
  · intro mention hmention hfound
    simp only [decide_eq_true_eq] at hfound
    exact h (hfound.1 ▸ List.mem_map_of_mem hmention)

theorem entries_append (mentions : List Mention) (mention : Mention) :
    entries (mentions ++ [mention]) =
      (enroll (mentions.map Mention.id).eraseDups mention.id).map fun id =>
        refreshed mention (entry mentions id) := by
  rw [entries, List.map_append, List.map_singleton, eraseDups_append_singleton]
  exact List.map_congr_left fun id _ => entry_append mentions mention id

/-- Adding mentions one by one leaves one entry for each id. -/
theorem addMentions_eq_entries {mentions : List Mention}
    (h : ∀ mention ∈ mentions, mention.text = none → mention = { id := mention.id }) :
    addMentions [] mentions = entries mentions := by
  -- From the last mention: it refreshes the entry that the earlier ones left, or is a new one.
  induction mentions using List.reverseRecOn with
  | nil => rfl
  | append_singleton mentions mention ih =>
      have hknown := ih fun other hother => h other (List.mem_append_left _ hother)
      have hstep : addMentions [] (mentions ++ [mention]) =
          addMention (entries mentions) mention := by
        rw [← hknown, addMentions, List.foldl_append]
        rfl
      have hids := map_id_entries mentions
      rw [hstep, entries_append, enroll]
      split
      · rename_i hmem
        rw [addMention_of_mem (hids ▸ nodup_eraseDups _) (hids ▸ hmem), entries, List.map_map]
        rfl
      · rename_i hnew
        have hnew' : mention.id ∉ mentions.map Mention.id :=
          fun hmem => hnew (List.mem_eraseDups.2 hmem)
        have hlast : refreshed mention (entry mentions mention.id) = mention := by
          rw [entry_of_not_mem hnew', refreshed]
          cases htext : mention.text with
          | none => simp [← h mention (by simp) htext]
          | some text => simp
        have hothers : ∀ id ∈ (mentions.map Mention.id).eraseDups,
            refreshed mention (entry mentions id) = entry mentions id := by
          intro id hid
          refine if_neg fun hsame => hnew ?_
          rw [← hsame.1, id_entry]
          exact hid
        rw [addMention_of_not_mem (hids ▸ hnew), List.map_append, List.map_singleton, hlast,
          List.map_congr_left hothers, entries]

end Document

theorem NodeRef.mention_of_bare (ref : NodeRef) (h : ref.mention.text = none) :
    ref.mention = { id := ref.mention.id } := by
  obtain ⟨id, shaped⟩ := ref
  cases shaped with
  | none => rfl
  | some shaped => cases h

theorem Chain.mention_of_bare (chain : Chain) {mention : Mention} (hmem : mention ∈ chain.mentions)
    (h : mention.text = none) : mention = { id := mention.id } := by
  obtain ⟨group, -, hgroup⟩ := List.mem_flatMap.1 hmem
  obtain ⟨ref, -, rfl⟩ := List.mem_map.1 hgroup
  exact ref.mention_of_bare h

theorem NodeRef.Regular.no_feed {ref : NodeRef} (h : ref.Regular) : '\n' ∉ ref.text := by
  obtain ⟨id, shaped⟩ := ref
  have hid : '\n' ∉ id := by
    intro hmem
    rcases h.dashed.mem hmem with hword | hdash
    · exact absurd hword (by decide)
    · exact absurd hdash (by decide)
  cases shaped with
  | none => simpa [text] using hid
  | some shaped =>
      have htext : '\n' ∉ shaped.2 := fun hmem => (h.worded shaped rfl).1.bare _ hmem (by decide)
      have hbrackets : '\n' ∉ shaped.1.opener ∧ '\n' ∉ shaped.1.closer := by
        cases shaped.1 <;> decide
      simp [text, bracketed, hid, htext, hbrackets]

theorem Tie.Regular.no_feed {tie : Tie} (h : tie.Regular) : '\n' ∉ tie.text := by
  cases tie with
  | plain rod extra label =>
      have hrod : '\n' ∉ rod.text extra := by cases rod <;> simp [Rod.text]
      cases label with
      | none => simpa [text] using hrod
      | some s =>
          have hlabel : '\n' ∉ s := fun hmem => (h s rfl).bare _ hmem (by decide)
          simp [text, barred, hrod, hlabel]
  | inner shaft extra label =>
      have hlabel : '\n' ∉ label := fun hmem => h.1.bare _ hmem (by decide)
      cases shaft <;> simp [text, Shaft.opening, Shaft.closing, hlabel]

theorem Group.no_feed {group : Group} (h : ∀ ref ∈ group.refs, ref.Regular) :
    '\n' ∉ group.text := by
  intro hmem
  rcases Text.mem_join hmem with hsep | ⟨piece, hpiece, hmem⟩
  · exact absurd hsep (by decide)
  · obtain ⟨ref, href, rfl⟩ := List.mem_map.1 hpiece
    exact (h ref href).no_feed hmem

theorem Chain.Regular.no_feed {chain : Chain} (h : chain.Regular) : '\n' ∉ chain.text := by
  have hgroups : ∀ group ∈ chain.groups, '\n' ∉ group.text :=
    fun group hgroup => Group.no_feed (h.refs group hgroup)
  rw [groups, List.forall_mem_cons, List.forall_mem_map] at hgroups
  have hlinks : '\n' ∉ chain.links.flatMap linkText := by
    intro hmem
    obtain ⟨link, hlink, hmem⟩ := List.mem_flatMap.1 hmem
    have htie := (h.ties link hlink).no_feed
    have hgroup := hgroups.2 link hlink
    simp [linkText, htie, hgroup] at hmem
  simp [text, hgroups.1, hlinks]

theorem statementsOf_chains {rows : List Document.Row} (h : ∀ row ∈ rows, row.chain.Regular)
    (number : Nat) :
    statementsOf number (rows.map Document.Row.text) =
      .ok (rows.map fun row => row.chain.statement) := by
  induction rows generalizing number with
  | nil => rfl
  | cons row rows ih =>
      obtain ⟨hrow, hrows⟩ := List.forall_mem_cons.1 h
      rw [List.map_cons, statementsOf, Document.Row.text, hrow.read_line, ih hrows]
      rfl

theorem Direction.not_mem_of_known {word : Text} (h : (Direction.ofWord? word).isSome) {c : Char}
    (hc : Text.upperChar c = [c]) (hname : c ∉ ['T', 'B', 'L', 'R', 'D']) : c ∉ word := by
  intro hmem
  have hupper : c ∈ Text.upper word := List.mem_flatMap.2 ⟨c, hmem, by simp [hc]⟩
  rw [Direction.ofWord?] at h
  split at h
  · rename_i heq
    have hletters : "TB".toList ⊆ ['T', 'B', 'L', 'R', 'D'] := by decide
    exact hname (hletters (heq ▸ hupper))
  · obtain ⟨direction, hfind⟩ := Option.isSome_iff_exists.1 h
    have heq : direction.name = Text.upper word := by simpa using List.find?_some hfind
    have hletters : direction.name ⊆ ['T', 'B', 'L', 'R', 'D'] := by cases direction <;> decide
    exact hname (hletters (heq ▸ hupper))

namespace Heading.Regular

variable {heading : Heading} (h : heading.Regular)

include h

theorem not_mem_keyword {c : Char} (hc : c.toLower = c)
    (hletter : c ∉ "flowchartgraph".toList) : c ∉ heading.keyword := by
  intro hmem
  have hlower : c ∈ heading.keyword.map Char.toLower := List.mem_map.2 ⟨c, hmem, hc⟩
  have hopens := h.opens
  simp only [List.mem_cons, List.not_mem_nil, or_false] at hopens
  rcases hopens with heq | heq
  · have hletters : "flowchart".toList ⊆ "flowchartgraph".toList := by decide
    exact hletter (hletters (heq ▸ hlower))
  · have hletters : "graph".toList ⊆ "flowchartgraph".toList := by decide
    exact hletter (hletters (heq ▸ hlower))

theorem no_feed : '\n' ∉ heading.text := by
  have hkeyword := h.not_mem_keyword (c := '\n') (by decide) (by decide)
  have hway := Direction.not_mem_of_known h.known (c := '\n') (by decide) (by decide)
  simp [text, Text.spaces, hkeyword, hway]

theorem skipGaps_way : Text.skipGaps (Text.spaces (heading.gap + 1) ++ heading.way) = heading.way := by
  refine (Text.run_append (p := Text.isGap) (fun c hc => ?_) fun c hc => ?_).2
  · rw [List.eq_of_mem_replicate hc]
    decide
  · have hmem := List.mem_of_mem_head? hc
    have hspace := Direction.not_mem_of_known h.known (c := ' ') (by decide) (by decide)
    have htab := Direction.not_mem_of_known h.known (c := '\t') (by decide) (by decide)
    have hne : c ≠ ' ' ∧ c ≠ '\t' := ⟨fun heq => hspace (heq ▸ hmem), fun heq => htab (heq ▸ hmem)⟩
    simp [Text.isGap, hne]

theorem header?_text : header? heading.text = some heading.direction := by
  have hlower (n : Nat) : (heading.text.take n).map Char.toLower =
      (heading.keyword.map Char.toLower ++
        (Text.spaces (heading.gap + 1) ++ heading.way).map Char.toLower).take n := by
    rw [text, List.append_assoc, List.map_take, List.map_append]
  have hafter : ∀ word, heading.keyword.map Char.toLower = word →
      (afterWord? word heading.text).filter endsWord =
        some (Text.spaces (heading.gap + 1) ++ heading.way) := by
    rintro word rfl
    rw [afterWord?, hlower, List.take_left, if_pos rfl, List.length_map, text, List.append_assoc,
      List.drop_left]
    rfl
  have hread : (Direction.ofWord? ((Text.skipGaps
      (Text.spaces (heading.gap + 1) ++ heading.way)).take 2)).getD .td = heading.direction := by
    rw [h.skipGaps_way, ← h.short, List.take_length, direction]
  have hopens := h.opens
  simp only [List.mem_cons, List.not_mem_nil, or_false] at hopens
  rcases hopens with hflowchart | hgraph
  · rw [header?, hafter _ hflowchart, ← hread]
    rfl
  · have hother : afterWord? "flowchart".toList heading.text = none := by
      rw [afterWord?, hlower, hgraph]
      exact if_neg (by simp)
    rw [header?, hafter _ hgraph, hother, ← hread]
    rfl

theorem splitHeader?_text (lines : List Text) :
    splitHeader? (heading.text :: lines) = some (heading.direction, lines) := by
  have hne : heading.keyword ≠ [] := by
    intro hkeyword
    exact absurd (hkeyword ▸ h.opens) (by decide)
  obtain ⟨c, s, hkeyword⟩ := List.exists_cons_of_ne_nil hne
  have hfirst : ∀ d, d ∉ heading.keyword → c ≠ d := by
    rintro d hd rfl
    exact hd (hkeyword ▸ List.mem_cons_self)
  have hspace := hfirst ' ' (h.not_mem_keyword (by decide) (by decide))
  have htab := hfirst '\t' (h.not_mem_keyword (by decide) (by decide))
  have hreturn := hfirst '\r' (h.not_mem_keyword (by decide) (by decide))
  have hpercent := hfirst '%' (h.not_mem_keyword (by decide) (by decide))
  have htext : heading.text = c :: (s ++ Text.spaces (heading.gap + 1) ++ heading.way) := by
    rw [text, hkeyword]
    rfl
  have hskip : skipHeaderGaps heading.text = heading.text := by
    simp [htext, skipHeaderGaps, Text.isGap, hspace, htab, hreturn, Text.startsWith, Text.after?,
      hpercent.symm]
  have hheader := h.header?_text
  rw [htext] at hskip hheader ⊢
  rw [splitHeader?, hskip]
  simp only [hheader]
  rfl

end Heading.Regular

theorem Shaft.spares_of_not_mem {shaft : Shaft} {label : Text} (h : '>' ∉ label) :
    shaft.Spares label := by
  intro gap extra _ hpart
  refine h (hpart.subset (List.mem_cons_of_mem gap ?_))
  cases shaft <;> simp [Shaft.closing]

namespace Document

theorem ofStatements_chains (direction : Direction) (rows : List Row) :
    Sheet.ofStatements direction (rows.map fun row => row.chain.statement) =
      { direction := direction
        mentions := entries (rows.flatMap fun row => row.chain.mentions)
        links := rows.flatMap fun row => row.chain.edges } := by
  have hmentions : (rows.map fun row => row.chain.statement).flatMap Statement.mentions =
      rows.flatMap fun row => row.chain.mentions := by
    simp only [List.flatMap_map, Chain.mentions_statement]
  have hlinks : (rows.map fun row => row.chain.statement).flatMap Statement.links =
      rows.flatMap fun row => row.chain.edges := by
    simp only [List.flatMap_map, Chain.links_statement]
  have hbare : ∀ mention ∈ rows.flatMap fun row => row.chain.mentions,
      mention.text = none → mention = { id := mention.id } := by
    intro mention hmem
    obtain ⟨row, -, hrow⟩ := List.mem_flatMap.1 hmem
    exact row.chain.mention_of_bare hrow
  rw [Sheet.ofStatements, hmentions, hlinks, addMentions_eq_entries hbare]

theorem Regular.split_text {document : Document} (h : document.Regular) :
    Text.split '\n' document.text = document.heading.text :: document.rows.map Row.text := by
  refine Text.split_join (List.cons_ne_nil _ _)
    (List.forall_mem_cons.2 ⟨h.headed.no_feed, List.forall_mem_map.2 ?_⟩)
  intro row hrow
  have hspaces : '\n' ∉ Text.spaces row.indent := by simp [Text.spaces]
  simp [Row.text, hspaces, (h.rows row hrow).no_feed]

/-- A regular document is read as what it says: its direction, one entry for each id, and the edges
of its chains in order. -/
theorem read_text (document : Document) (h : document.Regular) :
    Sheet.read document.text = .ok document.sheet := by
  have hlines := statementsOf_chains h.rows
  rw [Sheet.read, layout, h.split_text, h.headed.splitHeader?_text]
  simp only [hlines, Except.map, ofStatements_chains]
  rfl

/-- Two nodes that lead to a choice, one of which gets its text in the second line. -/
def trip : Document where
  heading := { keyword := "Graph".toList, way := "lr".toList }
  rows :=
    [{ chain :=
        { first :=
            { first := { id := "pick-up".toList, shaped := some (.stadium, "Pick up".toList) }
              others := [{ id := "walk".toList }] }
          links :=
            [(.inner .dotted 0 "if dry".toList,
                { first := { id := "gate".toList, shaped := some (.diamond, "Open?".toList) } }),
              (.plain .thick 1 (some "yes".toList), { first := { id := "end-1".toList } })] } },
      { indent := 2
        chain :=
          { first := { first := { id := "walk".toList, shaped := some (.rounded, "Walk".toList) } }
            links := [(.plain .dottedLine 2 none, { first := { id := "end-1".toList } })] } }]

theorem regular_trip : trip.Regular where
  headed := by decide
  rows := by
    intro row hrow
    simp only [trip, List.mem_cons, List.not_mem_nil, or_false] at hrow
    rcases hrow with rfl | rfl
    · refine ⟨by decide, ?_, by decide⟩
      intro link hlink
      simp only [List.mem_cons, List.not_mem_nil, or_false] at hlink
      rcases hlink with rfl | rfl
      · exact ⟨by decide, Shaft.spares_of_not_mem (by decide)⟩
      · exact fun s hs => Option.some.inj hs ▸ by decide
    · refine ⟨by decide, ?_, by decide⟩
      intro link hlink
      rw [List.mem_singleton] at hlink
      subst hlink
      exact fun s hs => nomatch hs

theorem read_text_trip : trip.Regular ∧ Sheet.read trip.text = .ok trip.sheet :=
  ⟨regular_trip, read_text trip regular_trip⟩

example : trip.text = Text.join ['\n']
    ["Graph lr".toList,
      "    pick-up([\"Pick up\"]) & walk -. if dry .-> gate\x7b\"Open?\"\x7d ===>|yes| end-1".toList,
      "  walk(\"Walk\") -...- end-1".toList] := by
  decide

end Document

end Flowchart.Chart
