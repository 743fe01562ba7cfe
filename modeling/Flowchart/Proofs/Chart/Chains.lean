import Flowchart.Proofs.Chart.Connectors

/-!
# Chains of documents

A node is read up to the space behind it, a group up to its last node, and a chain up to the end of
its line.
-/

namespace Flowchart.Chart

/-- What follows a node: a space, or nothing. -/
def Ends (rest : Text) : Prop := rest = [] ∨ rest.head? = some ' '

theorem ends_nil : Ends [] := .inl rfl

theorem ends_space (s : Text) : Ends (' ' :: s) := .inr rfl

theorem Ends.stops {rest : Text} (h : Ends rest) : Stops rest := by
  rcases h with rfl | h
  · exact stops_nil
  · obtain ⟨s, rfl⟩ := List.head?_eq_some_iff.1 h
    exact stops_cons (by decide) (by decide) s

theorem Ends.skipClass_eq {rest : Text} (h : Ends rest) : skipClass rest = rest := by
  rcases h with rfl | h
  · rfl
  · obtain ⟨s, rfl⟩ := List.head?_eq_some_iff.1 h
    rfl

theorem shaped_of_ends {rest : Text} (h : Ends rest) (id : Text) :
    shaped id rest = .ok ({ id := id }, rest) := by
  rcases h with rfl | h
  · rfl
  · obtain ⟨s, rfl⟩ := List.head?_eq_some_iff.1 h
    rfl

theorem findShape_quote (shape : Shape) (rest : Text) :
    (Shape.all.findSome? fun other =>
      (Text.after? other.opener (shape.opener ++ '"' :: rest)).map (other, ·)) =
        some (shape, '"' :: rest) := by
  cases shape <;> rfl

theorem decode_text {s : Text} (h : Unmarked textMarks s) (hwrap : ¬ IsWrapped s) :
    decode s = .ok s :=
  decode_eq_self h.trimmed (unwrap_eq_self (fun hmem => h.bare _ hmem (by decide)) hwrap)
    (fun hmem => h.bare _ hmem (by decide)) fun hmem => h.bare _ hmem (by decide)

theorem decode_label {s : Text} (h : Unmarked labelMarks s) : decode s = .ok s := by
  have hwrap : ¬ IsWrapped s :=
    fun hwrapped => h.bare '\'' (List.mem_of_mem_head? hwrapped.2.1) (by decide)
  exact decode_eq_self h.trimmed (unwrap_eq_self (fun hmem => h.bare _ hmem (by decide)) hwrap)
    (fun hmem => h.bare _ hmem (by decide)) fun hmem => h.bare _ hmem (by decide)

theorem shaped_bracketed {shape : Shape} {s : Text} (h : Unmarked textMarks s)
    (hwrap : ¬ IsWrapped s) (id rest : Text) :
    shaped id (NodeRef.bracketed (shape, s) ++ rest) = .ok (⟨id, some s, shape⟩, rest) := by
  have hquote : '"' ∉ s := fun hmem => h.bare '"' hmem (by decide)
  obtain ⟨close, closer, hcloser, hgap, hpercent⟩ : ∃ close closer,
      shape.closer = close :: closer ∧ Text.isGap close = false ∧ close ≠ '%' := by
    cases shape <;> exact ⟨_, _, rfl, by decide, by decide⟩
  have htext : shapeText id shape.closer ('"' :: (s ++ '"' :: (shape.closer ++ rest))) =
      .ok (s, rest) := by
    have hread := shapeText_quoted hquote hgap hpercent id closer rest
    rw [← hcloser] at hread
    simpa using hread
  have hempty : s.isEmpty = false := by simpa using h.nonempty
  have hopen : NodeRef.bracketed (shape, s) ++ rest =
      shape.opener ++ '"' :: (s ++ '"' :: (shape.closer ++ rest)) := by
    simp [NodeRef.bracketed]
  rw [hopen, shaped, findShape_quote]
  simp only [htext, decode_text h hwrap, hempty]
  rfl

namespace NodeRef

variable {ref : NodeRef} (h : ref.Regular) {rest : Text} (hrest : Ends rest)

include h

theorem Regular.head : ∃ c s, ref.text = c :: s ∧ Text.isWord c = true := by
  obtain ⟨c, s, hid, hc⟩ := h.dashed.head
  exact ⟨c, s ++ (ref.shaped.map bracketed).getD [], by rw [text, hid, List.cons_append], hc⟩

include hrest

omit h in
theorem stops_shaped (ref : NodeRef) : Stops ((ref.shaped.map bracketed).getD [] ++ rest) := by
  cases hshaped : ref.shaped with
  | none => exact hrest.stops
  | some shaped =>
      obtain ⟨shape, s⟩ := shaped
      cases shape <;> exact stops_cons (by decide) (by decide) _

theorem Regular.mention?_text : mention? (ref.text ++ rest) = .ok (some (ref.mention, rest)) := by
  obtain ⟨id, shaped⟩ := ref
  cases shaped with
  | none =>
      have hread := h.dashed.mention?_eq hrest.stops (shaped_of_ends hrest id)
      rw [hrest.skipClass_eq] at hread
      rw [text, Option.map_none, Option.getD_none, List.append_nil, hread]
      rfl
  | some shaped =>
      obtain ⟨hplain, hwrap⟩ := h.worded shaped rfl
      have hstops : Stops (bracketed shaped ++ rest) := stops_shaped hrest ⟨id, some shaped⟩
      have hread := h.dashed.mention?_eq hstops (shaped_bracketed hplain hwrap id rest)
      rw [hrest.skipClass_eq] at hread
      rw [text, Option.map_some, Option.getD_some, List.append_assoc, hread]
      rfl

end NodeRef

/-- What follows a group: the end of the line, or a connector behind a space. -/
def Leaves (rest : Text) : Prop := rest = [] ∨ ∃ tie s, rest = ' ' :: Tie.text tie ++ s

theorem Leaves.ends {rest : Text} (h : Leaves rest) : Ends rest := by
  rcases h with rfl | ⟨tie, s, rfl⟩
  · exact ends_nil
  · exact ends_space _

theorem Leaves.no_more {rest : Text} (h : Leaves rest) :
    Text.after? ['&'] (skipBlanks rest) = none := by
  rcases h with rfl | ⟨tie, s, rfl⟩
  · rfl
  · obtain ⟨c, tail, htext, -, -, hne⟩ := tie.exists_head
    rw [tie.skipBlanks_text, htext]
    simp [Text.after?, hne.symm]

theorem moreMentions_of_some {s rest after last : Text} {mention : Mention}
    {mentions : List Mention} (hand : Text.after? ['&'] (skipBlanks s) = some rest)
    (hmention : mention? rest = .ok (some (mention, after)))
    (hmore : moreMentions after = .ok (mentions, last)) :
    moreMentions s = .ok (mention :: mentions, last) := by
  unfold moreMentions
  split
  · rename_i heq
    rw [hand] at heq
    cases heq
  · rename_i rest' heq
    rw [hand] at heq
    cases heq
    split
    · rename_i heq
      rw [hmention] at heq
      cases heq
    · rename_i heq
      rw [hmention] at heq
      cases heq
    · rename_i mention' after' heq
      rw [hmention] at heq
      cases heq
      rw [hmore]

theorem mention?_space (s : Text) : mention? (' ' :: s) = mention? s := by
  rw [mention?, mention?, skipBlanks_space]

def moreText (refs : List NodeRef) : Text := refs.flatMap fun ref => " & ".toList ++ ref.text

theorem ends_moreText (refs : List NodeRef) {rest : Text} (hrest : Ends rest) :
    Ends (moreText refs ++ rest) := by
  cases refs with
  | nil => exact hrest
  | cons ref refs => exact ends_space _

theorem moreMentions_moreText {refs : List NodeRef} (h : ∀ ref ∈ refs, ref.Regular) {rest : Text}
    (hrest : Leaves rest) :
    moreMentions (moreText refs ++ rest) = .ok (refs.map NodeRef.mention, rest) := by
  induction refs with
  | nil => exact moreMentions_of_none hrest.no_more
  | cons ref refs ih =>
      obtain ⟨href, hrefs⟩ := List.forall_mem_cons.1 h
      have htext : moreText (ref :: refs) ++ rest =
          ' ' :: '&' :: ' ' :: (ref.text ++ (moreText refs ++ rest)) := by
        simp [moreText]
      have hand : Text.after? ['&'] (skipBlanks (moreText (ref :: refs) ++ rest)) =
          some (' ' :: (ref.text ++ (moreText refs ++ rest))) := by
        rw [htext, skipBlanks_space, skipBlanks_cons (by decide) (by decide)]
        simp [Text.after?]
      refine moreMentions_of_some hand ?_ (ih hrefs)
      rw [mention?_space, href.mention?_text (ends_moreText refs hrest.ends)]

namespace Group

theorem text_eq (group : Group) : group.text = group.first.text ++ moreText group.others := by
  obtain ⟨first, others⟩ := group
  induction others generalizing first with
  | nil => simp [text, refs, moreText, Text.join_singleton]
  | cons next others ih =>
      have hnext := ih next
      simp only [text, refs, List.map_cons] at hnext ⊢
      rw [Text.join_cons_cons, hnext]
      simp [moreText]

theorem group?_text {group : Group} (h : ∀ ref ∈ group.refs, ref.Regular) {rest : Text}
    (hrest : Leaves rest) :
    group? (group.text ++ rest) = .ok (some (group.mentions, rest)) := by
  obtain ⟨hfirst, hothers⟩ := List.forall_mem_cons.1 h
  rw [group?, text_eq, List.append_assoc,
    hfirst.mention?_text (ends_moreText group.others hrest.ends)]
  simp only [moreMentions_moreText hothers hrest]
  rfl

end Group

def connectorOf (tie : Tie) : Connector := ⟨tie.style, tie.label.getD []⟩

def segmentOf (link : Tie × Group) : Segment := ⟨link.1.style, link.1.label, link.2.mentions⟩

theorem group?_space (s : Text) : group? (' ' :: s) = group? s := by
  rw [group?, group?, mention?_space]

theorem leaves_links (links : List (Tie × Group)) : Leaves (links.flatMap Chain.linkText) := by
  cases links with
  | nil => exact .inl rfl
  | cons link links =>
      exact .inr ⟨link.1, ' ' :: link.2.text ++ links.flatMap Chain.linkText,
        by simp [Chain.linkText]⟩

theorem connections_links {links : List (Tie × Group)}
    (hties : ∀ link ∈ links, link.1.Regular)
    (hrefs : ∀ link ∈ links, ∀ ref ∈ link.2.refs, ref.Regular) :
    connections (links.flatMap Chain.linkText) =
      .ok (links.map fun link => (connectorOf link.1, link.2.mentions), []) := by
  induction links with
  | nil => exact connections_nil
  | cons link links ih =>
      obtain ⟨htie, hties⟩ := List.forall_mem_cons.1 hties
      obtain ⟨hgroup, hrefs⟩ := List.forall_mem_cons.1 hrefs
      obtain ⟨c, s, hfirst, hc⟩ := (hgroup link.2.first List.mem_cons_self).head
      have htargets := Group.group?_text hgroup (leaves_links links)
      have htext : link.2.text ++ links.flatMap Chain.linkText =
          c :: (s ++ moreText link.2.others ++ links.flatMap Chain.linkText) := by
        rw [Group.text_eq, hfirst]
        simp
      have hconnector := connector?_tie htie hc
        (s ++ moreText link.2.others ++ links.flatMap Chain.linkText)
      rw [← htext] at hconnector
      have hline : (link :: links).flatMap Chain.linkText =
          ' ' :: link.1.text ++ ' ' :: (link.2.text ++ links.flatMap Chain.linkText) := by
        simp [Chain.linkText]
      rw [hline]
      exact connections_of_some hconnector ((group?_space _).trans htargets) (ih hties hrefs)

theorem decodeLabel_tie {tie : Tie} (h : tie.Regular) :
    decodeLabel (tie.label.getD []) = .ok tie.label := by
  have hlabel : ∀ s ∈ tie.label, Unmarked labelMarks s := by
    cases tie with
    | plain rod extra label => exact h
    | inner shaft extra label =>
        rintro s ⟨⟩
        exact h.1
  cases htie : tie.label with
  | none => rfl
  | some s =>
      have hs := hlabel s htie
      rw [Option.getD_some, decodeLabel, decode_label hs]
      simp [hs.nonempty]

theorem segmentsOf_links {links : List (Tie × Group)} (h : ∀ link ∈ links, link.1.Regular) :
    segmentsOf (links.map fun link => (connectorOf link.1, link.2.mentions)) =
      .ok (links.map segmentOf) := by
  induction links with
  | nil => rfl
  | cons link links ih =>
      obtain ⟨hlink, hlinks⟩ := List.forall_mem_cons.1 h
      rw [List.map_cons, segmentsOf, connectorOf]
      simp only [decodeLabel_tie hlink, ih hlinks]
      rfl

namespace Chain

def statement (chain : Chain) : Statement := ⟨chain.first.mentions, chain.links.map segmentOf⟩

theorem Regular.read?_text {chain : Chain} (h : chain.Regular) :
    Statement.read? chain.text = .ok (some (chain.statement, [])) := by
  have hgroups : ∀ group ∈ chain.groups, ∀ ref ∈ group.refs, ref.Regular := h.refs
  obtain ⟨hfirst, hlinks⟩ := List.forall_mem_cons.1 hgroups
  rw [List.forall_mem_map] at hlinks
  rw [Statement.read?, text, Group.group?_text hfirst (leaves_links chain.links)]
  simp only [connections_links h.ties hlinks, segmentsOf_links h.ties]
  rfl

theorem Regular.read_line {chain : Chain} (h : chain.Regular) (indent : Nat) :
    Line.read (Text.spaces indent ++ chain.text) = { statements := [chain.statement] } := by
  have hfirst : chain.first.first.Regular :=
    h.refs chain.first List.mem_cons_self _ List.mem_cons_self
  have hends : Ends (moreText chain.first.others ++ chain.links.flatMap linkText) :=
    ends_moreText _ (leaves_links chain.links).ends
  have hread := h.read?_text
  have htext : chain.text = chain.first.first.id ++
      ((chain.first.first.shaped.map NodeRef.bracketed).getD [] ++
        (moreText chain.first.others ++ chain.links.flatMap linkText)) := by
    simp [text, Group.text_eq, NodeRef.text]
  rw [htext] at hread ⊢
  exact hfirst.dashed.read_line h.ordinary (NodeRef.stops_shaped hends _) hread indent

theorem mentions_statement (chain : Chain) : chain.statement.mentions = chain.mentions := by
  simp [statement, Statement.mentions, mentions, groups, List.flatMap_map, segmentOf]

theorem linksFrom_links (first : Group) (links : List (Tie × Group)) :
    Statement.linksFrom first.mentions (links.map segmentOf) =
      ((first :: links.map Prod.snd).zip links).flatMap fun pair => product pair.1 pair.2 := by
  induction links generalizing first with
  | nil => rfl
  | cons link links ih =>
      have hproduct : (first.mentions.flatMap fun source => (segmentOf link).targets.map fun target =>
          (⟨source.id, target.id, (segmentOf link).label, (segmentOf link).style⟩ : Link)) =
            product first link := by
        simp only [segmentOf, Group.mentions, product, List.flatMap_map, List.map_map]
        rfl
      rw [List.map_cons, Statement.linksFrom, hproduct, List.map_cons, List.zip_cons_cons,
        List.flatMap_cons, ← ih link.2]
      rfl

theorem links_statement (chain : Chain) : chain.statement.links = chain.edges :=
  linksFrom_links chain.first chain.links

end Chain

def arrowChain (source target : Text) : Chain where
  first := { first := { id := source } }
  links := [(.plain .arrow 0 none, { first := { id := target } })]

theorem regular_arrowChain {source target : Text} (hsource : IsDashed source)
    (htarget : IsDashed target) (hordinary : ¬ IsReserved source) :
    (arrowChain source target).Regular where
  refs := by
    intro group hgroup ref href
    simp only [arrowChain, Chain.groups, List.map_cons, List.map_nil, List.mem_cons,
      List.not_mem_nil, or_false] at hgroup
    rcases hgroup with rfl | rfl
    · obtain rfl := List.mem_singleton.1 href
      exact ⟨hsource, fun _ h => nomatch h⟩
    · obtain rfl := List.mem_singleton.1 href
      exact ⟨htarget, fun _ h => nomatch h⟩
  ties := by
    intro link hlink
    obtain rfl := List.mem_singleton.1 hlink
    exact fun s hs => nomatch hs
  ordinary := hordinary

end Flowchart.Chart
