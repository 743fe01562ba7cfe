import Flowchart.Proofs.Chart.Chains
import Flowchart.Proofs.Chart.Detached
import Flowchart.Proofs.Chart.Remainder

/-!
# What is read stays read

A piece that is read from a text is read from that text with more behind it, if a separator stands
between them.  Only a connector that was looked for and not found may come about in what follows.
-/

namespace Flowchart.Chart

theorem moreMentions_of_stray {s rest : Text}
    (hand : Text.after? ['&'] (skipBlanks s) = some rest) (hmention : mention? rest = .ok none) :
    moreMentions s = .ok ([], s) := by
  unfold moreMentions
  split
  · rfl
  · rename_i rest' heq
    rw [hand] at heq
    cases heq
    split
    · rename_i heq
      rw [hmention] at heq
      cases heq
    · rfl
    · rename_i heq
      rw [hmention] at heq
      cases heq

theorem connections_of_none {s : Text} (h : connector? s = .ok none) :
    connections s = .ok ([], s) := by
  unfold connections
  split
  · rename_i heq
    rw [h] at heq
    cases heq
  · rfl
  · rename_i heq
    rw [h] at heq
    cases heq

theorem connections_of_stray {s rest : Text} {connector : Connector}
    (hconnector : connector? s = .ok (some (connector, rest))) (htargets : group? rest = .ok none) :
    connections s = .ok ([], s) := by
  unfold connections
  split
  · rename_i heq
    rw [hconnector] at heq
    cases heq
  · rfl
  · rename_i heq
    rw [hconnector] at heq
    cases heq
    split
    · rename_i heq
      rw [htargets] at heq
      cases heq
    · rfl
    · rename_i heq
      rw [htargets] at heq
      cases heq

section Detached

variable {u : Text} (hu : Detached u)

include hu

theorem Detached.skipBlanks_append (s : Text) :
    skipBlanks (s ++ u) =
      if Text.startsWith (Text.skipGaps s) "%%".toList then [] else skipBlanks s ++ u := by
  rw [skipBlanks, skipBlanks, hu.skipGaps_append, hu.startsWith_append (by decide)]
  split <;> rfl

theorem Detached.skipBlanks_append_of_ne {s : Text} (h : skipBlanks s ≠ []) :
    skipBlanks (s ++ u) = skipBlanks s ++ u := by
  rw [hu.skipBlanks_append, if_neg]
  intro hcomment
  exact h (if_pos hcomment)

theorem Detached.after?_skipBlanks_append {p : Text} (hne : p ≠ [])
    (hp : ∀ c ∈ p, c ∉ terminators) (s : Text) :
    Text.after? p (skipBlanks (s ++ u)) = (Text.after? p (skipBlanks s)).map (· ++ u) := by
  obtain ⟨c, p, rfl⟩ := List.exists_cons_of_ne_nil hne
  rw [hu.skipBlanks_append]
  split
  · rename_i hcomment
    have hblanks : skipBlanks s = [] := if_pos hcomment
    rw [hblanks]
    rfl
  · exact hu.after?_append hp _

omit hu in
theorem quotedText_append_right {quote : Char} {s text rest : Text}
    (h : quotedText quote s = .ok (text, rest)) (u : Text) :
    quotedText quote (s ++ u) = .ok (text, rest ++ u) := by
  induction s generalizing text with
  | nil => cases h
  | cons c s ih =>
      unfold quotedText at h
      rw [List.cons_append, quotedText]
      split at h
      · obtain ⟨rfl, rfl⟩ := Prod.mk.inj (Except.ok.inj h)
        rw [if_pos ‹_›]
      · rw [if_neg ‹_›]
        split at h
        · cases h
        · rename_i r hr
          obtain ⟨rfl, rfl⟩ := Prod.mk.inj (Except.ok.inj h)
          rw [ih hr]

theorem Detached.bracketText?_append {opener : Option Char} {closer : Text}
    (hcloser : ∀ c ∈ closer, c ∉ terminators) {s text rest : Text} {depth : Nat}
    (h : bracketText? opener closer depth s = some (text, rest)) :
    bracketText? opener closer depth (s ++ u) = some (text, rest ++ u) := by
  induction s generalizing depth text with
  | nil => cases h
  | cons c s ih =>
      have hafter : (if depth = 0 then Text.after? closer (c :: s ++ u) else none) =
          (if depth = 0 then Text.after? closer (c :: s) else none).map (· ++ u) := by
        rw [hu.after?_append hcloser]
        split <;> rfl
      unfold bracketText? at h
      rw [List.cons_append] at hafter ⊢
      rw [bracketText?, hafter]
      split at h
      · rename_i after hclosed
        obtain ⟨rfl, rfl⟩ := Prod.mk.inj (Option.some.inj h)
        rw [hclosed]
        rfl
      · rename_i hopen
        obtain ⟨r, hr, heq⟩ := Option.map_eq_some_iff.1 h
        obtain ⟨rfl, rfl⟩ := Prod.mk.inj heq
        rw [hopen, Option.map_none]
        simp only [ih hr]
        rfl

theorem Detached.shapeText_append {node closer s text rest : Text} (hne : closer ≠ [])
    (hcloser : ∀ c ∈ closer, c ∉ terminators) (h : shapeText node closer s = .ok (text, rest)) :
    shapeText node closer (s ++ u) = .ok (text, rest ++ u) := by
  unfold shapeText at h
  split at h
  · cases h
  · rename_i c inside hc
    rw [shapeText, hu.skipBlanks_append_of_ne (by simp [hc]), hc, List.cons_append]
    dsimp only
    split at h
    · rw [if_pos ‹_›]
      split at h
      · cases h
      · rename_i quoted after hquoted
        rw [quotedText_append_right hquoted u]
        dsimp only
        rw [hu.after?_skipBlanks_append hne hcloser]
        split at h
        · rename_i final hfinal
          obtain ⟨rfl, rfl⟩ := Prod.mk.inj (Except.ok.inj h)
          rw [hfinal]
          rfl
        · cases h
    · rw [if_neg ‹_›]
      split at h
      · rename_i r hr
        obtain rfl := Except.ok.inj h
        rw [← List.cons_append, hu.bracketText?_append hcloser hr]
      · cases h

theorem Detached.shaped_append {id s rest : Text} {mention : Mention}
    (h : shaped id s = .ok (mention, rest)) : shaped id (s ++ u) = .ok (mention, rest ++ u) := by
  have hclosers : ∀ shape : Shape, shape.closer ≠ [] ∧ ∀ c ∈ shape.closer, c ∉ terminators := by
    intro shape
    cases shape <;> decide
  unfold shaped at h
  rw [shaped, hu.findShape_append]
  split at h
  · rename_i hnone
    obtain ⟨rfl, rfl⟩ := Prod.mk.inj (Except.ok.inj h)
    rw [hnone]
    rfl
  · rename_i shape inside hsome
    rw [hsome, Option.map_some, behind]
    dsimp only
    split at h
    · cases h
    · rename_i raw after hraw
      rw [hu.shapeText_append (hclosers shape).1 (hclosers shape).2 hraw]
      dsimp only
      split at h
      · cases h
      · rename_i decoded hdecoded
        obtain ⟨rfl, rfl⟩ := Prod.mk.inj (Except.ok.inj h)
        rfl

theorem Detached.mention?_append {s rest : Text} {mention : Mention}
    (h : mention? s = .ok (some (mention, rest))) :
    mention? (s ++ u) = .ok (some (mention, rest ++ u)) := by
  unfold mention? at h
  split at h
  · cases h
  · rename_i c inside hc
    rw [mention?, hu.skipBlanks_append_of_ne (by simp [hc]), hc, List.cons_append]
    dsimp only
    split at h
    · rw [if_pos ‹_›, ← List.cons_append, hu.nodeId_append, behind]
      split at h
      · cases h
      · rename_i known after hshaped
        obtain ⟨rfl, rfl⟩ := Prod.mk.inj (Option.some.inj (Except.ok.inj h))
        rw [hu.shaped_append hshaped]
        dsimp only
        rw [hu.skipClass_append]
    · cases h

theorem Detached.mention?_append_of_none {s : Text} (h : mention? s = .ok none) :
    mention? (s ++ u) = .ok none := by
  have hhead : ∀ c, (skipBlanks s).head? = some c → Text.isWord c = false := by
    intro c hc
    obtain ⟨inside, hblanks⟩ := List.head?_eq_some_iff.1 hc
    rw [mention?, hblanks] at h
    by_contra hword
    rw [Bool.not_eq_false] at hword
    simp only [hword, ↓reduceIte] at h
    split at h <;> cases h
  have hbehind : ∀ c, (skipBlanks (s ++ u)).head? = some c → Text.isWord c = false := by
    intro c hc
    rw [hu.skipBlanks_append] at hc
    split at hc
    · cases hc
    · rw [List.head?_append] at hc
      cases hblanks : (skipBlanks s).head? with
      | none => exact (hu.stops c (by simpa [hblanks] using hc)).1
      | some d =>
          rw [hblanks] at hc
          exact hhead c (hblanks.trans hc)
  rw [mention?]
  split
  · rfl
  · rename_i c inside hc
    rw [if_neg]
    rw [hbehind c (by rw [hc]; rfl)]
    exact Bool.false_ne_true

theorem Detached.moreMentions_append {s rest : Text} {mentions : List Mention}
    (h : moreMentions s = .ok (mentions, rest)) :
    moreMentions (s ++ u) = .ok (mentions, rest ++ u) := by
  have hand := hu.after?_skipBlanks_append (List.cons_ne_nil '&' []) (by decide)
  fun_induction moreMentions s generalizing mentions with
  | case1 s hnone =>
    obtain ⟨rfl, rfl⟩ := Prod.mk.inj (Except.ok.inj h)
    exact moreMentions_of_none (by rw [hand, hnone]; rfl)
  | case2 => cases h
  | case3 s inside hsome hmention =>
    obtain ⟨rfl, rfl⟩ := Prod.mk.inj (Except.ok.inj h)
    exact moreMentions_of_stray (by rw [hand, hsome]; rfl) (hu.mention?_append_of_none hmention)
  | case4 => cases h
  | case5 s inside hsome mention after hmention mentions' last hmore ih =>
    obtain ⟨rfl, rfl⟩ := Prod.mk.inj (Except.ok.inj h)
    exact moreMentions_of_some (by rw [hand, hsome]; rfl) (hu.mention?_append hmention) (ih hmore)

theorem Detached.group?_append {s rest : Text} {mentions : List Mention}
    (h : group? s = .ok (some (mentions, rest))) :
    group? (s ++ u) = .ok (some (mentions, rest ++ u)) := by
  unfold group? at h
  split at h
  · cases h
  · cases h
  · rename_i mention after hmention
    split at h
    · cases h
    · rename_i more last hmore
      obtain ⟨rfl, rfl⟩ := Prod.mk.inj (Option.some.inj (Except.ok.inj h))
      simp only [group?, hu.mention?_append hmention, hu.moreMentions_append hmore]

theorem Detached.group?_append_of_none {s : Text} (h : group? s = .ok none) :
    group? (s ++ u) = .ok none := by
  unfold group? at h
  split at h
  · cases h
  · rename_i hmention
    simp only [group?, hu.mention?_append_of_none hmention]
  · split at h <;> cases h

theorem Detached.pastSpaced?_append {stroke : Stroke}
    (hstroke : ∀ c ∈ stroke.chars, c ∉ terminators) (s : Text) :
    pastSpaced? stroke (s ++ u) = (pastSpaced? stroke s).map (· ++ u) := by
  cases s with
  | nil =>
      cases u with
      | nil => rfl
      | cons c u => simp [pastSpaced?, hu.fails (p := Text.isGap) (by decide) rfl]
  | cons c s =>
      rw [List.cons_append, pastSpaced?, pastSpaced?, ← List.cons_append, hu.skipGaps_append,
        hu.past?_append hstroke]
      split <;> rfl

theorem Detached.labelBefore?_append {stroke : Stroke}
    (hstroke : ∀ c ∈ stroke.chars, c ∉ terminators) {s label rest : Text}
    (h : labelBefore? stroke s = some (label, rest)) :
    labelBefore? stroke (s ++ u) = some (label, rest ++ u) := by
  induction s generalizing label with
  | nil => cases h
  | cons c s ih =>
      unfold labelBefore? at h
      rw [List.cons_append, labelBefore?, hu.pastSpaced?_append hstroke]
      split at h
      · rename_i after hafter
        obtain ⟨rfl, rfl⟩ := Prod.mk.inj (Option.some.inj h)
        rw [hafter]
        rfl
      · rename_i hnone
        obtain ⟨r, hr, heq⟩ := Option.map_eq_some_iff.1 h
        obtain ⟨rfl, rfl⟩ := Prod.mk.inj heq
        rw [hnone, Option.map_none]
        simp only [ih hr]
        rfl

theorem Detached.barLabel_append {s label rest : Text} (h : barLabel s = .ok (label, rest)) :
    barLabel (s ++ u) = .ok (label, rest ++ u) := by
  have hbar := hu.after?_skipBlanks_append (List.cons_ne_nil '|' []) (by decide) s
  unfold barLabel at h
  rw [barLabel, hbar]
  split at h
  · rename_i hnone
    obtain ⟨rfl, rfl⟩ := Prod.mk.inj (Except.ok.inj h)
    rw [hnone]
    rfl
  · rename_i inside hinside
    rw [hinside, Option.map_some]
    split at h
    · cases h
    · rename_i c after hafter
      obtain ⟨rfl, rfl⟩ := Prod.mk.inj (Except.ok.inj h)
      obtain ⟨htake, hdrop⟩ := Text.run_append_of_cons hafter u
      simp only [hdrop, htake]

end Detached

theorem exists_rod_of_plain? {s rest : Text} {style : EdgeStyle}
    (h : plain? s = some (style, rest)) : ∃ rod extra, s = Rod.text extra rod ++ rest := by
  obtain ⟨arrow, harrow, h⟩ := List.exists_of_findSome?_eq_some h
  obtain ⟨after, hafter, heq⟩ := Option.map_eq_some_iff.1 h
  obtain ⟨-, rfl⟩ := Prod.mk.inj heq
  obtain ⟨n, hleast, rfl⟩ := exists_run_of_past? hafter
  obtain ⟨extra, rfl⟩ := Nat.exists_eq_add_of_le hleast
  simp only [plainArrows, List.mem_cons, List.not_mem_nil, or_false] at harrow
  rcases harrow with rfl | rfl | rfl | rfl | rfl | rfl
  · exact ⟨.dotted, extra, by simp [Rod.text, Nat.add_comm]⟩
  · exact ⟨.thick, extra, by simp [Rod.text, Nat.add_comm]⟩
  · exact ⟨.arrow, extra, by simp [Rod.text, Nat.add_comm]⟩
  · exact ⟨.dottedLine, extra, by simp [Rod.text, Nat.add_comm]⟩
  · exact ⟨.thickLine, extra, by simp [Rod.text, Nat.add_comm]⟩
  · exact ⟨.line, extra, by simp [Rod.text, Nat.add_comm]⟩

/-- A label inside an arrow of a text ends where it ended, with more behind the text. -/
def Steady (u s : Text) : Prop := ∀ t connector rest, t <:+ s →
  labelled? t = some (connector, rest) → labelled? (t ++ u) = some (connector, rest ++ u)

theorem Steady.of_suffix {u s t : Text} (h : Steady u s) (ht : t <:+ s) : Steady u t :=
  fun r connector rest hr => h r connector rest (hr.trans ht)

section Connections

variable {u : Text} (hu : Detached u)

include hu

theorem Detached.connector?_append {s rest : Text} {connector : Connector} (hs : Steady u s)
    (h : connector? s = .ok (some (connector, rest))) :
    connector? (s ++ u) = .ok (some (connector, rest ++ u)) := by
  have hne : skipBlanks s ≠ [] := by
    intro hblank
    rw [connector?, hblank] at h
    cases h
  unfold connector? at h
  rw [connector?, hu.skipBlanks_append_of_ne hne]
  split at h
  · rename_i r hr
    obtain rfl := Option.some.inj (Except.ok.inj h)
    rw [hs _ _ _ (suffix_skipBlanks s) hr]
  · split at h
    · cases h
    · rename_i style after hplain
      obtain ⟨rod, extra, hrod⟩ := exists_rod_of_plain? hplain
      have hnone : labelled? (skipBlanks s ++ u) = none := by
        rw [hrod, List.append_assoc]
        exact labelled?_rod rod extra _
      rw [hnone, hu.plain?_append, hplain, Option.map_some, behind]
      dsimp only
      split at h
      · cases h
      · rename_i label final hbar
        obtain ⟨rfl, rfl⟩ := Prod.mk.inj (Option.some.inj (Except.ok.inj h))
        rw [hu.barLabel_append hbar]

theorem Detached.connections_append {s rest : Text} {chain : List (Connector × List Mention)}
    (hs : Steady u s) (h : connections s = .ok (chain, rest))
    (hlast : connector? rest = .ok none → connector? (rest ++ u) = .ok none) :
    connections (s ++ u) = .ok (chain, rest ++ u) := by
  fun_induction connections s generalizing chain with
  | case1 => cases h
  | case2 s hnone =>
    obtain ⟨rfl, rfl⟩ := Prod.mk.inj (Except.ok.inj h)
    exact connections_of_none (hlast hnone)
  | case3 => cases h
  | case4 s connector inside hconnector hgroup =>
    obtain ⟨rfl, rfl⟩ := Prod.mk.inj (Except.ok.inj h)
    exact connections_of_stray (hu.connector?_append hs hconnector)
      (hu.group?_append_of_none hgroup)
  | case5 => cases h
  | case6 s connector inside hconnector targets after hgroup more last hmore ih =>
    obtain ⟨rfl, rfl⟩ := Prod.mk.inj (Except.ok.inj h)
    have hafter := (suffix_of_group? hgroup).trans (suffix_of_connector? hconnector)
    exact connections_of_some (hu.connector?_append hs hconnector) (hu.group?_append hgroup)
      (ih (hs.of_suffix hafter) hmore)

theorem Detached.read?_append {s rest : Text} {statement : Statement} (hs : Steady u s)
    (h : Statement.read? s = .ok (some (statement, rest)))
    (hlast : connector? rest = .ok none → connector? (rest ++ u) = .ok none) :
    Statement.read? (s ++ u) = .ok (some (statement, rest ++ u)) := by
  unfold Statement.read? at h
  split at h
  · cases h
  · cases h
  · rename_i sources after hgroup
    split at h
    · cases h
    · rename_i chain last hchain
      split at h
      · cases h
      · rename_i segments hsegments
        obtain ⟨rfl, rfl⟩ := Prod.mk.inj (Option.some.inj (Except.ok.inj h))
        have hconnections :=
          hu.connections_append (hs.of_suffix (suffix_of_group? hgroup)) hchain hlast
        simp only [Statement.read?, hu.group?_append hgroup, hconnections, hsegments]

end Connections

end Flowchart.Chart
