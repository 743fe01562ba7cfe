import Flowchart.Chart.Writer
import Flowchart.Proofs.Chart.Ident
import Flowchart.Proofs.Chart.Wording

/-!
# Reading of written lines

A line that is written for a node or an edge is read as the statement that it stands for: shapes
are closed where their text ends, and arrows are not mistaken for others.
-/

namespace Flowchart.Chart

theorem skipBlanks_eq_self {s : Text} (hgap : ∀ c, s.head? = some c → Text.isGap c = false)
    (hcomment : Text.startsWith s "%%".toList = false) : skipBlanks s = s := by
  have hgaps : Text.skipGaps s = s := by
    cases s with
    | nil => rfl
    | cons c s =>
        rw [Text.skipGaps, List.dropWhile_cons_of_neg (by simp [hgap c rfl])]
  rw [skipBlanks, hgaps, hcomment]
  rfl

theorem skipBlanks_cons {c : Char} (hgap : Text.isGap c = false) (hpercent : c ≠ '%') (s : Text) :
    skipBlanks (c :: s) = c :: s := by
  apply skipBlanks_eq_self
  · intro d hd
    rwa [← Option.some.inj hd]
  · simp [Text.startsWith, Text.after?, hpercent.symm]

theorem skipBlanks_spaces_append (n : Nat) (s : Text) :
    skipBlanks (Text.spaces n ++ s) = skipBlanks s := by
  have hgaps : Text.skipGaps (Text.spaces n ++ s) = Text.skipGaps s := by
    rw [Text.skipGaps, List.dropWhile_append_of_pos]
    · rfl
    · intro c hc
      rw [List.eq_of_mem_replicate hc]
      decide
  rw [skipBlanks, hgaps, skipBlanks]

theorem skipBlanks_space (s : Text) : skipBlanks (' ' :: s) = skipBlanks s :=
  skipBlanks_spaces_append 1 s

theorem not_gap_of_not_blank {c : Char} (h : Text.isBlank c = false) : Text.isGap c = false := by
  cases hgap : Text.isGap c with
  | false => rfl
  | true =>
      rw [Text.isGap, Bool.or_eq_true, beq_iff_eq, beq_iff_eq] at hgap
      rcases hgap with rfl | rfl
      · exact absurd h (by decide)
      · exact absurd h (by decide)

theorem not_gap_of_isWord {c : Char} (h : Text.isWord c = true) : Text.isGap c = false := by
  have hne : ∀ d, Text.isWord d = false → c ≠ d := fun d hd => Text.ne_of_class h (by simp [hd])
  rw [Text.isGap, Bool.or_eq_false_iff, beq_eq_false_iff_ne, beq_eq_false_iff_ne]
  exact ⟨hne ' ' (by decide), hne '\t' (by decide)⟩

theorem quotedText_append {quote : Char} {s : Text} (h : quote ∉ s) (rest : Text) :
    quotedText quote (s ++ quote :: rest) = .ok (s, rest) := by
  induction s with
  | nil => rw [List.nil_append, quotedText, if_pos rfl]
  | cons c s ih =>
      rw [List.mem_cons, not_or] at h
      rw [List.cons_append, quotedText, if_neg (Ne.symm h.1), ih h.2]

/-- From a depth, a text comes back to where it may be closed, and no bracket closes before that
which was not opened. -/
def Levels (opener : Option Char) (close : Char) : Nat → Text → Prop
  | depth, [] => depth = 0
  | depth, c :: s => (depth = 0 → c ≠ close) ∧ Levels opener close (deepen opener close depth c) s

/-- A text goes to the closer that stands outside of the brackets in it. -/
theorem bracketText?_of_levels {opener : Option Char} {close : Char} {depth : Nat} {s : Text}
    (h : Levels opener close depth s) (closer rest : Text) :
    bracketText? opener (close :: closer) depth (s ++ close :: closer ++ rest) =
      some (s, rest) := by
  induction s generalizing depth with
  | nil =>
      obtain rfl : depth = 0 := h
      have hafter : Text.after? (close :: closer) (close :: closer ++ rest) = some rest :=
        Text.after?_append _ _
      rw [List.nil_append, List.cons_append, bracketText?, if_pos rfl, ← List.cons_append, hafter]
  | cons c s ih =>
      have hhere : (if depth = 0 then
          Text.after? (close :: closer) (c :: (s ++ close :: closer ++ rest)) else none) = none := by
        split
        · rename_i hdepth
          simp [Text.after?, Ne.symm (h.1 hdepth)]
        · rfl
      rw [List.cons_append, List.cons_append, bracketText?, hhere, List.headD_cons, ih h.2]
      rfl

theorem levels_of_bare {opener : Option Char} {close : Char} {s : Text} (hclose : close ∉ s)
    (hopen : ∀ c ∈ s, opener ≠ some c) : Levels opener close 0 s := by
  induction s with
  | nil => rfl
  | cons c s ih =>
      rw [List.mem_cons, not_or] at hclose
      obtain ⟨hc, hopen⟩ := List.forall_mem_cons.1 hopen
      refine ⟨fun _ => Ne.symm hclose.1, ?_⟩
      rw [deepen, if_neg hc, if_neg (Ne.symm hclose.1)]
      exact ih hclose.2 hopen

theorem shapeText_quoted {s : Text} (h : '"' ∉ s) {close : Char} (hgap : Text.isGap close = false)
    (hpercent : close ≠ '%') (node closer rest : Text) :
    shapeText node (close :: closer) ('"' :: s ++ ['"'] ++ close :: closer ++ rest) =
      .ok (s, rest) := by
  have hstart : '"' :: s ++ ['"'] ++ close :: closer ++ rest =
      '"' :: (s ++ '"' :: (close :: closer ++ rest)) := by simp
  have hafter : Text.after? (close :: closer) (skipBlanks (close :: closer ++ rest)) = some rest := by
    rw [List.cons_append, skipBlanks_cons hgap hpercent, ← List.cons_append, Text.after?_append]
  rw [shapeText, hstart, skipBlanks_cons (by decide) (by decide)]
  simp only [true_or, ↓reduceIte]
  rw [quotedText_append h]
  simp only [hafter]

theorem shapeText_bare {s tail : Text} (hgap : ∀ c, s.head? = some c → Text.isGap c = false)
    (hquote : ∀ c, s.head? = some c → c ≠ '"' ∧ c ≠ '\'') (hne : s ≠ [])
    {node closer text rest : Text} (hcomment : Text.startsWith (s ++ tail) "%%".toList = false)
    (htext : bracketText? (nesting? (closer.headD ' ')) closer 0 (s ++ tail) = some (text, rest)) :
    shapeText node closer (s ++ tail) = .ok (text, rest) := by
  obtain ⟨c, s, rfl⟩ := List.exists_cons_of_ne_nil hne
  have hblanks : skipBlanks (c :: s ++ tail) = c :: (s ++ tail) :=
    skipBlanks_eq_self hgap hcomment
  have hc := hquote c rfl
  rw [shapeText, hblanks]
  simp only [hc.1, hc.2, or_self, ↓reduceIte]
  rw [List.cons_append] at htext
  simp only [htext]

def writtenShapes : List Shape := [.stadium, .rhombus, .diamond, .rectangle]

theorem shapeOf_mem (kind : NodeKind) (node : Node) : shapeOf kind node ∈ writtenShapes := by
  cases kind with
  | start => exact List.mem_cons_self
  | finish => exact List.mem_cons_self
  | decision =>
      simp only [shapeOf]
      split <;> simp [writtenShapes]
  | action =>
      simp only [shapeOf]
      split <;> simp [writtenShapes]
  | isolated =>
      simp only [shapeOf]
      split <;> simp [writtenShapes]

def openingMarks : List Char := ['[', '(', '\x7b']

theorem findShape_append {shape : Shape} (h : shape ∈ writtenShapes) {c : Char}
    (hc : c ∉ openingMarks) (rest : Text) :
    (Shape.all.findSome? fun other =>
      (Text.after? other.opener (shape.opener ++ c :: rest)).map (other, ·)) =
        some (shape, c :: rest) := by
  -- No longer opener is taken for the one that was written.
  simp only [openingMarks, List.mem_cons, List.not_mem_nil, or_false, not_or] at hc
  obtain ⟨hsquare, hround, hcurly⟩ := hc
  simp only [writtenShapes, List.mem_cons, List.not_mem_nil, or_false] at h
  rcases h with rfl | rfl | rfl | rfl <;>
    simp [Shape.all, Shape.opener, Text.after?, Ne.symm hsquare, Ne.symm hround, Ne.symm hcurly]

theorem exists_closer {shape : Shape} (h : shape ∈ writtenShapes) :
    ∃ close closer opener, shape.closer = close :: closer ∧ nesting? close = some opener ∧
      (close ∈ "[]()\x7b\x7d".toList ∧ opener ∈ "[]()\x7b\x7d".toList) := by
  simp only [writtenShapes, List.mem_cons, List.not_mem_nil, or_false] at h
  rcases h with rfl | rfl | rfl | rfl
  · exact ⟨']', [')'], '[', rfl, rfl, by decide⟩
  · exact ⟨'\x7d', ['\x7d'], '\x7b', rfl, rfl, by decide⟩
  · exact ⟨'\x7d', [], '\x7b', rfl, rfl, by decide⟩
  · exact ⟨']', [], '[', rfl, rfl, by decide⟩

namespace PlainText

variable {s : Text} (h : PlainText s)

include h

theorem bracket_not_mem (hs : s.any isBracket = false) {c : Char}
    (hc : c ∈ "[]()\x7b\x7d".toList) : c ∉ oneLine s := by
  have hall : ("[]()\x7b\x7d".toList.all fun c =>
      isBracket c && !"<br/>".toList.contains c) = true := by decide
  have hmarks := List.all_eq_true.1 hall c hc
  rw [Bool.and_eq_true, Bool.not_eq_true', List.contains_eq_mem, decide_eq_false_iff_not] at hmarks
  intro hmem
  rcases h.mem_oneLine hmem with ⟨hmem, -⟩ | hmem
  · rw [List.any_eq_false] at hs
    exact hs c hmem hmarks.1
  · exact hmarks.2 hmem

theorem nodeText_head {limit : Int} (hfits : Fits limit (oneLine s)) :
    ∃ c rest, nodeText limit s = c :: rest ∧ c ∉ openingMarks := by
  rw [h.nodeText_eq hfits]
  split
  · exact ⟨'"', _, rfl, by decide⟩
  · rename_i hbare
    obtain ⟨c, rest, -, hhead, -⟩ := h.oneLine_head
    refine ⟨c, _, hhead, ?_⟩
    intro hc
    have hall : (openingMarks.all ("[]()\x7b\x7d".toList.contains ·)) = true := by decide
    refine h.bracket_not_mem (by simpa using hbare) ?_ (hhead ▸ List.mem_cons_self)
    simpa using List.all_eq_true.1 hall c hc

theorem shapeText_eq {limit : Int} (hfits : Fits limit (oneLine s)) {shape : Shape}
    (hshape : shape ∈ writtenShapes) (node rest : Text) :
    shapeText node shape.closer (nodeText limit s ++ shape.closer ++ rest) =
      .ok (oneLine s, rest) := by
  obtain ⟨close, closer, opener, hcloser, hnesting, hclose, hopener⟩ := exists_closer hshape
  have hall : ("[]()\x7b\x7d".toList.all fun c => !Text.isGap c && c != '%') = true := by decide
  have hmark := List.all_eq_true.1 hall close hclose
  simp only [Bool.and_eq_true, Bool.not_eq_true', bne_iff_ne, ne_eq] at hmark
  rw [h.nodeText_eq hfits, hcloser]
  split
  · exact shapeText_quoted (h.not_mem_oneLine (.inl rfl) (by decide)) hmark.1 hmark.2 node closer rest
  · rename_i hbare
    have hbare : s.any isBracket = false := by simpa using hbare
    obtain ⟨c, tail, -, hhead, hblank, hquote, hmarkup⟩ := h.oneLine_head
    rw [List.append_assoc]
    apply shapeText_bare
    · intro d hd
      obtain rfl : c = d := by simpa [hhead] using hd
      exact not_gap_of_not_blank hblank
    · intro d hd
      obtain rfl : c = d := by simpa [hhead] using hd
      exact ⟨Text.ne_of_class hmarkup (by decide), hquote⟩
    · simp [hhead]
    · apply h.no_comment
      simpa using hmark.2
    · rw [← List.append_assoc, List.headD_cons, hnesting]
      apply bracketText?_of_levels
      apply levels_of_bare (h.bracket_not_mem hbare hclose)
      intro d hd heq
      exact h.bracket_not_mem hbare hopener (Option.some.inj heq ▸ hd)

theorem shaped_eq {limit : Int} (hfits : Fits limit (oneLine s)) {shape : Shape}
    (hshape : shape ∈ writtenShapes) (id rest : Text) :
    shaped id (shape.opener ++ nodeText limit s ++ shape.closer ++ rest) =
      .ok (⟨id, some (oneLine s), shape⟩, rest) := by
  obtain ⟨c, tail, htext, hc⟩ := h.nodeText_head hfits
  have hfind := findShape_append hshape hc (tail ++ shape.closer ++ rest)
  have hclosed := h.shapeText_eq hfits hshape id rest
  rw [htext] at hclosed ⊢
  simp only [List.append_assoc, List.cons_append] at hfind hclosed ⊢
  obtain ⟨d, after, -, hhead, -⟩ := h.oneLine_head
  have hempty : (oneLine s).isEmpty = false := by rw [hhead, List.isEmpty_cons]
  rw [shaped, hfind]
  simp only [hclosed, h.decode_oneLine, hempty]
  rfl

end PlainText

theorem moreMentions_of_none {s : Text} (h : Text.after? ['&'] (skipBlanks s) = none) :
    moreMentions s = .ok ([], s) := by
  unfold moreMentions
  split
  · rfl
  · rename_i hsome
    rw [h] at hsome
    cases hsome

namespace IsDashed

variable {id rest : Text} (h : IsDashed id)

include h

theorem skipBlanks_append (rest : Text) : skipBlanks (id ++ rest) = id ++ rest := by
  obtain ⟨c, s, rfl, hc⟩ := h.head
  exact skipBlanks_cons (not_gap_of_isWord hc) (Text.ne_of_class hc (by decide)) _

theorem mention?_eq {after : Text} {mention : Mention} (hrest : Stops rest)
    (hshaped : shaped id rest = .ok (mention, after)) :
    mention? (id ++ rest) = .ok (some (mention, skipClass after)) := by
  have hblanks := h.skipBlanks_append rest
  have hnode := h.nodeId_append hrest
  obtain ⟨c, s, rfl, hc⟩ := h.head
  rw [List.cons_append] at hblanks hnode ⊢
  rw [mention?, hblanks]
  simp only [hc, ↓reduceIte, hnode, hshaped]

theorem group?_eq {after : Text} {mention : Mention} (hrest : Stops rest)
    (hshaped : shaped id rest = .ok (mention, after))
    (hmore : Text.after? ['&'] (skipBlanks (skipClass after)) = none) :
    group? (id ++ rest) = .ok (some ([mention], skipClass after)) := by
  simp only [group?, h.mention?_eq hrest hshaped, moreMentions_of_none hmore]

end IsDashed

/-- What follows an arrow: a blank, or a bar before a label. -/
def Follows (rest : Text) : Prop := rest.head? = some ' ' ∨ rest.head? = some '|'

theorem labelled?_arrowOf (style : EdgeStyle) {rest : Text} (h : Follows rest) :
    labelled? (arrowOf style ++ rest) = none := by
  rcases h with h | h
  · obtain ⟨rest, rfl⟩ := List.head?_eq_some_iff.1 h
    cases style <;> rfl
  · obtain ⟨rest, rfl⟩ := List.head?_eq_some_iff.1 h
    cases style <;> rfl

theorem plain?_arrowOf (style : EdgeStyle) {rest : Text} (h : Follows rest) :
    plain? (arrowOf style ++ rest) = some (style, rest) := by
  rcases h with h | h
  · obtain ⟨rest, rfl⟩ := List.head?_eq_some_iff.1 h
    cases style <;> rfl
  · obtain ⟨rest, rfl⟩ := List.head?_eq_some_iff.1 h
    cases style <;> rfl

theorem skipBlanks_arrowOf (style : EdgeStyle) (rest : Text) :
    skipBlanks (' ' :: arrowOf style ++ rest) = arrowOf style ++ rest := by
  rw [List.cons_append, skipBlanks_space]
  cases style <;> exact skipBlanks_cons (by decide) (by decide) _

def bars (label : Text) : Text := if label.isEmpty then [] else '|' :: label ++ ['|']

theorem follows_bars (label rest : Text) : Follows (bars label ++ ' ' :: rest) := by
  unfold bars
  split
  · exact .inl rfl
  · exact .inr rfl

theorem barLabel_bars {label rest : Text} (hlabel : '|' ∉ label)
    (hrest : Text.after? ['|'] (skipBlanks rest) = none) :
    barLabel (bars label ++ rest) = .ok (label, rest) := by
  unfold bars
  split
  · rename_i hempty
    obtain rfl : label = [] := List.isEmpty_iff.1 hempty
    rw [List.nil_append, barLabel, hrest]
  · have hinside : ∀ c ∈ label, (c != '|') = true := by
      intro c hc
      rw [bne_iff_ne]
      rintro rfl
      exact hlabel hc
    have hblanks : skipBlanks ('|' :: label ++ ['|'] ++ rest) =
        '|' :: (label ++ '|' :: rest) := by
      rw [List.append_assoc, List.cons_append]
      exact skipBlanks_cons (by decide) (by decide) _
    have hafter : Text.after? ['|'] ('|' :: (label ++ '|' :: rest)) =
        some (label ++ '|' :: rest) := by simp [Text.after?]
    rw [barLabel, hblanks, hafter]
    simp [List.dropWhile_append_of_pos hinside, List.takeWhile_append_of_pos hinside]

theorem no_bar {c : Char} (hc : Text.isWord c = true) (s : Text) :
    Text.after? ['|'] (skipBlanks (' ' :: c :: s)) = none := by
  have hbar : c ≠ '|' := Text.ne_of_class hc (by decide)
  rw [skipBlanks_space,
    skipBlanks_cons (not_gap_of_isWord hc) (Text.ne_of_class hc (by decide))]
  simp [Text.after?, hbar.symm]

theorem connector?_eq (style : EdgeStyle) {label : Text} (hlabel : '|' ∉ label) {id : Text}
    (h : IsDashed id) :
    connector? (' ' :: arrowOf style ++ (bars label ++ ' ' :: id)) =
      .ok (some (⟨style, label⟩, ' ' :: id)) := by
  have hfollows := follows_bars label id
  have hbars : barLabel (bars label ++ ' ' :: id) = .ok (label, ' ' :: id) := by
    obtain ⟨c, s, rfl, hc⟩ := h.head
    exact barLabel_bars hlabel (no_bar hc s)
  simp only [connector?, skipBlanks_arrowOf, labelled?_arrowOf style hfollows,
    plain?_arrowOf style hfollows, hbars]

theorem connections_nil : connections [] = .ok ([], []) := by
  unfold connections
  split
  · rename_i hconnector
    cases hconnector
  · rfl
  · rename_i hconnector
    cases hconnector

theorem connections_of_some {s rest after last : Text} {connector : Connector}
    {targets : List Mention} {more : List (Connector × List Mention)}
    (hconnector : connector? s = .ok (some (connector, rest)))
    (htargets : group? rest = .ok (some (targets, after)))
    (hmore : connections after = .ok (more, last)) :
    connections s = .ok ((connector, targets) :: more, last) := by
  unfold connections
  split
  · rename_i heq
    rw [hconnector] at heq
    cases heq
  · rename_i heq
    rw [hconnector] at heq
    cases heq
  · rename_i connector' rest' heq
    rw [hconnector] at heq
    cases heq
    split
    · rename_i heq
      rw [htargets] at heq
      cases heq
    · rename_i heq
      rw [htargets] at heq
      cases heq
    · rename_i targets' after' heq
      rw [htargets] at heq
      cases heq
      rw [hmore]

theorem decodeLabel_eq {label : Text} (h : label ≠ [] → PlainMark label) :
    decodeLabel label = .ok (if label.isEmpty then none else some label) := by
  cases label with
  | nil => rfl
  | cons c label =>
      have hplain := h (List.cons_ne_nil c label)
      rw [decodeLabel, hplain.decode_eq]

theorem stops_opener {shape : Shape} (h : shape ∈ writtenShapes) (rest : Text) :
    Stops (shape.opener ++ rest) := by
  simp only [writtenShapes, List.mem_cons, List.not_mem_nil, or_false] at h
  rcases h with rfl | rfl | rfl | rfl <;> exact stops_cons (by decide) (by decide) _

namespace Statement

theorem read?_node {id s : Text} (hid : Ident id) (hs : PlainText s) {limit : Int}
    (hfits : Fits limit (oneLine s)) {shape : Shape} (hshape : shape ∈ writtenShapes) :
    read? (id ++ (shape.opener ++ (nodeText limit s ++ shape.closer))) =
      .ok (some ({ sources := [⟨id, some (oneLine s), shape⟩] }, [])) := by
  have hstops := stops_opener hshape (nodeText limit s ++ shape.closer)
  have hshaped := hs.shaped_eq hfits hshape id []
  rw [List.append_nil, List.append_assoc] at hshaped
  have hgroup := hid.dashed.group?_eq hstops hshaped rfl
  have hskip : skipClass [] = [] := rfl
  rw [hskip] at hgroup
  simp only [read?, hgroup, connections_nil]
  rfl

theorem read?_link {source target label : Text} (hsource : IsDashed source)
    (htarget : IsDashed target) (hbar : '|' ∉ label) (style : EdgeStyle) :
    read? (source ++ (' ' :: arrowOf style ++ (bars label ++ ' ' :: target))) =
      (decodeLabel label).map fun text =>
        some (⟨[{ id := source }], [⟨style, text, [{ id := target }]⟩]⟩, []) := by
  have hsources : group? (source ++ (' ' :: arrowOf style ++ (bars label ++ ' ' :: target))) =
      .ok (some ([{ id := source }], ' ' :: arrowOf style ++ (bars label ++ ' ' :: target))) := by
    have hstops : Stops (' ' :: arrowOf style ++ (bars label ++ ' ' :: target)) :=
      stops_cons (by decide) (by decide) _
    refine hsource.group?_eq hstops rfl ?_
    change Text.after? ['&'] (skipBlanks (' ' :: arrowOf style ++ _)) = none
    rw [skipBlanks_arrowOf]
    cases style <;> rfl
  have htargets : group? (' ' :: target) = .ok (some ([{ id := target }], [])) := by
    have hshaped : shaped target [] = .ok ({ id := target }, []) := rfl
    have hgroup := htarget.group?_eq stops_nil hshaped rfl
    rw [List.append_nil] at hgroup
    rw [group?, mention?, skipBlanks_space]
    exact hgroup
  have hchain := connections_of_some (connector?_eq style hbar htarget) htargets connections_nil
  simp only [read?, hsources, hchain, segmentsOf]
  cases decodeLabel label <;> rfl

theorem read?_edge {source target label : Text} (hsource : Ident source) (htarget : Ident target)
    (hlabel : label ≠ [] → PlainMark label) (style : EdgeStyle) :
    read? (source ++ (' ' :: arrowOf style ++ (bars label ++ ' ' :: target))) =
      .ok (some (⟨[{ id := source }],
        [⟨style, if label.isEmpty then none else some label, [{ id := target }]⟩]⟩, [])) := by
  have hbar : '|' ∉ label := by
    intro hmem
    exact (hlabel (List.ne_nil_of_mem hmem)).not_mem (by decide) hmem
  rw [read?_link hsource.dashed htarget.dashed hbar, decodeLabel_eq hlabel]
  rfl

end Statement

theorem feed_not_mem_indented {s : Text} (h : '\n' ∉ s) : '\n' ∉ indented s := by
  rw [indented, List.mem_append, not_or]
  exact ⟨by decide, h⟩

theorem feed_not_mem_shape (shape : Shape) : '\n' ∉ shape.opener ∧ '\n' ∉ shape.closer := by
  cases shape <;> decide

theorem feed_not_mem_arrowOf (style : EdgeStyle) : '\n' ∉ arrowOf style := by
  cases style <;> decide

theorem feed_not_mem_bars {label : Text} (h : '\n' ∉ label) : '\n' ∉ bars label := by
  unfold bars
  split <;> simp [h]

def Line.begun : Except Fault (Option (Statement × Text)) → Line
  | .error fault => { ending := .broken fault }
  | .ok none => { ending := .unrecognized }
  | .ok (some (statement, after)) => (readFrom false after).push statement

theorem Line.readFrom_nil (free : Bool) : readFrom free [] = {} := by
  unfold readFrom
  rfl

/-- A line that begins with an id says nothing if its id says so, and else begins with a
statement. -/
theorem IsDashed.read_eq {id rest : Text} (h : IsDashed id) (hne : id ≠ "end".toList)
    (hrest : Stops rest) (indent : Nat) :
    Line.read (Text.spaces indent ++ (id ++ rest)) =
      if isSkipped (id ++ rest) then {} else Line.begun (Statement.read? (id ++ rest)) := by
  have hblanks : skipBlanks (Text.spaces indent ++ (id ++ rest)) = id ++ rest := by
    rw [skipBlanks_spaces_append, h.skipBlanks_append]
  have hend := h.not_end hrest hne
  obtain ⟨c, s, rfl, hc⟩ := h.head
  have hseparator : isSeparator c = false := by
    rw [isSeparator, Bool.or_eq_false_iff, beq_eq_false_iff_ne, beq_eq_false_iff_ne]
    exact ⟨Text.ne_of_class hc (by decide), Text.ne_of_class hc (by decide)⟩
  rw [List.cons_append] at *
  rw [Line.read]
  unfold Line.readFrom
  split
  · rename_i hempty
    rw [hblanks] at hempty
    cases hempty
  · rename_i d tail htail
    rw [hblanks] at htail
    cases htail
    simp only [hseparator, Bool.not_true, Bool.false_eq_true, ↓reduceIte]
    split
    · rfl
    · split
      · rename_i after hafter
        rw [hend] at hafter
        cases hafter
      · split <;> rename_i heq <;> rw [heq] <;> rfl

theorem IsDashed.read_line {id rest : Text} {statement : Statement} (h : IsDashed id)
    (hordinary : ¬ IsReserved id) (hrest : Stops rest)
    (hread : Statement.read? (id ++ rest) = .ok (some (statement, []))) (indent : Nat) :
    Line.read (Text.spaces indent ++ (id ++ rest)) = { statements := [statement] } := by
  rw [h.read_eq (fun heq => hordinary (.inl heq)) hrest, h.not_skipped hrest hordinary, hread,
    Line.begun, Line.readFrom_nil]
  rfl

theorem Ident.read_indented {id rest : Text} {statement : Statement} (h : Ident id)
    (hrest : Stops rest)
    (hread : Statement.read? (id ++ rest) = .ok (some (statement, []))) :
    Line.read (indented (id ++ rest)) = { statements := [statement] } :=
  h.dashed.read_line h.not_reserved hrest hread 4

end Flowchart.Chart
